import StimulusBench.Recognizer

/-!
# `StimulusBench.Proofs.Recognizer.Step` — what one record and what a list of records does

`Recognizer.step` has five branches and `Recognizer.extend` two; each has its equation here, with the
guard of the branch as hypotheses. Whatever is proved about the recognizer further up cites these
equations and does not open the definitions again.

## Contents
- **Steps.** `step_reset`, `step_locked`, `step_start`, `step_continue`, `step_idle`, and for the end
  of a write `extend_short`, `extend_last`, `complete_correct`, `complete_wrong`.
- **Runs.** `run_append` splits a run; `run_outputs_getElem?` and `run_take_succ` look at one position
  of it.
- **Every single record.** `Along` relates the states before and behind each record of a run.
-/

namespace StimulusBench

namespace Recognizer

variable {refs : ReferencePair} {m : Recognizer} {r : Record} {v : Value}

/-! ## Steps -/

/-- **A reset forgets everything**, the warning included. -/
theorem step_reset (hr : r.isReset = true) : m.step refs r = (fresh, fresh.outputs false) := by
  unfold step
  rw [if_pos hr]

/-- **Lockout.** Once the warning is raised a write changes nothing. -/
theorem step_locked (hr : r.isReset = false) (hw : m.warning = true) :
    m.step refs r = (m, m.outputs false) := by
  unfold step
  rw [if_neg (by simp [hr]), if_pos hw]

/-- A start-marked write begins an attempt, whatever was collected before. -/
theorem step_start (hr : r.isReset = false) (hw : m.warning = false) (hs : r.start = true) :
    m.step refs r = extend refs { m with attempt := [], inAttempt := true } r.value := by
  unfold step
  rw [if_neg (by simp [hr]), if_neg (by simp [hw]), if_pos hs]

/-- An unmarked write goes into the attempt in progress. -/
theorem step_continue (hr : r.isReset = false) (hw : m.warning = false) (hs : r.start = false)
    (hi : m.inAttempt = true) : m.step refs r = extend refs m r.value := by
  unfold step
  rw [if_neg (by simp [hr]), if_neg (by simp [hw]), if_neg (by simp [hs]), if_pos hi]

/-- An unmarked write without an attempt in progress changes nothing, locked out or not. -/
theorem step_idle (hr : r.isReset = false) (hs : r.start = false) (hi : m.inAttempt = false) :
    m.step refs r = (m, m.outputs false) := by
  cases hw : m.warning with
  | true => exact step_locked hr hw
  | false =>
      unfold step
      rw [if_neg (by simp [hr]), if_neg (by simp [hw]), if_neg (by simp [hs]), if_neg (by simp [hi])]

/-- A value that leaves the attempt short of five is only collected. -/
theorem extend_short (h : m.attempt.length + 1 < sequenceLength) :
    extend refs m v = ({ m with attempt := m.attempt ++ [v] }, m.outputs false) := by
  unfold extend
  rw [if_pos (by simpa using h)]
  rfl

/-- The fifth value ends the attempt. -/
theorem extend_last (h : m.attempt.length + 1 = sequenceLength) :
    extend refs m v = complete refs { m with attempt := m.attempt ++ [v] } := by
  unfold extend
  rw [if_neg (by simp [h])]

/-- A correct attempt raises the unlock output and clears the failures. -/
theorem complete_correct (h : refs.isCorrect m.attempt = true) :
    complete refs m = ({ m with inAttempt := false, failures := 0 }, m.outputs true) := by
  unfold complete
  rw [if_pos h]
  rfl

/-- The state behind a wrong attempt: one more failure, and the warning from three failures on. -/
def failed (m : Recognizer) : Recognizer :=
  { m with
    inAttempt := false
    failures := countFailure m.failures
    warning := m.warning || decide (lockoutFailures ≤ countFailure m.failures) }

/-- A wrong attempt counts a failure and does not unlock. -/
theorem complete_wrong (h : refs.isCorrect m.attempt = false) :
    complete refs m = (m.failed, m.failed.outputs false) := by
  unfold complete
  rw [if_neg (by simp [h])]
  rfl

theorem extend_warning (refs : ReferencePair) (m : Recognizer) (v : Value) :
    (extend refs m v).2.warning = (extend refs m v).1.warning := by
  unfold extend complete
  dsimp only
  split
  · rfl
  · split <;> rfl

/-- The warning output of a cycle is the warning of the state behind it. -/
theorem step_warning (refs : ReferencePair) (m : Recognizer) (r : Record) :
    (m.step refs r).2.warning = (m.step refs r).1.warning := by
  unfold step
  split
  · rfl
  split
  · rfl
  split
  · exact extend_warning refs _ _
  split
  · exact extend_warning refs _ _
  · rfl

/-- The recognizer does not look at assertions. -/
theorem step_tagged (refs : ReferencePair) (m : Recognizer) (r : Record) (a : Assertion) :
    m.step refs (r.tagged a) = m.step refs r := rfl

/-! ## Runs -/

@[simp] theorem run_nil (refs : ReferencePair) (m : Recognizer) : m.run refs [] = (m, []) := rfl

theorem run_cons (refs : ReferencePair) (m : Recognizer) (r : Record) (rs : List Record) :
    m.run refs (r :: rs) =
      (((m.step refs r).1.run refs rs).1, (m.step refs r).2 :: ((m.step refs r).1.run refs rs).2) :=
  rfl

/-- One output per record. -/
@[simp] theorem length_run_outputs (refs : ReferencePair) (m : Recognizer) (rs : List Record) :
    (m.run refs rs).2.length = rs.length := by
  induction rs generalizing m with
  | nil => rfl
  | cons r rs ih => rw [run_cons, List.length_cons, List.length_cons, ih]

/-- **A run over a concatenation** goes on where the run over the first part ended. -/
theorem run_append (refs : ReferencePair) (m : Recognizer) (xs ys : List Record) :
    m.run refs (xs ++ ys) =
      (((m.run refs xs).1.run refs ys).1, (m.run refs xs).2 ++ ((m.run refs xs).1.run refs ys).2) := by
  induction xs generalizing m with
  | nil => rfl
  | cons r xs ih => rw [List.cons_append, run_cons, run_cons, ih, List.cons_append]

/-- A run over one more record ends with the step on it. -/
theorem run_concat (refs : ReferencePair) (m : Recognizer) (rs : List Record) (r : Record) :
    m.run refs (rs ++ [r]) =
      (((m.run refs rs).1.step refs r).1, (m.run refs rs).2 ++ [((m.run refs rs).1.step refs r).2]) := by
  rw [run_append]
  rfl

/-- The output at a position is that of the step on the record there, taken from the state behind
    the records before it. -/
theorem run_outputs_getElem? (refs : ReferencePair) (m : Recognizer) (rs : List Record) (k : Nat) :
    (m.run refs rs).2[k]? = rs[k]?.map fun r => ((m.run refs (rs.take k)).1.step refs r).2 := by
  induction rs generalizing m k with
  | nil => rfl
  | cons r rs ih =>
      cases k with
      | zero => rfl
      | succ k =>
          rw [run_cons, List.getElem?_cons_succ, List.getElem?_cons_succ, List.take_succ_cons, ih]
          rfl

/-- The state behind one more record. -/
theorem run_take_succ (refs : ReferencePair) (m : Recognizer) {rs : List Record} {k : Nat}
    (hk : k < rs.length) :
    (m.run refs (rs.take (k + 1))).1 = ((m.run refs (rs.take k)).1.step refs rs[k]).1 := by
  rw [List.take_succ_eq_append_getElem hk, run_concat]

/-- A run does not look at assertions. -/
theorem run_tagAll (refs : ReferencePair) (m : Recognizer) (rs : List Record) (a : Assertion) :
    m.run refs (tagAll rs a) = m.run refs rs := by
  induction rs generalizing m with
  | nil => rfl
  | cons r rs ih =>
      show m.run refs (r.tagged a :: tagAll rs a) = _
      rw [run_cons, run_cons, step_tagged, ih]

/-- **Lockout lasts** over any number of writes: nothing but a reset ends it. -/
theorem run_locked (refs : ReferencePair) {rs : List Record} (hw : m.warning = true)
    (hrs : ∀ r ∈ rs, r.isReset = false) :
    m.run refs rs = (m, List.replicate rs.length ⟨false, true⟩) := by
  have hout : m.outputs false = ⟨false, true⟩ := by rw [outputs, hw]
  induction rs with
  | nil => rfl
  | cons r rs ih =>
      have hr : r.isReset = false := hrs r List.mem_cons_self
      have hrest := ih fun r' hr' => hrs r' (List.mem_cons_of_mem r hr')
      rw [run_cons, step_locked hr hw, hrest, hout, List.length_cons, List.replicate_succ]

/-! ## Every single record -/

/-- A relation holds between the states before and behind each record of a run. -/
def Along (refs : ReferencePair) (R : Recognizer → Recognizer → Prop) :
    Recognizer → List Record → Prop
  | _, [] => True
  | m, r :: rs => R m (m.step refs r).1 ∧ Along refs R (m.step refs r).1 rs

variable {R S : Recognizer → Recognizer → Prop} {rs : List Record}

theorem along_append {xs ys : List Record} :
    Along refs R m (xs ++ ys) ↔ Along refs R m xs ∧ Along refs R (m.run refs xs).1 ys := by
  induction xs generalizing m with
  | nil => exact ⟨fun h => ⟨trivial, h⟩, fun h => h.2⟩
  | cons r xs ih =>
      rw [List.cons_append, run_cons]
      simp only [Along, ih, and_assoc]

theorem Along.mono (himp : ∀ s t, R s t → S s t) (h : Along refs R m rs) : Along refs S m rs := by
  induction rs generalizing m with
  | nil => trivial
  | cons r rs ih => exact ⟨himp _ _ h.1, ih h.2⟩

/-- The recognizer does not look at assertions on the way either. -/
theorem along_tagAll {a : Assertion} : Along refs R m (tagAll rs a) ↔ Along refs R m rs := by
  induction rs generalizing m with
  | nil => exact Iff.rfl
  | cons r rs ih => exact and_congr_right fun _ => ih

/-- **What a run carries along**: the states at any two neighbouring positions are related. Behind
    the last record nothing changes any more, which is why the relation has to be reflexive. -/
theorem Along.take_succ (hrefl : ∀ s, R s s) (h : Along refs R m rs) (k : Nat) :
    R (m.run refs (rs.take k)).1 (m.run refs (rs.take (k + 1))).1 := by
  induction rs generalizing m k with
  | nil =>
      rw [List.take_nil, List.take_nil]
      exact hrefl m
  | cons r rs ih =>
      cases k with
      | zero => exact h.1
      | succ k => exact ih h.2 k

/-- A property that no record of a run destroys holds at every position of it. -/
theorem Along.holds {P : Recognizer → Prop} (h : Along refs (fun s t => P s → P t) m rs) (hm : P m)
    (k : Nat) : P (m.run refs (rs.take k)).1 := by
  induction k with
  | zero => exact hm
  | succ k ih => exact h.take_succ (fun _ hs => hs) k ih

/-- Where no record moves the warning, it is the same behind the run and in every output of it. -/
theorem Along.outputs_eq (h : Along refs (fun s t => t.warning = s.warning) m rs) :
    (m.run refs rs).1.warning = m.warning ∧
      (m.run refs rs).2 = (m.run refs rs).2.map fun o => ⟨o.unlock, m.warning⟩ := by
  induction rs generalizing m with
  | nil => exact ⟨rfl, rfl⟩
  | cons r rs ih =>
      obtain ⟨hr, hrs⟩ := h
      obtain ⟨hend, houtputs⟩ := ih hrs
      rw [hr] at hend houtputs
      have ho : (m.step refs r).2 = ⟨(m.step refs r).2.unlock, m.warning⟩ := by
        rw [← hr, ← step_warning]
      refine ⟨hend, ?_⟩
      rw [run_cons, List.map_cons, ← houtputs, ← ho]

end Recognizer

end StimulusBench
