import StimulusBench.Proofs.Recognizer.Step
import StimulusBench.Replay

/-!
# `StimulusBench.Proofs.Replay` — a replay is a run with a report

`Recognizer.replayFrom` threads the state, three counts and the mismatches through one loop. What it
finds can be said without the loop: run the records, and read the report off the records and the
outputs of the run, position by position.

## Contents
- **Mismatches.** `mismatches`, when there are none, and how they move with the position.
- **Replays.** `replay_eq`, the report of a replay; `replay_append`, the report of a stream in two parts.
- **Assertions in bulk.** Streams without assertions, and streams with the same one everywhere.
-/

namespace StimulusBench

/-! ## Mismatches -/

/-- An assertion is met by the outputs; a record without an assertion is met by any. -/
def Record.Met (r : Record) (o : Outputs) : Prop := ∀ a, r.extra = some a → o.assertion = a

theorem Record.mismatch?_eq_none_iff {index : Nat} {r : Record} {o : Outputs} :
    r.mismatch? index o = none ↔ r.Met o := by
  unfold Record.mismatch? Record.Met
  cases r.extra with
  | none => exact ⟨fun _ a ha => absurd ha (by simp), fun _ => rfl⟩
  | some expected => simp [eq_comm]

/-- The mismatches of records with the outputs after them, the first record at the given position. -/
def mismatches (index : Nat) (records : List Record) (outputs : List Outputs) : List Mismatch :=
  ((records.zip outputs).zipIdx index).filterMap fun p => p.1.1.mismatch? p.2 p.1.2

theorem mismatches_cons (index : Nat) (r : Record) (rs : List Record) (o : Outputs)
    (os : List Outputs) :
    mismatches index (r :: rs) (o :: os) =
      (r.mismatch? index o).toList ++ mismatches (index + 1) rs os := by
  rw [mismatches, List.zip_cons_cons, List.zipIdx_cons, List.filterMap_cons]
  cases r.mismatch? index o <;> rfl

/-- **Nothing mismatches** exactly if every record is met by the outputs after it. -/
theorem mismatches_eq_nil_iff {index : Nat} {records : List Record} {outputs : List Outputs} :
    mismatches index records outputs = [] ↔ ∀ p ∈ records.zip outputs, p.1.Met p.2 := by
  rw [mismatches, List.filterMap_eq_nil_iff]
  constructor
  · intro h p hp
    obtain ⟨i, hi, rfl⟩ := List.mem_iff_getElem.mp hp
    exact Record.mismatch?_eq_none_iff.mp
      (h (_, index + i) (List.mk_add_mem_zipIdx_iff_getElem?.mpr (List.getElem?_eq_getElem hi)))
  · rintro h ⟨p, i⟩ hp
    exact Record.mismatch?_eq_none_iff.mpr (h p (List.fst_mem_of_mem_zipIdx hp))

/-- The same mismatch that many positions later. -/
def Mismatch.shift (n : Nat) (x : Mismatch) : Mismatch := { x with index := n + x.index }

theorem Record.mismatch?_shift (n index : Nat) (r : Record) (o : Outputs) :
    r.mismatch? (n + index) o = (r.mismatch? index o).map (·.shift n) := by
  unfold Record.mismatch?
  cases r.extra with
  | none => rfl
  | some expected =>
      dsimp only
      split <;> rfl

/-- Mismatches know of the position of the first record only through their own. -/
theorem mismatches_shift (n index : Nat) (records : List Record) (outputs : List Outputs) :
    mismatches (n + index) records outputs = (mismatches index records outputs).map (·.shift n) := by
  induction records generalizing index outputs with
  | nil => rfl
  | cons r rs ih =>
      cases outputs with
      | nil => rfl
      | cons o os =>
          rw [mismatches_cons, mismatches_cons, Record.mismatch?_shift, Nat.add_assoc, ih,
            List.map_append]
          cases r.mismatch? index o <;> rfl

theorem mismatches_append {index : Nat} {xs ys : List Record} {os ps : List Outputs}
    (h : xs.length = os.length) :
    mismatches index (xs ++ ys) (os ++ ps) =
      mismatches index xs os ++ mismatches (index + xs.length) ys ps := by
  have hzip : (xs.zip os).length = xs.length := by rw [List.length_zip, ← h, Nat.min_self]
  rw [mismatches, List.zip_append h, List.zipIdx_append, List.filterMap_append, hzip]
  rfl

/-- With the same assertion on every record and no output that meets it, every position is a
    mismatch. -/
theorem mismatches_tagAll_unmet {a : Assertion} {records : List Record} {outputs : List Outputs}
    (hlength : records.length = outputs.length) (h : ∀ o ∈ outputs, o.assertion ≠ a) (index : Nat) :
    mismatches index (tagAll records a) outputs =
      (outputs.zipIdx index).map fun p => ⟨p.2, a, p.1.assertion⟩ := by
  induction records generalizing outputs index with
  | nil => rw [List.eq_nil_of_length_eq_zero hlength.symm]; rfl
  | cons r rs ih =>
      cases outputs with
      | nil => cases hlength
      | cons o os =>
          have hunmet : (r.tagged a).mismatch? index o = some ⟨index, a, o.assertion⟩ := by
            show (if o.assertion = a then _ else _) = _
            rw [if_neg (h o List.mem_cons_self)]
          have hrest := ih (Nat.succ.inj hlength) fun o' ho' => h o' (List.mem_cons_of_mem o ho')
          show mismatches index (r.tagged a :: tagAll rs a) (o :: os) = _
          rw [mismatches_cons, hunmet, hrest, List.zipIdx_cons, List.map_cons]
          rfl

/-! ## Replays -/

/-- The report of two streams, the second one behind the first. -/
def Report.followedBy (first second : Report) : Report where
  steps := first.steps + second.steps
  assertions := first.assertions + second.assertions
  unlocks := first.unlocks + second.unlocks
  finalWarning := second.finalWarning
  mismatches := first.mismatches ++ second.mismatches.map (·.shift first.steps)

namespace Recognizer

theorem replayFrom_cons (refs : ReferencePair) (m : Recognizer) (index : Nat) (report : Report)
    (r : Record) (rs : List Record) :
    m.replayFrom refs index report (r :: rs) =
      (m.step refs r).1.replayFrom refs (index + 1)
        { report with
          steps := report.steps + 1
          assertions := report.assertions + (if r.extra.isSome then 1 else 0)
          unlocks := report.unlocks + (if (m.step refs r).2.unlock then 1 else 0)
          mismatches := (r.mismatch? index (m.step refs r).2).toList ++ report.mismatches } rs :=
  rfl

/-- The loop adds what it finds in the records to the counts and to the mismatches so far. -/
theorem replayFrom_eq (refs : ReferencePair) (m : Recognizer) (index : Nat) (report : Report)
    (records : List Record) :
    m.replayFrom refs index report records =
      ((m.run refs records).1,
        { steps := report.steps + records.length
          assertions := report.assertions + records.countP (·.extra.isSome)
          unlocks := report.unlocks + (m.run refs records).2.countP (·.unlock)
          finalWarning := (m.run refs records).1.warning
          mismatches := report.mismatches.reverse ++
            StimulusBench.mismatches index records (m.run refs records).2 }) := by
  induction records generalizing m index report with
  | nil => simp [replayFrom, StimulusBench.mismatches]
  | cons r rs ih =>
      -- mismatches are gathered last first, and a record adds one at most
      have hreverse : (r.mismatch? index (m.step refs r).2).toList.reverse =
          (r.mismatch? index (m.step refs r).2).toList := by
        cases r.mismatch? index (m.step refs r).2 <;> rfl
      rw [replayFrom_cons, ih, run_cons, mismatches_cons, List.countP_cons, List.countP_cons,
        List.reverse_append, hreverse, List.append_assoc, List.length_cons,
        Nat.add_right_comm report.steps]
      simp only [Nat.add_assoc, Nat.add_comm (List.countP _ _)]

/-- **A replay ends where the run ends**, and its report counts the records, their assertions and the
    unlocks, and lists the mismatches by position. -/
theorem replay_eq (refs : ReferencePair) (m : Recognizer) (records : List Record) :
    m.replay refs records =
      ((m.run refs records).1,
        { steps := records.length
          assertions := records.countP (·.extra.isSome)
          unlocks := (m.run refs records).2.countP (·.unlock)
          finalWarning := (m.run refs records).1.warning
          mismatches := StimulusBench.mismatches 0 records (m.run refs records).2 }) := by
  rw [replay, replayFrom_eq]
  simp

/-- **A replay in two parts** is the replay of the first part followed by that of the second, from
    the state in between. -/
theorem replay_append (refs : ReferencePair) (m : Recognizer) (xs ys : List Record) :
    m.replay refs (xs ++ ys) =
      (((m.replay refs xs).1.replay refs ys).1,
        (m.replay refs xs).2.followedBy ((m.replay refs xs).1.replay refs ys).2) := by
  -- the second part starts at position zero in its own replay and behind the first part here
  have hparts : StimulusBench.mismatches 0 (xs ++ ys) (m.run refs (xs ++ ys)).2 =
      StimulusBench.mismatches 0 xs (m.run refs xs).2 ++
        (StimulusBench.mismatches 0 ys ((m.run refs xs).1.run refs ys).2).map (·.shift xs.length) := by
    rw [run_append, mismatches_append (length_run_outputs refs m xs).symm, Nat.zero_add,
      ← Nat.add_zero xs.length, mismatches_shift, Nat.add_zero]
  rw [replay_eq, replay_eq, replay_eq, hparts]
  simp only [Report.followedBy, run_append, List.length_append, List.countP_append]

/-! ## Assertions in bulk -/

variable {refs : ReferencePair} {m : Recognizer} {records : List Record}

/-- Without assertions nothing is asserted and nothing mismatches. -/
theorem replay_untagged (h : ∀ r ∈ records, r.extra = none) :
    (m.replay refs records).2 =
      { steps := records.length
        assertions := 0
        unlocks := (m.run refs records).2.countP (·.unlock)
        finalWarning := (m.run refs records).1.warning
        mismatches := [] } := by
  have hassertions : records.countP (·.extra.isSome) = 0 :=
    List.countP_eq_zero.mpr fun r hr => by rw [h r hr]; exact Bool.false_ne_true
  have hmet : StimulusBench.mismatches 0 records (m.run refs records).2 = [] := by
    rw [mismatches_eq_nil_iff]
    rintro ⟨r, o⟩ hp a ha
    exact absurd ((h r (List.of_mem_zip hp).1).symm.trans ha) (by simp)
  rw [replay_eq, hassertions, hmet]

theorem countP_extra_tagAll (records : List Record) (a : Assertion) :
    (tagAll records a).countP (·.extra.isSome) = records.length := by
  have hlength : (tagAll records a).length = records.length := List.length_map _
  rw [← hlength, List.countP_eq_length]
  intro r hr
  obtain ⟨r', -, rfl⟩ := List.mem_map.mp hr
  rfl

/-- With an assertion on every record that no cycle meets, every record mismatches. -/
theorem replay_tagAll_unmet {a : Assertion} (h : ∀ o ∈ (m.run refs records).2, o.assertion ≠ a) :
    (m.replay refs (tagAll records a)).2 =
      { steps := records.length
        assertions := records.length
        unlocks := (m.run refs records).2.countP (·.unlock)
        finalWarning := (m.run refs records).1.warning
        mismatches := (m.run refs records).2.zipIdx.map fun p => ⟨p.2, a, p.1.assertion⟩ } := by
  have hlength : (tagAll records a).length = records.length := List.length_map _
  rw [replay_eq, run_tagAll, countP_extra_tagAll, hlength,
    mismatches_tagAll_unmet (length_run_outputs refs m records).symm h]

/-- With an assertion on every record that every cycle meets, nothing mismatches. -/
theorem replay_tagAll_met {a : Assertion} (h : ∀ o ∈ (m.run refs records).2, o.assertion = a) :
    (m.replay refs (tagAll records a)).2 =
      { steps := records.length
        assertions := records.length
        unlocks := (m.run refs records).2.countP (·.unlock)
        finalWarning := (m.run refs records).1.warning
        mismatches := [] } := by
  have hlength : (tagAll records a).length = records.length := List.length_map _
  have hmet : StimulusBench.mismatches 0 (tagAll records a) (m.run refs records).2 = [] := by
    rw [mismatches_eq_nil_iff]
    rintro ⟨r, o⟩ hp b hb
    obtain ⟨hr, ho⟩ := List.of_mem_zip hp
    obtain ⟨r', -, rfl⟩ := List.mem_map.mp hr
    exact (h o ho).trans (Option.some.inj hb)
  rw [replay_eq, run_tagAll, countP_extra_tagAll, hmet, hlength]

end Recognizer

end StimulusBench
