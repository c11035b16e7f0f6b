import StimulusBench.Proofs.Recognizer.Step

/-!
# `StimulusBench.Proofs.Recognizer.Sequence` — what an encoded sequence does

An encoded sequence opens an attempt with its first value, whatever state the recognizer is in. What
becomes of the attempt depends on its length only: up to four values are collected and wait, five are
judged, and values behind the fifth go by unnoticed.

## Contents
- **Encoding.** `encode_append`, `payloads_encode`, `getElem?_encode`, and `exists_encode_eq`, which finds
  the fifth value.
- **Unmarked writes.** `run_unmarked_idle`, `run_unmarked_short`.
- **Encoded sequences.** `run_encode_short`, `run_encode_full` and its two outcomes.
- **Wrong sequences.** `run_wrong_attempts` counts them, from any state.
- **On the way.** `SameCounts` and `NoWorse`: what each record of an encoded sequence does to the
  warning and to the failures.
-/

namespace StimulusBench

/-! ## Encoding -/

/-- Only the first value is marked, so that what is appended is not. -/
theorem encode_append {values more : List Value} (h : values ≠ []) :
    encode (values ++ more) = encode values ++ more.map (Record.data · false) := by
  cases values with
  | nil => exact absurd rfl h
  | cons v vs =>
      rw [List.cons_append, encode, encode, List.map_append, List.cons_append]

@[simp] theorem length_encode (values : List Value) : (encode values).length = values.length := by
  cases values with
  | nil => rfl
  | cons v vs => rw [encode, List.length_cons, List.length_map, List.length_cons]

theorem payloads_append (xs ys : List Record) : payloads (xs ++ ys) = payloads xs ++ payloads ys :=
  List.map_append

/-- **Encoding keeps the values.** -/
@[simp] theorem payloads_encode (values : List Value) : payloads (encode values) = values := by
  cases values with
  | nil => rfl
  | cons v vs =>
      have hvs : (vs.map (Record.data · false)).map (·.value) = vs := by
        rw [List.map_map]
        exact List.map_id' vs
      rw [encode, payloads, List.map_cons, hvs]
      rfl

theorem encode_ne_nil {values : List Value} (h : values ≠ []) : encode values ≠ [] := by
  intro hnil
  apply h
  rw [← payloads_encode values, hnil]
  rfl

theorem getElem?_encode (values : List Value) (i : Nat) :
    (encode values)[i]? = values[i]?.map (Record.data · (decide (i = 0))) := by
  cases values with
  | nil => rfl
  | cons v vs =>
      cases i with
      | zero => rfl
      | succ i => simp [encode]

theorem head?_encode (values : List Value) :
    (encode values).head? = values.head?.map (Record.data · true) := by
  rw [List.head?_eq_getElem?, List.head?_eq_getElem?, getElem?_encode]
  rfl

/-- **Encoded sequences** consist of data writes as they are made, with nothing added. -/
theorem exists_data_of_mem_encode {values : List Value} {r : Record} (h : r ∈ encode values) :
    ∃ v marked, r = Record.data v marked := by
  cases values with
  | nil => exact absurd h List.not_mem_nil
  | cons v vs =>
      rcases List.mem_cons.mp h with h | h
      · exact ⟨v, true, h⟩
      · obtain ⟨w, -, hw⟩ := List.mem_map.mp h
        exact ⟨w, false, hw.symm⟩

theorem isReset_of_mem_encode {values : List Value} {r : Record} (h : r ∈ encode values) :
    r.isReset = false := by
  obtain ⟨v, marked, rfl⟩ := exists_data_of_mem_encode h
  rfl

theorem extra_of_mem_encode {values : List Value} {r : Record} (h : r ∈ encode values) :
    r.extra = none := by
  obtain ⟨v, marked, rfl⟩ := exists_data_of_mem_encode h
  rfl

/-- **Five values** are four in front of the one that completes them, and whatever follows is
    unmarked. -/
theorem exists_encode_eq {values : List Value} (hlen : values.length = sequenceLength) :
    ∃ first last, values = first ++ [last] ∧ first ≠ [] ∧ first.length + 1 = sequenceLength ∧
      ∀ more, encode (values ++ more) =
        encode first ++ Record.data last false :: more.map (Record.data · false) := by
  rcases List.eq_nil_or_concat values with rfl | ⟨first, last, rfl⟩
  · exact absurd hlen (by decide)
  rw [List.concat_eq_append] at hlen ⊢
  have hfirst : first.length + 1 = sequenceLength := by
    rw [← hlen, List.length_append, List.length_singleton]
  have hne : first ≠ [] := by
    rintro rfl
    exact absurd hfirst (by decide)
  refine ⟨first, last, rfl, hne, hfirst, ?_⟩
  intro more
  rw [List.append_assoc, encode_append hne]
  rfl

namespace Recognizer

variable {refs : ReferencePair} {m : Recognizer} {values : List Value}

/-! ## Unmarked writes -/

/-- **Surplus values** go by while no attempt is in progress. -/
theorem run_unmarked_idle (refs : ReferencePair) (hi : m.inAttempt = false) (vs : List Value) :
    m.run refs (vs.map (Record.data · false)) = (m, List.replicate vs.length (m.outputs false)) := by
  induction vs with
  | nil => rfl
  | cons v vs ih =>
      rw [List.map_cons, run_cons, step_idle rfl rfl hi, ih, List.length_cons, List.replicate_succ]

/-- The state in which an attempt has collected the given values. -/
def collecting (m : Recognizer) (values : List Value) : Recognizer :=
  { m with attempt := values, inAttempt := true }

theorem eq_collecting (hi : m.inAttempt = true) : m = m.collecting m.attempt := by
  unfold collecting
  rw [← hi]

/-- The first value of an attempt. -/
theorem step_marked (hw : m.warning = false) (v : Value) :
    m.step refs (Record.data v true) = (m.collecting [v], m.outputs false) := by
  rw [step_start rfl hw rfl]
  exact extend_short (by decide : 0 + 1 < sequenceLength)

/-- A further value of an attempt, short of the fifth. -/
theorem step_unmarked_short (hw : m.warning = false) (hlen : values.length + 1 < sequenceLength)
    (v : Value) :
    (m.collecting values).step refs (Record.data v false) =
      (m.collecting (values ++ [v]), m.outputs false) := by
  rw [step_continue (m := m.collecting values) rfl hw rfl rfl]
  exact extend_short hlen

/-- The fifth value of an attempt. -/
theorem step_unmarked_last (hw : m.warning = false) (hlen : values.length + 1 = sequenceLength)
    (v : Value) :
    (m.collecting values).step refs (Record.data v false) =
      complete refs (m.collecting (values ++ [v])) := by
  rw [step_continue (m := m.collecting values) rfl hw rfl rfl]
  exact extend_last hlen

/-- **Collecting.** Unmarked values go into the attempt in progress as long as it stays short of
    five. -/
theorem run_unmarked_short (hw : m.warning = false) {vs : List Value}
    (hlen : values.length + vs.length < sequenceLength) :
    (m.collecting values).run refs (vs.map (Record.data · false)) =
      (m.collecting (values ++ vs), List.replicate vs.length (m.outputs false)) := by
  induction vs generalizing values with
  | nil => rw [List.append_nil]; rfl
  | cons v vs ih =>
      rw [List.length_cons] at hlen
      have hrest : (values ++ [v]).length + vs.length < sequenceLength := by
        rw [List.length_append, List.length_singleton]
        omega
      rw [List.map_cons, run_cons, step_unmarked_short hw (by omega), ih hrest, List.append_assoc,
        List.singleton_append, List.length_cons, List.replicate_succ]

/-! ## Encoded sequences -/

/-- **A short sequence** drops what was collected before and stays in progress itself. -/
theorem run_encode_short (hw : m.warning = false) (hne : values ≠ [])
    (hlen : values.length < sequenceLength) :
    m.run refs (encode values) =
      (m.collecting values, List.replicate values.length (m.outputs false)) := by
  cases values with
  | nil => exact absurd rfl hne
  | cons v vs =>
      rw [List.length_cons, Nat.add_comm] at hlen
      have hrest : (m.collecting [v]).run refs (vs.map (Record.data · false)) =
          (m.collecting ([v] ++ vs), List.replicate vs.length (m.outputs false)) :=
        run_unmarked_short hw hlen
      rw [encode, run_cons, step_marked hw, hrest, List.length_cons, List.replicate_succ]
      rfl

/-- The end of an attempt leaves none in progress. -/
theorem complete_inAttempt (refs : ReferencePair) (m : Recognizer) :
    (complete refs m).1.inAttempt = false := by
  unfold complete
  dsimp only
  split <;> rfl

/-- **A full sequence** is judged at its fifth value; values behind it change nothing. -/
theorem run_encode_full (hw : m.warning = false) (hlen : values.length = sequenceLength)
    (more : List Value) :
    m.run refs (encode (values ++ more)) =
      let judged := complete refs (m.collecting values)
      (judged.1, List.replicate 4 (m.outputs false) ++
        judged.2 :: List.replicate more.length (judged.1.outputs false)) := by
  obtain ⟨first, last, rfl, hne, hfirst, hsplit⟩ := exists_encode_eq hlen
  have hshort : m.run refs (encode first) =
      (m.collecting first, List.replicate 4 (m.outputs false)) := by
    rw [run_encode_short hw hne (Nat.lt_of_succ_le (Nat.le_of_eq hfirst)), Nat.succ.inj hfirst]
  have hfifth : (m.collecting first).step refs (Record.data last false) =
      complete refs (m.collecting (first ++ [last])) :=
    step_unmarked_last hw hfirst last
  rw [hsplit, run_append, hshort, run_cons, hfifth,
    run_unmarked_idle refs (complete_inAttempt refs _)]

/-- The state behind a correct attempt. -/
def unlocked (m : Recognizer) (values : List Value) : Recognizer :=
  { m with attempt := values, inAttempt := false, failures := 0 }

theorem length_of_isCorrect (h : refs.isCorrect values = true) : values.length = sequenceLength := by
  have heq : values = refs.correct.toList := by simpa [ReferencePair.isCorrect] using h
  rw [heq, Vector.length_toList]

/-- **A correct sequence** unlocks at its fifth value and clears the failures. -/
theorem run_encode_correct (hw : m.warning = false) (hc : refs.isCorrect values = true)
    (more : List Value) :
    m.run refs (encode (values ++ more)) =
      (m.unlocked values, List.replicate 4 (m.outputs false) ++
        m.outputs true :: List.replicate more.length (m.outputs false)) := by
  rw [run_encode_full hw (length_of_isCorrect hc), complete_correct hc]
  rfl

/-- **A wrong sequence** of five values counts a failure. -/
theorem run_encode_wrong (hw : m.warning = false) (hlen : values.length = sequenceLength)
    (hc : refs.isCorrect values = false) :
    m.run refs (encode values) =
      ((m.collecting values).failed, List.replicate 4 (m.outputs false) ++
        [(m.collecting values).failed.outputs false]) := by
  rw [← List.append_nil values, run_encode_full hw hlen, complete_wrong hc, List.append_nil]
  rfl

/-! ## Wrong sequences -/

/-- **A wrong sequence from any state** unlocks nothing, and unless the warning is up behind it, it
    was down before and there is one failure more, but fewer than three. -/
theorem run_encode_wrong_cases (m : Recognizer) (hlen : values.length = sequenceLength)
    (hc : refs.isCorrect values = false) :
    (∀ o ∈ (m.run refs (encode values)).2, o.unlock = false) ∧
      ((m.run refs (encode values)).1.warning = true ∨
        (m.run refs (encode values)).1.failures = m.failures + 1 ∧
          (m.run refs (encode values)).1.failures < lockoutFailures) := by
  by_cases hw : m.warning = true
  · rw [run_locked refs hw fun _ => isReset_of_mem_encode]
    exact ⟨fun o ho => by rw [List.eq_of_mem_replicate ho], Or.inl hw⟩
  rw [run_encode_wrong (Bool.not_eq_true _ ▸ hw) hlen hc]
  constructor
  · intro o ho
    rcases List.mem_append.mp ho with ho | ho
    · rw [List.eq_of_mem_replicate ho]; rfl
    · rw [List.mem_singleton.mp ho]; rfl
  · by_cases hlocks : lockoutFailures ≤ countFailure m.failures
    · exact Or.inl (Bool.or_eq_true_iff.mpr (Or.inr (decide_eq_true hlocks)))
    · -- far below the bound of the counter one more failure is one more
      have hfew : countFailure m.failures < lockoutFailures := Nat.lt_of_not_le hlocks
      refine Or.inr ⟨?_, hfew⟩
      show countFailure m.failures = m.failures + 1
      simp only [countFailure, lockoutFailures] at hfew ⊢
      omega

/-- **Wrong sequences one after the other**, from any state: they unlock nothing, and unless the
    warning is up behind them each of them added a failure to a count that stayed below three. -/
theorem run_wrong_attempts (m : Recognizer) (hlen : values.length = sequenceLength)
    (hc : refs.isCorrect values = false) (n : Nat) :
    let attempts := (List.replicate n (encode values)).flatten
    (∀ o ∈ (m.run refs attempts).2, o.unlock = false) ∧
      ((m.run refs attempts).1.warning = true ∨
        (m.run refs attempts).1.failures = m.failures + n ∧
          (n = 0 ∨ (m.run refs attempts).1.failures < lockoutFailures)) := by
  intro attempts
  induction n with
  | zero => exact ⟨fun o ho => absurd ho List.not_mem_nil, Or.inr ⟨rfl, Or.inl rfl⟩⟩
  | succ n ih =>
      let before := (m.run refs (List.replicate n (encode values)).flatten).1
      have hsplit : attempts = (List.replicate n (encode values)).flatten ++ encode values := by
        show (List.replicate (n + 1) (encode values)).flatten = _
        rw [List.replicate_succ', List.flatten_append, List.flatten_singleton]
      obtain ⟨hquiet, hlast⟩ := run_encode_wrong_cases before hlen hc
      rw [hsplit, run_append]
      constructor
      · intro o ho
        exact (List.mem_append.mp ho).elim (ih.1 o) (hquiet o)
      · rcases hlast with hup | ⟨hone, hfew⟩
        · exact Or.inl hup
        rcases ih.2 with hup | ⟨hcount, -⟩
        · -- the warning was up before the last sequence, which was therefore ignored
          refine Or.inl ?_
          show (before.run refs (encode values)).1.warning = true
          rw [run_locked refs hup fun _ => isReset_of_mem_encode]
          exact hup
        · exact Or.inr ⟨by rw [hone, hcount, Nat.add_assoc], Or.inr hfew⟩

/-! ## On the way -/

/-- Neither the warning nor the failures differ. -/
def SameCounts (s t : Recognizer) : Prop := t.warning = s.warning ∧ t.failures = s.failures

/-- The warning is the same, and there are no more failures. -/
def NoWorse (s t : Recognizer) : Prop := t.warning = s.warning ∧ t.failures ≤ s.failures

theorem NoWorse.refl (s : Recognizer) : NoWorse s s := ⟨rfl, Nat.le_refl _⟩

theorem SameCounts.noWorse {s t : Recognizer} (h : SameCounts s t) : NoWorse s t := ⟨h.1, Nat.le_of_eq h.2⟩

variable {R : Recognizer → Recognizer → Prop} {rs : List Record}

/-- Records that change nothing relate the state to itself only. -/
theorem along_of_fixed (hrefl : R m m) (hfixed : ∀ r ∈ rs, (m.step refs r).1 = m) :
    Along refs R m rs := by
  induction rs with
  | nil => trivial
  | cons r rs ih =>
      have hr : (m.step refs r).1 = m := hfixed r List.mem_cons_self
      have hrest : Along refs R m rs := ih fun r' hr' => hfixed r' (List.mem_cons_of_mem r hr')
      simp only [Along, hr]
      exact ⟨hrefl, hrest⟩

theorem along_locked (hrefl : R m m) (hw : m.warning = true) (hrs : ∀ r ∈ rs, r.isReset = false) :
    Along refs R m rs :=
  along_of_fixed hrefl fun r hr => congrArg Prod.fst (step_locked (hrs r hr) hw)

theorem along_unmarked_idle (hrefl : R m m) (hi : m.inAttempt = false) (vs : List Value) :
    Along refs R m (vs.map (Record.data · false)) := by
  apply along_of_fixed hrefl
  intro r hr
  obtain ⟨v, -, hv⟩ := List.mem_map.mp hr
  rw [← hv, step_idle rfl rfl hi]

theorem along_unmarked_short (hw : m.warning = false) {vs : List Value}
    (hlen : values.length + vs.length < sequenceLength) :
    Along refs SameCounts (m.collecting values) (vs.map (Record.data · false)) := by
  induction vs generalizing values with
  | nil => trivial
  | cons v vs ih =>
      rw [List.length_cons] at hlen
      have hrest : (values ++ [v]).length + vs.length < sequenceLength := by
        rw [List.length_append, List.length_singleton]
        omega
      simp only [List.map_cons, Along, step_unmarked_short hw (show values.length + 1 < _ by omega)]
      exact ⟨⟨rfl, rfl⟩, ih hrest⟩

/-- Collecting costs nothing. -/
theorem along_encode_short (hw : m.warning = false) (hlen : values.length < sequenceLength) :
    Along refs SameCounts m (encode values) := by
  cases values with
  | nil => trivial
  | cons v vs =>
      rw [List.length_cons, Nat.add_comm] at hlen
      simp only [encode, Along, step_marked hw]
      have hrest : Along refs SameCounts (m.collecting [v]) (vs.map (Record.data · false)) :=
        along_unmarked_short hw hlen
      exact ⟨⟨rfl, rfl⟩, hrest⟩

/-- A correct sequence never makes things worse, whatever follows its fifth value. -/
theorem along_encode_correct (hw : m.warning = false) (hc : refs.isCorrect values = true)
    (more : List Value) : Along refs NoWorse m (encode (values ++ more)) := by
  obtain ⟨first, last, rfl, hne, hfirst, hsplit⟩ := exists_encode_eq (length_of_isCorrect hc)
  have hlen : first.length < sequenceLength := Nat.lt_of_succ_le (Nat.le_of_eq hfirst)
  have hfifth : (m.collecting first).step refs (Record.data last false) =
      (m.unlocked (first ++ [last]), m.outputs true) := by
    rw [step_unmarked_last hw hfirst]
    exact complete_correct hc
  rw [hsplit, along_append, run_encode_short hw hne hlen]
  constructor
  · exact (along_encode_short hw hlen).mono fun _ _ => SameCounts.noWorse
  · simp only [Along, hfifth]
    exact ⟨⟨rfl, Nat.zero_le _⟩, along_unmarked_idle (NoWorse.refl _) rfl more⟩

end Recognizer

end StimulusBench
