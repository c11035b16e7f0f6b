import StimulusBench.Proofs.Recognizer.Reachable
import StimulusBench.Proofs.Sequence.Mutation

/-!
# `StimulusBench.Proofs.Recognizer.Classification` — what becomes of an encoded sequence

A sequence of any length is encoded and handed to a recognizer in any state that it can reach. Its first
record drops whatever was collected before, so that only the lockout and the failures of that state count,
and the length of the sequence: none, too few, or enough values, of which five are judged and the others go
by. A drawn mutation has five values, and of those only one is correct.

## Contents
- **Positions.** `take_encode`, and the state at the fifth value and behind it.
- **Classification.** `Recognizer.Classified`, the outcomes; `Sound.classified`.
- **Mutations.** `Sound.mutation_counts`, and `encoded_sequences_classified` for all of it.
-/

namespace StimulusBench

/-! ## Positions -/

theorem take_encode (values : List Value) (k : Nat) : (encode values).take k = encode (values.take k) := by
  cases values with
  | nil => rw [List.take_nil, encode, List.take_nil]
  | cons v vs =>
      cases k with
      | zero => rfl
      | succ k => rw [encode, List.take_succ_cons, List.take_succ_cons, encode, List.map_take]

namespace Recognizer

variable {refs : ReferencePair} {m : Recognizer} {values : List Value}

theorem outputs_open (hw : m.warning = false) (unlock : Bool) : m.outputs unlock = ⟨unlock, false⟩ := by
  rw [outputs, hw]

/-- **With five values or more** the first five are judged, and the rest goes by. -/
theorem run_encode_long (refs : ReferencePair) (hw : m.warning = false)
    (hlen : sequenceLength ≤ values.length) :
    m.run refs (encode values) =
      let judged := complete refs (m.collecting (values.take sequenceLength))
      (judged.1, List.replicate 4 ⟨false, false⟩ ++
        judged.2 :: List.replicate (values.length - sequenceLength) (judged.1.outputs false)) := by
  have hfive : (values.take sequenceLength).length = sequenceLength := List.length_take_of_le hlen
  have hrun : m.run refs (encode (values.take sequenceLength ++ values.drop sequenceLength)) = _ :=
    run_encode_full hw hfive _
  rw [List.take_append_drop, List.length_drop, outputs_open hw] at hrun
  exact hrun

theorem run_encode_fst (refs : ReferencePair) (hw : m.warning = false)
    (hlen : sequenceLength ≤ values.length) :
    (m.run refs (encode values)).1 = (complete refs (m.collecting (values.take sequenceLength))).1 :=
  congrArg Prod.fst (run_encode_long refs hw hlen)

/-- **From the fifth value on** the state stays as it is. -/
theorem run_take_encode_fst (refs : ReferencePair) (hw : m.warning = false)
    (hlen : sequenceLength ≤ values.length) {k : Nat} (hk : sequenceLength ≤ k) :
    (m.run refs ((encode values).take k)).1 = (m.run refs (encode values)).1 := by
  have hfront : sequenceLength ≤ (values.take k).length := by
    rw [List.length_take]
    exact Nat.le_min.mpr ⟨hk, hlen⟩
  rw [take_encode, run_encode_fst refs hw hfront, run_encode_fst refs hw hlen, List.take_take,
    Nat.min_eq_left hk]

/-! ## Classification -/

/-- **What becomes of an encoded sequence**: the state behind it, and the outputs at its records. Under
    lockout it changes nothing, and neither does the empty sequence. Fewer than five values are collected,
    and nothing else happens. Of five or more, the first five are judged, and those behind them change
    nothing: the attempt is over, with an unlock at the fifth record and no failures left if it is correct,
    and otherwise with one more failure, the third of which raises the warning. -/
structure Classified (refs : ReferencePair) (m : Recognizer) (values : List Value) (after : Recognizer)
    (outputs : List Outputs) : Prop where
  locked : m.warning = true → after = m ∧ outputs = List.replicate values.length ⟨false, true⟩
  empty : values = [] → after = m ∧ outputs = []
  pending : m.warning = false → 1 ≤ values.length → values.length < sequenceLength →
    after.isQuiescent = false ∧ after.failures = m.failures ∧ after.warning = false ∧
      outputs = List.replicate values.length ⟨false, false⟩
  judged : m.warning = false → sequenceLength ≤ values.length →
    after.isQuiescent = true ∧ after = (m.run refs (encode (values.take sequenceLength))).1 ∧
      ∀ k, sequenceLength ≤ k → (m.run refs ((encode values).take k)).1 = after
  unlocked : m.warning = false → values.take sequenceLength = refs.correct.toList →
    after.failures = 0 ∧ after.warning = false ∧
      outputs = List.replicate 4 ⟨false, false⟩ ++
        ⟨true, false⟩ :: List.replicate (values.length - sequenceLength) ⟨false, false⟩
  failed : m.warning = false → sequenceLength ≤ values.length →
    values.take sequenceLength ≠ refs.correct.toList →
    after.failures = m.failures + 1 ∧ (after.warning = true ↔ m.failures + 1 = lockoutFailures) ∧
      outputs = List.replicate 4 ⟨false, false⟩ ++
        List.replicate (values.length - 4) ⟨false, after.warning⟩

/-- A correct attempt in a state that is not locked out. -/
theorem run_encode_unlocked (hw : m.warning = false)
    (hcorrect : values.take sequenceLength = refs.correct.toList) :
    m.run refs (encode values) =
      (m.unlocked refs.correct.toList, List.replicate 4 ⟨false, false⟩ ++
        ⟨true, false⟩ :: List.replicate (values.length - sequenceLength) ⟨false, false⟩) := by
  have hlen : sequenceLength ≤ values.length := by
    have hfive : (values.take sequenceLength).length = sequenceLength := by
      rw [hcorrect, Vector.length_toList]
    rw [← hfive]
    exact List.length_take_le' sequenceLength values
  have hjudged : complete refs (m.collecting refs.correct.toList) =
      (m.unlocked refs.correct.toList, m.outputs true) := complete_correct (beq_self_eq_true _)
  have hafter : (m.unlocked refs.correct.toList).outputs false = ⟨false, false⟩ := outputs_open hw false
  rw [run_encode_long refs hw hlen, hcorrect, hjudged, outputs_open hw]
  dsimp only
  rw [hafter]

/-- A wrong attempt in a state that is not locked out, with whatever values behind it. -/
theorem run_encode_failed (hw : m.warning = false) (hlen : sequenceLength ≤ values.length)
    (hwrong : values.take sequenceLength ≠ refs.correct.toList) :
    let after := (m.collecting (values.take sequenceLength)).failed
    m.run refs (encode values) =
      (after, List.replicate 4 ⟨false, false⟩ ++
        List.replicate (values.length - 4) ⟨false, after.warning⟩) := by
  intro after
  have hjudged : complete refs (m.collecting (values.take sequenceLength)) =
      (after, after.outputs false) := complete_wrong (beq_eq_false_iff_ne.mpr hwrong)
  have hcount : values.length - 4 = (values.length - sequenceLength) + 1 := by
    unfold sequenceLength at hlen ⊢
    omega
  rw [run_encode_long refs hw hlen, hjudged, hcount, List.replicate_succ]
  rfl

/-- **Every sequence is classified** by a recognizer in a sound state. -/
theorem Sound.classified (h : m.Sound) (refs : ReferencePair) (values : List Value) :
    Classified refs m values (m.run refs (encode values)).1 (m.run refs (encode values)).2 where
  locked hw := by
    rw [run_locked refs hw fun _ => isReset_of_mem_encode, length_encode]
    exact ⟨rfl, rfl⟩
  empty hnil := by
    subst hnil
    exact ⟨rfl, rfl⟩
  pending hw hsome hfew := by
    have hne : values ≠ [] := List.ne_nil_of_length_pos hsome
    rw [run_encode_short hw hne hfew, outputs_open hw]
    exact ⟨rfl, rfl, hw, rfl⟩
  judged hw hlen := by
    have hfive : sequenceLength ≤ (values.take sequenceLength).length :=
      Nat.le_of_eq (List.length_take_of_le hlen).symm
    refine ⟨?_, ?_, fun k hk => run_take_encode_fst refs hw hlen hk⟩
    · rw [run_encode_fst refs hw hlen, isQuiescent, complete_inAttempt, Bool.not_false]
    · rw [run_encode_fst refs hw hlen, run_encode_fst refs hw hfive, List.take_take, Nat.min_self]
  unlocked hw hcorrect := by
    rw [run_encode_unlocked hw hcorrect]
    exact ⟨rfl, hw, rfl⟩
  failed hw hlen hwrong := by
    have hcount : countFailure m.failures = m.failures + 1 := h.countFailure_eq
    have hfew : m.failures < lockoutFailures := h.failures_lt hw
    rw [run_encode_failed hw hlen hwrong]
    refine ⟨hcount, ?_, rfl⟩
    show (m.warning || decide (lockoutFailures ≤ countFailure m.failures)) = true ↔ _
    rw [hw, Bool.false_or, decide_eq_true_iff, hcount]
    omega

/-! ## Mutations -/

/-- **A drawn mutation** counts one failure if it is a corruption, and unlocks exactly if it is noise that
    happens to be the accepted sequence. -/
theorem Sound.mutation_counts (h : m.Sound) (refs : References) {source rest : RandomSource}
    {mutation : Mutation} (hdraw : Mutation.draw source = some (mutation, rest))
    (hw : m.warning = false) :
    let run := m.run refs (encode (mutation.apply refs).toList)
    (∀ mask, mutation = .partialCorruption mask →
      run.1.failures = m.failures + 1 ∧ ∀ o ∈ run.2, o.unlock = false) ∧
    ((∃ o ∈ run.2, o.unlock = true) ↔ mutation = .noise refs.correct) := by
  intro run
  have hclassified := h.classified refs (mutation.apply refs).toList
  have hlen : (mutation.apply refs).toList.length = sequenceLength := Vector.length_toList
  have htake : (mutation.apply refs).toList.take sequenceLength = (mutation.apply refs).toList :=
    List.take_of_length_le (Nat.le_of_eq hlen)
  have hcorrect : (mutation.apply refs).toList.take sequenceLength = refs.correct.toList ↔
      mutation = .noise refs.correct := by
    rw [htake, ← Mutation.isCorrect_apply_iff refs hdraw, ReferencePair.isCorrect, beq_iff_eq]
  -- a wrong sequence is quiet up to its fifth value and from there on
  have hquiet : mutation ≠ .noise refs.correct →
      run.1.failures = m.failures + 1 ∧ ∀ o ∈ run.2, o.unlock = false := by
    intro hwrong
    obtain ⟨hfailures, -, houtputs⟩ :=
      hclassified.failed hw (Nat.le_of_eq hlen.symm) (mt hcorrect.mp hwrong)
    refine ⟨hfailures, fun o ho => ?_⟩
    rw [houtputs, List.mem_append] at ho
    rcases ho with ho | ho
    · rw [List.eq_of_mem_replicate ho]
    · rw [List.eq_of_mem_replicate ho]
  refine ⟨?_, ?_, ?_⟩
  · rintro mask rfl
    exact hquiet Mutation.noConfusion
  · rintro ⟨o, ho, hunlock⟩
    refine Decidable.byContradiction fun hwrong => ?_
    cases hunlock.symm.trans ((hquiet hwrong).2 o ho)
  · intro hnoise
    obtain ⟨-, -, houtputs⟩ := hclassified.unlocked hw (hcorrect.mpr hnoise)
    refine ⟨⟨true, false⟩, ?_, rfl⟩
    rw [houtputs]
    exact List.mem_append_right _ List.mem_cons_self

/-- **Every encoded sequence is classified**, from every state that a recognizer can be brought to by
    records and replays. Among drawn mutations, a corruption counts exactly one failure and does not unlock,
    and only noise that is the accepted sequence unlocks; under lockout nothing does. -/
theorem encoded_sequences_classified :
    (∀ (refs : ReferencePair) (calls : List Call) (values : List Value),
      let m := fresh.afterCalls refs calls
      Classified refs m values (m.run refs (encode values)).1 (m.run refs (encode values)).2) ∧
    ∀ (refs : References) (calls : List Call) (source rest : RandomSource) (mutation : Mutation),
      Mutation.draw source = some (mutation, rest) →
      let m := fresh.afterCalls refs calls
      let run := m.run refs (encode (mutation.apply refs).toList)
      (∀ mask, mutation = .partialCorruption mask → m.warning = false →
        run.1.failures = m.failures + 1 ∧ ∀ o ∈ run.2, o.unlock = false) ∧
      ((∃ o ∈ run.2, o.unlock = true) ↔ m.warning = false ∧ mutation = .noise refs.correct) := by
  constructor
  · intro refs calls values m
    exact (sound_fresh.afterCalls calls).classified refs values
  · intro refs calls source rest mutation hdraw m run
    have hsound : m.Sound := sound_fresh.afterCalls calls
    refine ⟨fun mask hmask hw => (hsound.mutation_counts refs hdraw hw).1 mask hmask, ?_⟩
    cases hw : m.warning with
    | false => simpa using (hsound.mutation_counts refs hdraw hw).2
    | true =>
        -- what is written under lockout raises nothing but the warning
        have houtputs := ((hsound.classified refs (mutation.apply refs).toList).locked hw).2
        constructor
        · rintro ⟨o, ho, hunlock⟩
          rw [houtputs] at ho
          rw [List.eq_of_mem_replicate ho] at hunlock
          cases hunlock
        · rintro ⟨hopen, -⟩
          cases hopen

/-- A corruption drawn at the second try, as the third failure of a recognizer that has begun an attempt. -/
theorem encoded_sequences_classified_thirdFailure :
    let refs := References.default
    let wrong := encode refs.sentinel.toList
    let calls := [Call.replay (wrong ++ wrong), Call.step (Record.data 36 true)]
    let m := fresh.afterCalls refs calls
    let tails : UInt64 := 0xffffffffffffffff
    let mask : Mask := ⟨#v[true, false, false, false, true]⟩
    Mutation.draw (.script [0, tails, tails, tails, tails, tails, 0, tails, tails, tails, 0]) =
        some (.partialCorruption mask, .script []) ∧
      m.warning = false ∧ m.failures = 2 ∧
      (m.run refs (encode (refs.corrupt mask).toList)).1.failures = 3 ∧
      (m.run refs (encode (refs.corrupt mask).toList)).1.warning = true := by
  intro refs wrong calls m tails mask
  have hdraw : Mutation.draw (.script [0, tails, tails, tails, tails, tails, 0, tails, tails, tails, 0]) =
      some (.partialCorruption mask, .script []) := by decide +kernel
  have hw : m.warning = false := by decide +kernel
  have hfailures : m.failures = 2 := by decide +kernel
  obtain ⟨hclassified, hmutations⟩ := encoded_sequences_classified
  have hcount := ((hmutations refs calls _ _ _ hdraw).1 mask rfl hw).1
  have hwarning := (hclassified refs calls (refs.corrupt mask).toList).failed hw (by decide +kernel)
    (by decide +kernel)
  refine ⟨hdraw, hw, hfailures, hcount.trans (congrArg Nat.succ hfailures), hwarning.2.1.mpr ?_⟩
  exact congrArg Nat.succ hfailures

end Recognizer

end StimulusBench
