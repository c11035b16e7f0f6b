import StimulusBench.Proofs.Replay

/-!
# `StimulusBench.Proofs.Recognizer.Reachable` — what holds of every state that can be reached

The buffer of the recognizer is not emptied when an attempt ends: the five values stay until the next
start marker. They are never extended to six, because the attempt is no longer in progress then. Likewise
the counter of failures stops at three, far below its bound, because the third failure raises the warning
and no attempt goes on under it. The parts of the state hold each other in place in this way, so that they
are kept together, as one invariant.

## Contents
- **Sound states.** `Recognizer.Sound`, the invariant, and `Recognizer.Collecting`, an attempt in progress.
- **Cycles.** `Sound.step`: every record leads from a sound state to a sound state, with sound outputs.
- **Streams.** `Sound.run`, and when the warning goes off.
- **Calls.** `Recognizer.Call`, single records and replays; `afterCalls_sound` for any number of them.
-/

namespace StimulusBench

/-- A mismatch shows the outputs of one of the cycles. -/
theorem exists_of_mem_mismatches {x : Mismatch} {index : Nat} {records : List Record}
    {outputs : List Outputs} (h : x ∈ mismatches index records outputs) :
    ∃ o ∈ outputs, x.actual = o.assertion := by
  obtain ⟨⟨⟨r, o⟩, i⟩, hp, hx⟩ := List.mem_filterMap.mp h
  refine ⟨o, (List.of_mem_zip (List.fst_mem_of_mem_zipIdx hp)).2, ?_⟩
  unfold Record.mismatch? at hx
  split at hx
  · cases hx
  · split at hx
    · cases hx
    · exact (congrArg Mismatch.actual (Option.some.inj hx)).symm

namespace Recognizer

variable {refs : ReferencePair} {m : Recognizer}

/-! ## Sound states -/

/-- **A sound state.** An attempt in progress has collected one to four values and is not locked out;
    without one the buffer is empty or holds a whole attempt. There are at most three failures, and three
    of them are the warning. -/
structure Sound (m : Recognizer) : Prop where
  collecting : m.inAttempt = true →
    1 ≤ m.attempt.length ∧ m.attempt.length < sequenceLength ∧ m.warning = false
  settled : m.inAttempt = false → m.attempt.length = 0 ∨ m.attempt.length = sequenceLength
  failures_le : m.failures ≤ lockoutFailures
  warning_iff : m.warning = true ↔ m.failures = lockoutFailures

theorem sound_fresh : fresh.Sound where
  collecting h := absurd h (by decide)
  settled _ := .inl rfl
  failures_le := Nat.zero_le _
  warning_iff := by decide

/-- Up to the third failure the counter is far below its bound. -/
theorem countFailure_of_le {failures : Nat} (h : failures ≤ lockoutFailures) :
    countFailure failures = failures + 1 := by
  unfold lockoutFailures at h
  unfold countFailure
  omega

theorem Sound.length_le (h : m.Sound) : m.attempt.length ≤ sequenceLength := by
  cases hi : m.inAttempt with
  | true => exact Nat.le_of_lt (h.collecting hi).2.1
  | false =>
      rcases h.settled hi with hempty | hfull
      · rw [hempty]
        exact Nat.zero_le _
      · exact Nat.le_of_eq hfull

/-- **The counter never saturates**: one more failure is one more. -/
theorem Sound.countFailure_eq (h : m.Sound) : countFailure m.failures = m.failures + 1 :=
  countFailure_of_le h.failures_le

theorem Sound.failures_lt (h : m.Sound) (hw : m.warning = false) : m.failures < lockoutFailures := by
  refine Nat.lt_of_le_of_ne h.failures_le fun heq => ?_
  rw [h.warning_iff.mpr heq] at hw
  cases hw

/-- **An attempt that takes one more value**: it is in progress, short of five, with fewer than three
    failures before it. -/
structure Collecting (m : Recognizer) : Prop where
  inAttempt : m.inAttempt = true
  warning : m.warning = false
  short : m.attempt.length < sequenceLength
  failures_lt : m.failures < lockoutFailures

/-- A start marker opens an attempt in any sound state that is not locked out. -/
theorem Sound.restarted (h : m.Sound) (hw : m.warning = false) :
    Collecting { m with attempt := [], inAttempt := true } where
  inAttempt := rfl
  warning := hw
  short := Nat.zero_lt_succ _
  failures_lt := h.failures_lt hw

theorem Sound.continued (h : m.Sound) (hi : m.inAttempt = true) : m.Collecting where
  inAttempt := hi
  warning := (h.collecting hi).2.2
  short := (h.collecting hi).2.1
  failures_lt := h.failures_lt (h.collecting hi).2.2

/-! ## Cycles -/

/-- **A sound cycle** leads to a sound state and does not raise both outputs. -/
structure SoundCycle (next : Recognizer × Outputs) : Prop where
  state : next.1.Sound
  outputs : ¬ (next.2.unlock = true ∧ next.2.warning = true)

/-- A cycle that does not unlock is sound if the state behind it is. -/
theorem Sound.quiet (h : m.Sound) : SoundCycle (m, m.outputs false) where
  state := h
  outputs ho := absurd ho.1 Bool.false_ne_true

/-- A value short of the fifth leaves the attempt in progress. -/
theorem Collecting.extend_short (h : m.Collecting) (v : Value)
    (hlen : m.attempt.length + 1 < sequenceLength) : SoundCycle (extend refs m v) := by
  have hlength : (m.attempt ++ [v]).length = m.attempt.length + 1 := List.length_append
  rw [Recognizer.extend_short hlen]
  refine ⟨⟨fun _ => ⟨?_, ?_, h.warning⟩, fun hi => ?_, Nat.le_of_lt h.failures_lt, ?_⟩, fun ho => ?_⟩
  · rw [hlength]
    exact Nat.le_add_left 1 _
  · rw [hlength]
    exact hlen
  · exact absurd (h.inAttempt.symm.trans hi) (by decide)
  · constructor
    · intro hw
      exact absurd (h.warning.symm.trans hw) (by decide)
    · intro heq
      exact absurd heq (Nat.ne_of_lt h.failures_lt)
  · exact absurd ho.1 Bool.false_ne_true

/-- The fifth value ends the attempt with the buffer full, and the third failure locks out. -/
theorem Collecting.extend_last (h : m.Collecting) (v : Value)
    (hlen : m.attempt.length + 1 = sequenceLength) : SoundCycle (extend refs m v) := by
  have hfull : (m.attempt ++ [v]).length = sequenceLength := List.length_append.trans hlen
  have hfew := h.failures_lt
  rw [Recognizer.extend_last hlen]
  cases hc : refs.isCorrect (m.attempt ++ [v]) with
  | true =>
      rw [complete_correct hc]
      refine ⟨⟨fun hi => ?_, fun _ => .inr hfull, Nat.zero_le _, ?_⟩, fun ho => ?_⟩
      · cases hi
      · show m.warning = true ↔ 0 = lockoutFailures
        rw [h.warning]
        decide
      · exact absurd (h.warning.symm.trans ho.2) (by decide)
  | false =>
      rw [complete_wrong hc]
      have hcount : countFailure m.failures = m.failures + 1 := countFailure_of_le (Nat.le_of_lt hfew)
      refine Sound.quiet ⟨fun hi => ?_, fun _ => .inr hfull, ?_, ?_⟩
      · cases hi
      · show countFailure m.failures ≤ lockoutFailures
        rw [hcount]
        exact hfew
      · -- the warning was down, so it is up behind the attempt exactly if this was the third failure
        show (m.warning || decide (lockoutFailures ≤ countFailure m.failures)) = true ↔
          countFailure m.failures = lockoutFailures
        rw [h.warning, Bool.false_or, decide_eq_true_iff, hcount]
        omega

theorem Collecting.extend (h : m.Collecting) (v : Value) : SoundCycle (extend refs m v) := by
  rcases Nat.lt_or_ge (m.attempt.length + 1) sequenceLength with hlen | hlen
  · exact h.extend_short v hlen
  · exact h.extend_last v (Nat.le_antisymm h.short hlen)

/-- **Every record** leads from a sound state to a sound state. -/
theorem Sound.step (h : m.Sound) (r : Record) : SoundCycle (m.step refs r) := by
  cases hr : r.isReset with
  | true =>
      rw [step_reset hr]
      exact sound_fresh.quiet
  | false =>
      cases hw : m.warning with
      | true =>
          rw [step_locked hr hw]
          exact h.quiet
      | false =>
          cases hs : r.start with
          | true =>
              rw [step_start hr hw hs]
              exact (h.restarted hw).extend r.value
          | false =>
              cases hi : m.inAttempt with
              | true =>
                  rw [step_continue hr hw hs hi]
                  exact (h.continued hi).extend r.value
              | false =>
                  rw [step_idle hr hs hi]
                  exact h.quiet

/-! ## Streams -/

/-- **Every stream** leads from a sound state to a sound state, and in no cycle of it both outputs are
    raised. -/
theorem Sound.run (h : m.Sound) (records : List Record) :
    (m.run refs records).1.Sound ∧
      ∀ o ∈ (m.run refs records).2, ¬ (o.unlock = true ∧ o.warning = true) := by
  induction records generalizing m with
  | nil => exact ⟨h, fun o ho => absurd ho List.not_mem_nil⟩
  | cons r rs ih =>
      have hcycle : SoundCycle (m.step refs r) := h.step r
      obtain ⟨hstate, houtputs⟩ := ih hcycle.state
      rw [run_cons]
      refine ⟨hstate, fun o ho => ?_⟩
      rcases List.mem_cons.mp ho with rfl | ho
      · exact hcycle.outputs
      · exact houtputs o ho

/-- **The warning goes off** only with a record that drives the reset line. -/
theorem exists_reset_of_warning_off {records : List Record} (hw : m.warning = true)
    (hoff : (m.run refs records).1.warning = false) : ∃ r ∈ records, r.channel ≠ dataChannel := by
  by_cases hreset : ∃ r ∈ records, r.isReset = true
  · obtain ⟨r, hr, hdrives⟩ := hreset
    exact ⟨r, hr, bne_iff_ne.mp hdrives⟩
  · have hwrites : ∀ r ∈ records, r.isReset = false :=
      fun r hr => Bool.eq_false_iff.mpr fun hdrives => hreset ⟨r, hr, hdrives⟩
    rw [run_locked refs hw hwrites] at hoff
    exact absurd (hw.symm.trans hoff) (by decide)

/-! ## Calls -/

/-- What a recognizer is asked to do: to take a single record, or to replay a list of them. -/
inductive Call
  | step (record : Record)
  | replay (records : List Record)

/-- The state behind a call. -/
def afterCall (refs : ReferencePair) (m : Recognizer) : Call → Recognizer
  | .step r => (m.step refs r).1
  | .replay records => (m.replay refs records).1

/-- The state behind several calls, one after the other. -/
def afterCalls (refs : ReferencePair) (m : Recognizer) (calls : List Call) : Recognizer :=
  calls.foldl (afterCall refs) m

theorem replay_fst (refs : ReferencePair) (m : Recognizer) (records : List Record) :
    (m.replay refs records).1 = (m.run refs records).1 := by rw [replay_eq]

theorem Sound.afterCall (h : m.Sound) (call : Call) : (m.afterCall refs call).Sound := by
  cases call with
  | step r => exact (h.step r).state
  | replay records =>
      rw [Recognizer.afterCall, replay_fst]
      exact (h.run records).1

theorem Sound.afterCalls (h : m.Sound) (calls : List Call) : (m.afterCalls refs calls).Sound := by
  induction calls generalizing m with
  | nil => exact h
  | cons call rest ih => exact ih (h.afterCall call)

/-- **Whatever was asked of a recognizer**, its state is sound: the buffer holds five values at most, the
    counter never saturates, a further record or replay never raises both outputs, no mismatch shows both,
    and the warning goes off only with a record on another channel than that of the data. -/
theorem afterCalls_sound (refs : ReferencePair) (calls : List Call) :
    let m := fresh.afterCalls refs calls
    m.Sound ∧ m.attempt.length ≤ sequenceLength ∧ countFailure m.failures = m.failures + 1 ∧
      (∀ r, ¬ ((m.step refs r).2.unlock = true ∧ (m.step refs r).2.warning = true) ∧
        (m.warning = true → (m.step refs r).1.warning = false → r.channel ≠ dataChannel)) ∧
      ∀ records,
        (∀ o ∈ (m.run refs records).2, ¬ (o.unlock = true ∧ o.warning = true)) ∧
        (∀ x ∈ (m.replay refs records).2.mismatches,
          ¬ (x.actual.unlock = true ∧ x.actual.warning = true)) ∧
        (m.warning = true → (m.replay refs records).1.warning = false →
          ∃ r ∈ records, r.channel ≠ dataChannel) := by
  intro m
  have hsound : m.Sound := sound_fresh.afterCalls calls
  refine ⟨hsound, hsound.length_le, hsound.countFailure_eq, fun r => ⟨(hsound.step r).outputs, ?_⟩,
    fun records => ⟨(hsound.run records).2, ?_, ?_⟩⟩
  · intro hw hoff
    have hrun : (m.run refs [r]).1.warning = false := hoff
    obtain ⟨r', hr', hchannel⟩ := exists_reset_of_warning_off hw hrun
    exact List.mem_singleton.mp hr' ▸ hchannel
  · intro x hx
    rw [replay_eq] at hx
    obtain ⟨o, ho, hactual⟩ := exists_of_mem_mismatches hx
    rw [hactual]
    exact (hsound.run records).2 o ho
  · intro hw hoff
    rw [replay_fst] at hoff
    exact exists_reset_of_warning_off hw hoff

end Recognizer

end StimulusBench
