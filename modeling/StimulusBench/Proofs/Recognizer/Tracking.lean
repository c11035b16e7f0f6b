import StimulusBench.Proofs.Recognizer.Trace

/-!
# `StimulusBench.Proofs.Recognizer.Tracking` — the recognizer is its rule

The link between the recognizer and the rule about windows is `Tracks`: what each part of the state
says of the history. Its key clause says what the buffer holds: the payloads of the first five of the
open writes. Hence the buffer is full when an attempt ends and stays as it is while surplus writes go
by. Under lockout the buffer is left as it was, and the relation asks nothing of it.

## Contents
- **Tracking.** `Tracks`, kept by resets, by writes under lockout and by writes outside of an attempt.
- **Collecting.** `Collects`, an attempt in progress, and `Collects.extend`, what one more write makes
  of it.
- **Runs.** `Tracks.step`, `tracks_run`, and the rule for every position of every stream.
-/

namespace StimulusBench

namespace Trace

variable {refs : ReferencePair}

/-! ## Tracking -/

/-- **The tracking relation.** The state of the recognizer says of the history what the rule says of
    it. Under lockout the buffer is left as it was, so nothing is asked of it there. -/
structure Tracks (refs : ReferencePair) (m : Recognizer) (history : List Record) : Prop where
  warning_iff : m.warning = true ↔ WrongThrice refs (attempts history)
  failures_locked : m.warning = true → m.failures = lockoutFailures
  failures_open : m.warning = false → m.failures = wrongStreak refs (attempts history)
  attempt_eq : m.warning = false → m.attempt = payloads ((openWrites history).take sequenceLength)
  inAttempt_iff : m.warning = false →
    (m.inAttempt = true ↔ 0 < (openWrites history).length ∧
      (openWrites history).length < sequenceLength)

theorem tracks_fresh (refs : ReferencePair) : Tracks refs Recognizer.fresh [] where
  warning_iff := ⟨fun h => absurd h (by decide), fun h => absurd h not_wrongThrice_nil⟩
  failures_locked h := absurd h (by decide)
  failures_open _ := rfl
  attempt_eq _ := rfl
  inAttempt_iff _ := by decide

variable {m : Recognizer} {history writes : List Record} {r : Record}

/-- A reset record leaves a fresh recognizer that tracks the longer history. -/
theorem tracks_concat_reset (hr : r.isReset = true) :
    Tracks refs Recognizer.fresh (history ++ [r]) := by
  have hopen : openWrites (history ++ [r]) = [] := by
    rw [openWrites_concat, openStep, if_pos hr]
  refine ⟨?_, fun h => absurd h (by decide), fun _ => ?_, fun _ => ?_, fun _ => ?_⟩
  · rw [attempts_concat_reset history hr]
    exact ⟨fun h => absurd h (by decide), fun h => absurd h not_wrongThrice_nil⟩
  · rw [attempts_concat_reset history hr]
    rfl
  · rw [hopen]
    rfl
  · rw [hopen]
    decide

/-- Under lockout the same state tracks the history with any write added. -/
theorem Tracks.concat_locked (h : Tracks refs m history) (hw : m.warning = true)
    (hr : r.isReset = false) : Tracks refs m (history ++ [r]) := by
  have hopen : ∀ {P : Prop}, m.warning = false → P := fun h => absurd (h.symm.trans hw) (by decide)
  refine ⟨⟨fun _ => ?_, fun _ => hw⟩, h.failures_locked, hopen, hopen, hopen⟩
  -- three wrong attempts in a row stay three wrong attempts in a row
  obtain ⟨three, hthree, hlen, hwrong⟩ := h.warning_iff.mp hw
  rw [attempts_concat history hr]
  exact ⟨three, hthree.trans (List.prefix_append _ _).isInfix, hlen, hwrong⟩

/-- A write that ends no attempt and neither opens nor closes one adds nothing to track. -/
theorem Tracks.concat_idle (h : Tracks refs m history) (hw : m.warning = false)
    (hr : r.isReset = false) (hs : r.start = false) (hi : m.inAttempt = false) :
    Tracks refs m (history ++ [r]) ∧ attemptEnding? (history ++ [r]) = none := by
  have hnot : ¬ (0 < (openWrites history).length ∧ (openWrites history).length < sequenceLength) :=
    fun hin => absurd (hi.symm.trans ((h.inAttempt_iff hw).mpr hin)) (by decide)
  have hopen := openWrites_concat_closed hr hs hnot
  have hending : attemptEnding? (history ++ [r]) = none := by
    rw [attemptEnding?_eq, if_neg]
    intro hlen
    exact hopen.2 (by rw [hlen]; decide)
  have hsame : attempts (history ++ [r]) = attempts history := attempts_concat_of_none hr hending
  refine ⟨⟨hsame ▸ h.warning_iff, h.failures_locked, hsame ▸ h.failures_open, ?_, ?_⟩, hending⟩
  · intro _
    rw [hopen.1]
    exact h.attempt_eq hw
  · intro _
    rw [hi]
    exact ⟨fun hc => absurd hc (by decide), fun hin => absurd ⟨hin.1, hin.2.le⟩ hopen.2⟩

/-! ## Collecting -/

/-- What an attempt in progress has collected: the open writes, fewer than five of them, and no
    three wrong attempts so far. -/
structure Collects (refs : ReferencePair) (m : Recognizer) (history writes : List Record) : Prop where
  warning : m.warning = false
  inAttempt : m.inAttempt = true
  failures : m.failures = wrongStreak refs (attempts history)
  fewWrong : ¬ WrongThrice refs (attempts history)
  attempt : m.attempt = payloads writes
  short : writes.length < sequenceLength

theorem Collects.attempt_append (h : Collects refs m history writes) :
    m.attempt ++ [r.value] = payloads (writes ++ [r]) := by
  rw [h.attempt, payloads, payloads, List.map_append]
  rfl

theorem Collects.length_attempt (h : Collects refs m history writes) :
    m.attempt.length = writes.length := by
  rw [h.attempt, payloads, List.length_map]

/-- Fewer than three failures in a row: the counter is far from its bound. -/
theorem Collects.countFailure_eq (h : Collects refs m history writes) :
    Recognizer.countFailure m.failures = wrongStreak refs (attempts history) + 1 ∧
      wrongStreak refs (attempts history) < lockoutFailures := by
  have hfew : wrongStreak refs (attempts history) < lockoutFailures := by
    by_contra hle
    exact h.fewWrong (wrongThrice_of_le_wrongStreak (Nat.le_of_not_lt hle))
  refine ⟨?_, hfew⟩
  rw [Recognizer.countFailure, h.failures]
  simp only [lockoutFailures] at hfew
  omega

/-- What one more record has to lead to: a state that tracks the longer history, and an unlock output
    that says whether a correct attempt ended. -/
structure Answers (refs : ReferencePair) (next : Recognizer × Outputs) (history : List Record) : Prop where
  tracks : Tracks refs next.1 history
  unlock_iff : next.2.unlock = true ↔ attemptEnding? history = some refs.correct.toList

/-- **A write into an attempt, short of the fifth.** It is collected, and no attempt ends. -/
theorem Collects.extend_short (h : Collects refs m history writes) (hr : r.isReset = false)
    (hopen : openWrites (history ++ [r]) = writes ++ [r])
    (hlen : writes.length + 1 < sequenceLength) :
    Answers refs (Recognizer.extend refs m r.value) (history ++ [r]) := by
  have hcount : (openWrites (history ++ [r])).length = writes.length + 1 := by
    rw [hopen, List.length_append, List.length_singleton]
  have hending : attemptEnding? (history ++ [r]) = none := by
    rw [attemptEnding?_eq, if_neg (by omega)]
  have hsame : attempts (history ++ [r]) = attempts history := attempts_concat_of_none hr hending
  rw [Recognizer.extend_short (by rw [h.length_attempt]; exact hlen)]
  refine ⟨⟨?_, ?_, ?_, ?_, ?_⟩, by simp [Recognizer.outputs, hending]⟩
  · rw [hsame]
    exact ⟨fun hw => absurd (h.warning.symm.trans hw) (by decide), fun hw => absurd hw h.fewWrong⟩
  · intro hw
    exact absurd (h.warning.symm.trans hw) (by decide)
  · intro _
    rw [hsame]
    exact h.failures
  · intro _
    rw [List.take_of_length_le (by omega), hopen]
    exact h.attempt_append
  · intro _
    exact ⟨fun _ => by omega, fun _ => h.inAttempt⟩

/-- The fifth open write ends an attempt, and none is in progress behind it. -/
theorem attempt_ends (hr : r.isReset = false) (hopen : openWrites (history ++ [r]) = writes ++ [r])
    (hlen : writes.length + 1 = sequenceLength) :
    attemptEnding? (history ++ [r]) = some (payloads (writes ++ [r])) ∧
      attempts (history ++ [r]) = attempts history ++ [payloads (writes ++ [r])] ∧
      (openWrites (history ++ [r])).take sequenceLength = writes ++ [r] ∧
      ¬ (openWrites (history ++ [r])).length < sequenceLength := by
  have hcount : (openWrites (history ++ [r])).length = sequenceLength := by
    rw [hopen, List.length_append, List.length_singleton, hlen]
  have hending : attemptEnding? (history ++ [r]) = some (payloads (writes ++ [r])) := by
    rw [attemptEnding?_eq, if_pos hcount, hopen]
  refine ⟨hending, ?_, ?_, ?_⟩
  · rw [attempts_concat history hr, hending, Option.toList_some]
  · rw [List.take_of_length_le hcount.le, hopen]
  · rw [hcount]
    exact Nat.lt_irrefl _

/-- **The fifth write of a correct attempt** clears the failures, and the streak is over. -/
theorem Collects.complete_correct (h : Collects refs m history writes) (hr : r.isReset = false)
    (hopen : openWrites (history ++ [r]) = writes ++ [r])
    (hlen : writes.length + 1 = sequenceLength)
    (hc : payloads (writes ++ [r]) = refs.correct.toList) :
    Answers refs (Recognizer.complete refs { m with attempt := payloads (writes ++ [r]) })
      (history ++ [r]) := by
  obtain ⟨hending, hmore, htake, hclosed⟩ := attempt_ends hr hopen hlen
  have hnot : ¬ WrongThrice refs (attempts (history ++ [r])) := by
    rw [hmore, wrongThrice_concat_iff, wrongStreak_concat_correct hc]
    rintro (hthrice | hstreak)
    · exact h.fewWrong hthrice
    · exact absurd hstreak (by decide)
  rw [Recognizer.complete_correct (by simpa [ReferencePair.isCorrect] using hc)]
  refine ⟨⟨?_, ?_, ?_, ?_, ?_⟩, by simp [Recognizer.outputs, hending, hc]⟩
  · exact ⟨fun hw => absurd (h.warning.symm.trans hw) (by decide), fun hw => absurd hw hnot⟩
  · intro hw
    exact absurd (h.warning.symm.trans hw) (by decide)
  · intro _
    rw [hmore, wrongStreak_concat_correct hc]
  · intro _
    rw [htake]
  · intro _
    exact ⟨fun hi => absurd hi Bool.false_ne_true, fun hin => absurd hin.2 hclosed⟩

/-- **The fifth write of a wrong attempt** counts a failure, and the streak is longer by one. -/
theorem Collects.complete_wrong (h : Collects refs m history writes) (hr : r.isReset = false)
    (hopen : openWrites (history ++ [r]) = writes ++ [r])
    (hlen : writes.length + 1 = sequenceLength)
    (hc : payloads (writes ++ [r]) ≠ refs.correct.toList) :
    Answers refs (Recognizer.complete refs { m with attempt := payloads (writes ++ [r]) })
      (history ++ [r]) := by
  obtain ⟨hending, hmore, htake, hclosed⟩ := attempt_ends hr hopen hlen
  obtain ⟨hfailures, hfew⟩ := h.countFailure_eq
  have hwarn : (m.warning || decide (lockoutFailures ≤ Recognizer.countFailure m.failures)) = true ↔
      lockoutFailures ≤ wrongStreak refs (attempts history) + 1 := by
    rw [h.warning, Bool.false_or, decide_eq_true_iff, hfailures]
  rw [Recognizer.complete_wrong (by simpa [ReferencePair.isCorrect] using hc)]
  refine ⟨⟨?_, ?_, ?_, ?_, ?_⟩, by simp [Recognizer.outputs, hending, hc]⟩
  · -- the latch closes with the third attempt of a streak, and no earlier streak was that long
    rw [hmore, wrongThrice_concat_iff, wrongStreak_concat_wrong hc]
    exact hwarn.trans ⟨Or.inr, fun hor => hor.resolve_left h.fewWrong⟩
  · intro hw
    exact hfailures.trans (Nat.le_antisymm hfew (hwarn.mp hw))
  · intro _
    rw [hmore, wrongStreak_concat_wrong hc]
    exact hfailures
  · intro _
    rw [htake]
    rfl
  · intro _
    exact ⟨fun hi => absurd hi Bool.false_ne_true, fun hin => absurd hin.2 hclosed⟩

/-- Any write into an attempt in progress. -/
theorem Collects.extend (h : Collects refs m history writes) (hr : r.isReset = false)
    (hopen : openWrites (history ++ [r]) = writes ++ [r]) :
    Answers refs (Recognizer.extend refs m r.value) (history ++ [r]) := by
  rcases Nat.lt_or_eq_of_le (Nat.succ_le_of_lt h.short) with hlt | hlen
  · exact h.extend_short hr hopen hlt
  · rw [Recognizer.extend_last (by rw [h.length_attempt]; exact hlen), h.attempt_append]
    by_cases hc : payloads (writes ++ [r]) = refs.correct.toList
    · exact h.complete_correct hr hopen hlen hc
    · exact h.complete_wrong hr hopen hlen hc

/-- A start marker opens an attempt whatever was collected before. -/
theorem Tracks.collects_start (h : Tracks refs m history) (hw : m.warning = false) :
    Collects refs { m with attempt := [], inAttempt := true } history [] where
  warning := hw
  inAttempt := rfl
  failures := h.failures_open hw
  fewWrong hthrice := absurd (hw.symm.trans (h.warning_iff.mpr hthrice)) (by decide)
  attempt := rfl
  short := by decide

/-- An attempt in progress has collected the open writes. -/
theorem Tracks.collects_openWrites (h : Tracks refs m history) (hw : m.warning = false)
    (hi : m.inAttempt = true) : Collects refs m history (openWrites history) where
  warning := hw
  inAttempt := hi
  failures := h.failures_open hw
  fewWrong hthrice := absurd (hw.symm.trans (h.warning_iff.mpr hthrice)) (by decide)
  attempt := by
    rw [h.attempt_eq hw, List.take_of_length_le ((h.inAttempt_iff hw).mp hi).2.le]
  short := ((h.inAttempt_iff hw).mp hi).2

/-! ## Runs -/

/-- **Step lemma.** One record keeps the state tracking the history, and it unlocks exactly if it
    ends a correct attempt while the warning is down. -/
theorem Tracks.step (h : Tracks refs m history) (r : Record) :
    Tracks refs (m.step refs r).1 (history ++ [r]) ∧
      ((m.step refs r).2.unlock = true ↔
        attemptEnding? (history ++ [r]) = some refs.correct.toList ∧ m.warning = false) := by
  by_cases hr : r.isReset = true
  · have hending : attemptEnding? (history ++ [r]) = none := by
      rw [attemptEnding?_eq, openWrites_concat, openStep, if_pos hr]
      rfl
    rw [Recognizer.step_reset hr, hending]
    exact ⟨tracks_concat_reset hr, by simp [Recognizer.outputs]⟩
  rw [Bool.not_eq_true] at hr
  by_cases hw : m.warning = true
  · rw [Recognizer.step_locked hr hw]
    exact ⟨h.concat_locked hw hr, by simp [Recognizer.outputs, hw]⟩
  rw [Bool.not_eq_true] at hw
  by_cases hs : r.start = true
  · have hopen : openWrites (history ++ [r]) = [] ++ [r] := by
      rw [openWrites_concat, openStep, if_neg (by simp [hr]), if_pos hs]
      rfl
    rw [Recognizer.step_start hr hw hs]
    have hanswers := (h.collects_start hw).extend hr hopen
    exact ⟨hanswers.tracks, by rw [hanswers.unlock_iff, and_iff_left hw]⟩
  rw [Bool.not_eq_true] at hs
  by_cases hi : m.inAttempt = true
  · -- in progress means that something is open, so that the write is appended and not dropped
    have hne : (openWrites history).isEmpty = false :=
      List.isEmpty_eq_false_iff.mpr (List.length_pos_iff.mp ((h.inAttempt_iff hw).mp hi).1)
    have hopen : openWrites (history ++ [r]) = openWrites history ++ [r] := by
      rw [openWrites_concat, openStep, if_neg (by simp [hr]), if_neg (by simp [hs]),
        if_neg (by simp [hne])]
    rw [Recognizer.step_continue hr hw hs hi]
    have hanswers := (h.collects_openWrites hw hi).extend hr hopen
    exact ⟨hanswers.tracks, by rw [hanswers.unlock_iff, and_iff_left hw]⟩
  · rw [Bool.not_eq_true] at hi
    obtain ⟨htracks, hending⟩ := h.concat_idle hw hr hs hi
    rw [Recognizer.step_idle hr hs hi, hending]
    exact ⟨htracks, by simp [Recognizer.outputs]⟩

/-- **Run lemma.** Behind any stream a recognizer that started fresh tracks that stream. -/
theorem tracks_run (refs : ReferencePair) (records : List Record) :
    Tracks refs (Recognizer.fresh.run refs records).1 records := by
  induction records using List.reverseRecOn with
  | nil => exact tracks_fresh refs
  | append_singleton records r ih =>
      rw [Recognizer.run_concat]
      exact (ih.step r).1

/-- **The recognizer is its rule.** After the record at any position of any stream, the outputs and
    the failure count are those that the windows of the history give. -/
theorem run_obeys_rule (refs : ReferencePair) (records : List Record) (k : Nat)
    (hk : k < records.length) :
    let past := attempts (records.take (k + 1))
    let before := attempts (records.take k)
    ∃ o, (Recognizer.fresh.run refs records).2[k]? = some o ∧
      (o.warning = true ↔ WrongThrice refs past) ∧
      (o.unlock = true ↔ attemptEnding? (records.take (k + 1)) = some refs.correct.toList ∧
        ¬ WrongThrice refs before) ∧
      (Recognizer.fresh.run refs (records.take (k + 1))).1.failures =
        if o.warning then 3 else wrongStreak refs past := by
  have htake : records.take (k + 1) = records.take k ++ [records[k]] :=
    List.take_succ_eq_append_getElem hk
  have hbefore := tracks_run refs (records.take k)
  have hafter := tracks_run refs (records.take (k + 1))
  have hwarning : ((Recognizer.fresh.run refs (records.take k)).1.step refs records[k]).2.warning =
      (Recognizer.fresh.run refs (records.take (k + 1))).1.warning := by
    rw [Recognizer.step_warning, ← Recognizer.run_take_succ refs _ hk]
  refine ⟨((Recognizer.fresh.run refs (records.take k)).1.step refs records[k]).2, ?_, ?_, ?_, ?_⟩
  · rw [Recognizer.run_outputs_getElem?, List.getElem?_eq_getElem hk, Option.map_some]
  · rw [hwarning]
    exact hafter.warning_iff
  · rw [(hbefore.step records[k]).2, htake, ← hbefore.warning_iff, Bool.not_eq_true]
  · rw [hwarning]
    split
    · next hw => exact hafter.failures_locked hw
    · next hw => exact hafter.failures_open (Bool.not_eq_true _ ▸ hw)

/-- A partial attempt, a wrong one with a surplus value behind it, two more wrong ones, and a correct
    one that comes too late. -/
def lateCorrection : List Record :=
  encode [36, 19] ++ encode [255, 255, 255, 255, 255] ++ [Record.data 36 false]
    ++ encode [36, 19, 56, 101, 74] ++ encode [0, 0, 0, 0, 0] ++ encode [36, 19, 56, 101, 73]

/-- The correct attempt at the end of `lateCorrection` does not unlock. -/
theorem run_obeys_rule_lateCorrection :
    22 < lateCorrection.length ∧
      attemptEnding? (lateCorrection.take 23) = some References.default.correct.toList ∧
      ∃ o, (Recognizer.fresh.run References.default lateCorrection).2[22]? = some o ∧
        o.warning = true ∧ o.unlock = false ∧
        (Recognizer.fresh.run References.default (lateCorrection.take 23)).1.failures = 3 := by
  have hpast : ∀ k ∈ [22, 23], WrongThrice References.default (attempts (lateCorrection.take k)) := by
    intro k hk
    refine ⟨[[255, 255, 255, 255, 255], [36, 19, 56, 101, 74], [0, 0, 0, 0, 0]], ?_, rfl, by decide⟩
    rcases List.mem_pair.mp hk with rfl | rfl <;> decide
  obtain ⟨o, ho, hwarning, hunlock, hfailures⟩ :=
    run_obeys_rule References.default lateCorrection 22 (by decide)
  have hw : o.warning = true := hwarning.mpr (hpast 23 (by decide))
  refine ⟨by decide, by decide, o, ho, hw, ?_, by rw [hfailures, if_pos hw]⟩
  rw [← Bool.not_eq_true, hunlock]
  exact fun h => h.2 (hpast 22 (by decide))

end Trace

end StimulusBench
