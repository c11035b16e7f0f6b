import Mathlib.Data.List.DropRight
import Mathlib.Data.List.Infix
import StimulusBench.Proofs.Recognizer.Step

/-!
# `StimulusBench.Proofs.Recognizer.Trace` — the rule of the recognizer, read off the whole history

The recognizer is incremental: a buffer, a flag, a counter and a latch. Its rule can be said without
any of them. Look at every window of five records, keep those that are **attempts** (data writes, the
first one start-marked and the others not), and split them into correct and wrong ones. Since the last
reset,

* the warning is up iff some three attempts in a row are wrong;
* the unlock output is raised iff a correct attempt ends here and the warning was not up before;
* the failures are the wrong attempts behind the last correct one, or three once the warning is up.

Windows are awkward to reason about one record at a time. The lemmas here trade them for the
`openWrites`, the writes since the last start marker, which one record changes in a simple way: a window
is an attempt exactly if there are five open writes.

## Contents
- **The rule.** `IsAttempt`, `attemptEnding?`, `attempts`, `WrongThrice`, `wrongStreak`.
- **Open writes.** `openWrites` and `attemptEnding?_eq`, which reads an attempt off them.
- **One more attempt.** `attempts_concat`, `wrongThrice_concat_iff`.
-/

namespace StimulusBench

namespace Trace

/-! ## The rule -/

/-- Five data writes in a row, the first of them start-marked and the others not. -/
def IsAttempt (window : List Record) : Prop :=
  (∀ r ∈ window, r.isReset = false) ∧ window.map (·.start) = [true, false, false, false, false]

instance (window : List Record) : Decidable (IsAttempt window) :=
  inferInstanceAs (Decidable (_ ∧ _))

/-- The values of the attempt that the last record of a history ends, if it ends one. -/
def attemptEnding? (history : List Record) : Option (List Value) :=
  if IsAttempt (history.rtake sequenceLength) then some (payloads (history.rtake sequenceLength))
  else none

/-- The records behind the last reset. -/
def sinceReset (history : List Record) : List Record := history.rtakeWhile fun r => !r.isReset

/-- The attempts completed since the last reset, the first one first. -/
def attempts (history : List Record) : List (List Value) :=
  (sinceReset history).inits.filterMap attemptEnding?

/-- Some three attempts in a row are all wrong. -/
def WrongThrice (refs : ReferencePair) (past : List (List Value)) : Prop :=
  ∃ three, three <:+: past ∧ three.length = lockoutFailures ∧ ∀ a ∈ three, a ≠ refs.correct.toList

/-- How many attempts were wrong since the last correct one. -/
def wrongStreak (refs : ReferencePair) (past : List (List Value)) : Nat :=
  (past.rtakeWhile fun a => a != refs.correct.toList).length

/-! ## Open writes -/

/-- The open writes after one more record. -/
def openStep (writes : List Record) (r : Record) : List Record :=
  if r.isReset then [] else if r.start then [r] else if writes.isEmpty then [] else writes ++ [r]

/-- The writes since the last start marker, that one included; none without a marker since the last
    reset. -/
def openWrites (history : List Record) : List Record := history.foldl openStep []

theorem openWrites_concat (history : List Record) (r : Record) :
    openWrites (history ++ [r]) = openStep (openWrites history) r := by
  rw [openWrites, List.foldl_append]
  rfl

theorem sinceReset_concat (history : List Record) (r : Record) :
    sinceReset (history ++ [r]) = if r.isReset then [] else sinceReset history ++ [r] := by
  rw [sinceReset, List.rtakeWhile_concat]
  cases r.isReset <;> rfl

/-- What happened before the last reset does not matter to the open writes. -/
theorem openWrites_sinceReset (history : List Record) :
    openWrites (sinceReset history) = openWrites history := by
  induction history using List.reverseRecOn with
  | nil => rfl
  | append_singleton history r ih =>
      rw [sinceReset_concat, openWrites_concat]
      by_cases hr : r.isReset = true
      · rw [if_pos hr, openStep, if_pos hr]
        rfl
      · rw [if_neg hr, openWrites_concat, ih]

/-- The open writes are the end of the history. -/
theorem openWrites_suffix (history : List Record) : openWrites history <:+ history := by
  induction history using List.reverseRecOn with
  | nil => exact List.suffix_rfl
  | append_singleton history r ih =>
      rw [openWrites_concat, openStep]
      split
      · exact List.nil_suffix
      split
      · exact List.suffix_append history [r]
      split
      · exact List.nil_suffix
      · -- both ends grow by the same record
        exact (List.suffix_append_inj_of_length_eq rfl).mpr ⟨ih, rfl⟩

/-- Unmarked writes go behind the open ones. -/
theorem foldl_openStep_unmarked {writes us : List Record} (hw : writes ≠ [])
    (hus : ∀ u ∈ us, u.isReset = false ∧ u.start = false) :
    us.foldl openStep writes = writes ++ us := by
  induction us generalizing writes with
  | nil => rw [List.append_nil]; rfl
  | cons u us ih =>
      have hu := hus u List.mem_cons_self
      have hstep : openStep writes u = writes ++ [u] := by
        simp [openStep, hu.1, hu.2, hw]
      rw [List.foldl_cons, hstep, ih (by simp) fun u' hu' => hus u' (List.mem_cons_of_mem u hu'),
        List.append_assoc, List.singleton_append]

/-- A start-marked write with unmarked writes behind it is all that is open. -/
theorem openWrites_append_marked (history : List Record) {s : Record} {us : List Record}
    (hr : s.isReset = false) (hs : s.start = true)
    (hus : ∀ u ∈ us, u.isReset = false ∧ u.start = false) :
    openWrites (history ++ s :: us) = s :: us := by
  have hstep : openStep (history.foldl openStep []) s = [s] := by
    simp [openStep, hr, hs]
  rw [openWrites, List.foldl_append, List.foldl_cons, hstep,
    foldl_openStep_unmarked (List.cons_ne_nil s []) hus, List.singleton_append]

/-- The open writes are data writes, and only the first of them is start-marked. -/
theorem openWrites_eq_nil_or_marked (history : List Record) :
    openWrites history = [] ∨ ∃ s us, openWrites history = s :: us ∧ s.isReset = false ∧
      s.start = true ∧ ∀ u ∈ us, u.isReset = false ∧ u.start = false := by
  induction history using List.reverseRecOn with
  | nil => exact Or.inl rfl
  | append_singleton history r ih =>
      rw [openWrites_concat]
      by_cases hr : r.isReset = true
      · exact Or.inl (by simp [openStep, hr])
      rw [Bool.not_eq_true] at hr
      by_cases hs : r.start = true
      · exact Or.inr ⟨r, [], by simp [openStep, hr, hs], hr, hs, by simp⟩
      rw [Bool.not_eq_true] at hs
      rcases ih with hnil | ⟨s, us, hopen, hsr, hss, hus⟩
      · exact Or.inl (by simp [openStep, hr, hs, hnil])
      · refine Or.inr ⟨s, us ++ [r], by simp [openStep, hr, hs, hopen], hsr, hss, ?_⟩
        intro u hu
        rcases List.mem_append.mp hu with hu | hu
        · exact hus u hu
        · rw [List.mem_singleton.mp hu]; exact ⟨hr, hs⟩

/-- **No attempt in progress.** Then there are no open writes at all, or the fifth went by already, and
    one more unmarked write changes neither. -/
theorem openWrites_concat_closed {history : List Record} {r : Record} (hr : r.isReset = false)
    (hs : r.start = false)
    (hnot : ¬ (0 < (openWrites history).length ∧ (openWrites history).length < sequenceLength)) :
    (openWrites (history ++ [r])).take sequenceLength = (openWrites history).take sequenceLength ∧
      ¬ (0 < (openWrites (history ++ [r])).length ∧
        (openWrites (history ++ [r])).length ≤ sequenceLength) := by
  have hstep : openWrites (history ++ [r]) = openStep (openWrites history) r :=
    openWrites_concat history r
  by_cases hnil : openWrites history = []
  · simp [hstep, openStep, hr, hs, hnil]
  · have hpos : 0 < (openWrites history).length := List.length_pos_iff.mpr hnil
    have hfull : sequenceLength ≤ (openWrites history).length := by
      by_contra hlt
      exact hnot ⟨hpos, Nat.lt_of_not_le hlt⟩
    have happ : openWrites (history ++ [r]) = openWrites history ++ [r] := by
      simp [hstep, openStep, hr, hs, hnil]
    rw [happ, List.take_append_of_le_length hfull, List.length_append, List.length_singleton]
    refine ⟨rfl, ?_⟩
    intro hin
    omega

/-- Five open writes are the last five records. -/
theorem rtake_eq_openWrites {history : List Record}
    (hlen : (openWrites history).length = sequenceLength) :
    history.rtake sequenceLength = openWrites history := by
  obtain ⟨before, hbefore⟩ := openWrites_suffix history
  have hdrop : (before ++ openWrites history).drop
      ((before ++ openWrites history).length - sequenceLength) = openWrites history := by
    rw [List.length_append, hlen, Nat.add_sub_cancel, List.drop_left]
  rwa [hbefore] at hdrop

/-- Five open writes are an attempt. -/
theorem isAttempt_openWrites {history : List Record}
    (hlen : (openWrites history).length = sequenceLength) : IsAttempt (openWrites history) := by
  rcases openWrites_eq_nil_or_marked history with hnil | ⟨s, us, hopen, hr, hs, hus⟩
  · rw [hnil] at hlen; exact absurd hlen (by decide)
  rw [hopen] at hlen ⊢
  have hcount : us.length = 4 := by simpa [sequenceLength] using hlen
  have hmarks : us.map (·.start) = List.replicate 4 false :=
    List.eq_replicate_iff.mpr ⟨by simpa using hcount, by simpa using fun u hu => (hus u hu).2⟩
  refine ⟨?_, by rw [List.map_cons, hs, hmarks]; rfl⟩
  intro u hu
  rcases List.mem_cons.mp hu with hu | hu
  · rw [hu]; exact hr
  · exact (hus u hu).1

/-- After an attempt five writes are open, whatever happened before it. -/
theorem length_openWrites_of_isAttempt {history : List Record}
    (h : IsAttempt (history.rtake sequenceLength)) :
    (openWrites history).length = sequenceLength := by
  obtain ⟨hdata, hmarks⟩ := h
  obtain ⟨s, us, hwindow, hs, hus⟩ := List.map_eq_cons_iff.mp hmarks
  have hunmarked : ∀ u ∈ us, u.isReset = false ∧ u.start = false := by
    intro u hu
    refine ⟨hdata u (hwindow ▸ List.mem_cons_of_mem s hu), ?_⟩
    have hmem : u.start ∈ us.map (·.start) := List.mem_map_of_mem hu
    rw [hus] at hmem
    simpa using hmem
  -- the marked write closes whatever was open in front of the window
  have hsplit : history.rdrop sequenceLength ++ s :: us = history := by
    rw [← hwindow]
    exact List.take_append_drop _ history
  have hopen : openWrites history = s :: us := by
    rw [← hsplit]
    exact openWrites_append_marked _ (hdata s (hwindow ▸ List.mem_cons_self)) hs hunmarked
  have hcount : us.length = 4 := by simpa using congrArg List.length hus
  rw [hopen, List.length_cons, hcount]

/-- **An attempt ends exactly when five writes are open**, and those five are the attempt. -/
theorem attemptEnding?_eq (history : List Record) :
    attemptEnding? history =
      if (openWrites history).length = sequenceLength then some (payloads (openWrites history))
      else none := by
  unfold attemptEnding?
  by_cases hlen : (openWrites history).length = sequenceLength
  · rw [if_pos hlen, rtake_eq_openWrites hlen, if_pos (isAttempt_openWrites hlen)]
  · rw [if_neg hlen, if_neg (mt length_openWrites_of_isAttempt hlen)]

/-- An attempt that ends here lies behind the last reset. -/
theorem attemptEnding?_sinceReset (history : List Record) :
    attemptEnding? (sinceReset history) = attemptEnding? history := by
  rw [attemptEnding?_eq, attemptEnding?_eq, openWrites_sinceReset]

/-! ## One more attempt -/

/-- A reset starts a new list of attempts. -/
theorem attempts_concat_reset (history : List Record) {r : Record} (hr : r.isReset = true) :
    attempts (history ++ [r]) = [] := by
  rw [attempts, sinceReset_concat, if_pos hr]
  decide

/-- Any other record adds the attempt that it ends, if it ends one. -/
theorem attempts_concat (history : List Record) {r : Record} (hr : r.isReset = false) :
    attempts (history ++ [r]) = attempts history ++ (attemptEnding? (history ++ [r])).toList := by
  have hsince : sinceReset (history ++ [r]) = sinceReset history ++ [r] := by
    rw [sinceReset_concat, hr]
    rfl
  have hinits : (sinceReset history ++ [r]).inits =
      (sinceReset history).inits ++ [sinceReset history ++ [r]] := by
    rw [List.inits_append]
    rfl
  -- the one new front is the whole stretch, and cutting at the reset did not shorten its last window
  have hlast : attemptEnding? (sinceReset history ++ [r]) = attemptEnding? (history ++ [r]) := by
    rw [← hsince, attemptEnding?_sinceReset]
  rw [attempts, hsince, hinits, List.filterMap_append, List.filterMap_cons, hlast]
  cases attemptEnding? (history ++ [r]) <;> rfl

theorem attempts_concat_of_none {history : List Record} {r : Record} (hr : r.isReset = false)
    (hending : attemptEnding? (history ++ [r]) = none) :
    attempts (history ++ [r]) = attempts history := by
  rw [attempts_concat history hr, hending, Option.toList_none, List.append_nil]

variable {refs : ReferencePair} {past : List (List Value)} {a : List Value}

theorem wrongStreak_concat_correct (h : a = refs.correct.toList) :
    wrongStreak refs (past ++ [a]) = 0 := by
  rw [wrongStreak, List.rtakeWhile_concat_neg _ _ _ (by simp [h])]
  rfl

theorem wrongStreak_concat_wrong (h : a ≠ refs.correct.toList) :
    wrongStreak refs (past ++ [a]) = wrongStreak refs past + 1 := by
  rw [wrongStreak, List.rtakeWhile_concat_pos _ _ _ (by simpa using h), List.length_append]
  rfl

/-- The streak is the longest end of the list in which every attempt is wrong. -/
theorem le_wrongStreak_of_suffix {last : List (List Value)} (hlast : last <:+ past)
    (hwrong : ∀ a ∈ last, a ≠ refs.correct.toList) : last.length ≤ wrongStreak refs past := by
  induction past using List.reverseRecOn generalizing last with
  | nil => rw [List.suffix_nil.mp hlast]; exact Nat.zero_le _
  | append_singleton past b ih =>
      rcases List.suffix_concat_iff.mp hlast with hnil | ⟨front, hfront, hsuffix⟩
      · rw [hnil]; exact Nat.zero_le _
      · subst hfront
        have hb : b ≠ refs.correct.toList := hwrong b (by simp)
        have hle := ih hsuffix fun a ha => hwrong a (List.mem_append_left [b] ha)
        rw [wrongStreak_concat_wrong hb, List.length_append]
        exact Nat.add_le_add_right hle 1

/-- A streak of three is three wrong attempts in a row. -/
theorem wrongThrice_of_le_wrongStreak (h : lockoutFailures ≤ wrongStreak refs past) :
    WrongThrice refs past := by
  let streak := past.rtakeWhile fun a => a != refs.correct.toList
  refine ⟨streak.take lockoutFailures, ?_, ?_, ?_⟩
  · exact (List.take_prefix _ streak).isInfix.trans (List.rtakeWhile_suffix _ past).isInfix
  · rw [List.length_take]
    exact Nat.min_eq_left h
  · intro a ha
    have hwrong := List.mem_rtakeWhile_imp (List.mem_of_mem_take ha)
    simpa using hwrong

/-- **One more attempt** completes three wrong ones in a row only as the last of a streak. -/
theorem wrongThrice_concat_iff :
    WrongThrice refs (past ++ [a]) ↔
      WrongThrice refs past ∨ lockoutFailures ≤ wrongStreak refs (past ++ [a]) := by
  constructor
  · rintro ⟨three, hthree, hlen, hwrong⟩
    -- the three reach the new attempt, or they stood there before it
    rcases List.infix_concat_iff.mp hthree with hsuffix | hinfix
    · exact Or.inr (hlen ▸ le_wrongStreak_of_suffix hsuffix hwrong)
    · exact Or.inl ⟨three, hinfix, hlen, hwrong⟩
  · rintro (⟨three, hthree, hlen, hwrong⟩ | hstreak)
    · exact ⟨three, hthree.trans (List.prefix_append past [a]).isInfix, hlen, hwrong⟩
    · exact wrongThrice_of_le_wrongStreak hstreak

theorem not_wrongThrice_nil : ¬ WrongThrice refs [] := by
  rintro ⟨three, hthree, hlen, -⟩
  rw [List.infix_nil.mp hthree] at hlen
  exact absurd hlen (by decide)

end Trace

end StimulusBench
