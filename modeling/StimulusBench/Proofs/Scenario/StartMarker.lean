import StimulusBench.Proofs.Recognizer.Reachable
import StimulusBench.Proofs.Recognizer.Sequence
import StimulusBench.Scenario

/-!
# `StimulusBench.Proofs.Scenario.StartMarker` — what moving the start marker does

Moving the start marker touches the markers of two records at most: the first one loses its marker, and
the record at the index gets one. The index is moved into the range from one to the last record first, so
that it never points past the end, and never at the first record as long as there is a second one. Nothing
else of a record is looked at.

In an encoded sequence this leaves one marker. A recognizer without an attempt in progress ignores the
values in front of it, and from there on too few are left to complete an attempt, whatever the values are.

## Contents
- **Records.** `getElem?_overrideStart`, record by record; `map_overrideStart` for everything but the
  marker, `starts_overrideStart_encode` for the markers of a sequence.
- **Recognizers.** `overrideStart_encode` splits a sequence at the marker; `Recognizer.run_overrideStart`
  and `Recognizer.along_overrideStart`.
- **Both.** `overrideStart_opens_attempt`.
-/

namespace StimulusBench

/-! ## Records -/

/-- Where the start marker ends up among so many records. -/
def markerIndex (length index : Nat) : Nat := min (max index 1) (length - 1)

/-- With two records or more the marker is at one of them, and not at the first. -/
theorem markerIndex_bounds {length : Nat} (hlen : 1 < length) (index : Nat) :
    0 < markerIndex length index ∧ markerIndex length index < length := by
  unfold markerIndex
  omega

/-- **Record by record**: the first loses its marker, the one at the index gets one, and nothing else
    changes. -/
theorem getElem?_overrideStart (records : List Record) (index i : Nat) :
    (overrideStart records index)[i]? = records[i]?.map fun r =>
      r.withStart (if i = 0 then false
        else if i = markerIndex records.length index then true else r.start) := by
  have hdef : overrideStart records index =
      if 1 < records.length then
        markStart (markerIndex records.length index) (records.modify 0 (·.withStart false))
      else records.modify 0 (·.withStart false) := rfl
  rw [hdef]
  by_cases hlen : 1 < records.length
  · have hpos := (markerIndex_bounds hlen index).1
    rw [if_pos hlen, markStart, List.getElem?_modify, List.getElem?_modify]
    cases records[i]? with
    | none => rfl
    | some r =>
        by_cases hfirst : i = 0
        · have hother : markerIndex records.length index ≠ i := by omega
          simp [hfirst ▸ hother, hfirst]
        · by_cases hmarker : i = markerIndex records.length index
          · simp [hfirst, Ne.symm hfirst, ← hmarker]
          · simp [hfirst, Ne.symm hfirst, hmarker, Ne.symm hmarker, Record.withStart]
  · rw [if_neg hlen, List.getElem?_modify]
    by_cases hfirst : i = 0
    · subst hfirst
      simp
    · have hnone : records[i]? = none := List.getElem?_eq_none (by omega)
      simp [hnone]

/-- A record that is neither the first nor at the index stays as it is. -/
theorem getElem?_overrideStart_of_ne {records : List Record} {index i : Nat} (hfirst : i ≠ 0)
    (hmarker : i ≠ markerIndex records.length index) : (overrideStart records index)[i]? = records[i]? := by
  rw [getElem?_overrideStart]
  simp only [hfirst, hmarker, if_false]
  exact Option.map_id'

theorem start_of_overrideStart_zero {records : List Record} {index : Nat} {r : Record}
    (h : (overrideStart records index)[0]? = some r) : r.start = false := by
  rw [getElem?_overrideStart] at h
  obtain ⟨r', -, rfl⟩ := Option.map_eq_some_iff.mp h
  rfl

theorem start_overrideStart_marker {records : List Record} (hlen : 1 < records.length) (index : Nat) :
    (overrideStart records index)[markerIndex records.length index]?.map (·.start) = some true := by
  obtain ⟨hpos, hin⟩ := markerIndex_bounds hlen index
  have hother : markerIndex records.length index ≠ 0 := Nat.ne_of_gt hpos
  rw [getElem?_overrideStart, List.getElem?_eq_getElem hin]
  simp [hother, Record.withStart]

theorem length_overrideStart (records : List Record) (index : Nat) :
    (overrideStart records index).length = records.length := by
  unfold overrideStart markStart
  split <;> simp

/-- **Everything but the marker** of a record is kept. -/
theorem map_overrideStart {β : Type} {f : Record → β} (hf : ∀ r start, f (r.withStart start) = f r)
    (records : List Record) (index : Nat) :
    (overrideStart records index).map f = records.map f := by
  apply List.ext_getElem?
  intro i
  rw [List.getElem?_map, List.getElem?_map, getElem?_overrideStart, Option.map_map]
  congr 1
  funext r
  exact hf r _

/-- What is said of every record, whatever its marker, is said of the records with the marker moved. -/
theorem exists_of_mem_overrideStart {records : List Record} {index : Nat} {r : Record}
    (h : r ∈ overrideStart records index) : ∃ r' ∈ records, ∃ start, r = r'.withStart start := by
  obtain ⟨i, hi⟩ := List.mem_iff_getElem?.mp h
  rw [getElem?_overrideStart] at hi
  obtain ⟨r', hr', hr⟩ := Option.map_eq_some_iff.mp hi
  exact ⟨r', List.mem_of_getElem? hr', _, hr.symm⟩

/-- **One marker is left** of an encoded sequence, at the index. -/
theorem starts_overrideStart_encode {values : List Value} (hlen : 1 < values.length) (index : Nat) :
    (overrideStart (encode values) index).map (·.start) =
      (List.range values.length).map fun i => decide (i = markerIndex values.length index) := by
  have hpos := (markerIndex_bounds hlen index).1
  apply List.ext_getElem?
  intro i
  rw [List.getElem?_map, List.getElem?_map, getElem?_overrideStart, getElem?_encode, length_encode]
  by_cases hi : i < values.length
  · rw [List.getElem?_eq_getElem hi, List.getElem?_range hi]
    by_cases hfirst : i = 0
    · have hother : 0 ≠ markerIndex values.length index := Nat.ne_of_lt hpos
      simp [hfirst, hother, Record.withStart]
    · by_cases hmarker : i = markerIndex values.length index
      · simp [hfirst, ← hmarker, Record.withStart]
      · simp [hfirst, hmarker, Record.withStart, Record.data]
  · have hnone : values[i]? = none := List.getElem?_eq_none (Nat.le_of_not_lt hi)
    have hrange : (List.range values.length)[i]? = none := by simp [Nat.le_of_not_lt hi]
    rw [hnone, hrange]
    rfl

/-! ## Recognizers -/

/-- **A moved marker** splits a sequence: the values in front of it are unmarked, and those from it on
    are encoded as a sequence of their own. -/
theorem overrideStart_encode {values : List Value} (hlen : 1 < values.length) (index : Nat) :
    overrideStart (encode values) index =
      (values.take (markerIndex values.length index)).map (Record.data · false) ++
        encode (values.drop (markerIndex values.length index)) := by
  have hcleared : (encode values).modify 0 (·.withStart false) = values.map (Record.data · false) := by
    cases values with
    | nil => rfl
    | cons v vs => rfl
  have hi : markerIndex values.length index < values.length := (markerIndex_bounds hlen index).2
  have hdrop := List.drop_eq_getElem_cons hi
  unfold overrideStart markStart
  rw [hcleared, length_encode, if_pos hlen]
  show (values.map (Record.data · false)).modify (markerIndex values.length index) _ = _
  rw [List.modify_eq_take_cons_drop (by rwa [List.length_map]), List.getElem_map, ← List.map_take,
    ← List.map_drop, hdrop]
  rfl

namespace Recognizer

variable {m : Recognizer} {values : List Value}

/-- The values in front of a moved marker and those from it on, of five values. -/
theorem length_take_marker (hlen : values.length = sequenceLength) (index : Nat) :
    (values.take (markerIndex sequenceLength index)).length = markerIndex sequenceLength index := by
  have hin := (markerIndex_bounds (by decide : 1 < sequenceLength) index).2
  rw [List.length_take, hlen, Nat.min_eq_left (Nat.le_of_lt hin)]

theorem length_drop_marker (hlen : values.length = sequenceLength) (index : Nat) :
    (values.drop (markerIndex sequenceLength index)).length =
      sequenceLength - markerIndex sequenceLength index := by
  rw [List.length_drop, hlen]

/-- From the marker on there are values left, but too few for an attempt. -/
theorem drop_marker_short (hlen : values.length = sequenceLength) (index : Nat) :
    values.drop (markerIndex sequenceLength index) ≠ [] ∧
      (values.drop (markerIndex sequenceLength index)).length < sequenceLength := by
  obtain ⟨hpos, hin⟩ := markerIndex_bounds (by decide : 1 < sequenceLength) index
  have hlength := length_drop_marker hlen index
  refine ⟨fun hnil => ?_, by omega⟩
  rw [hnil, List.length_nil] at hlength
  omega

theorem overrideStart_encode_five (hlen : values.length = sequenceLength) (index : Nat) :
    overrideStart (encode values) index =
      (values.take (markerIndex sequenceLength index)).map (Record.data · false) ++
        encode (values.drop (markerIndex sequenceLength index)) := by
  have hsplit := overrideStart_encode (by rw [hlen]; decide) index
  rwa [hlen] at hsplit

/-- **Five values with a moved marker leave an attempt in progress** and nothing else: without an attempt
    before them, those in front of the marker are ignored, and those from it on are too few to complete
    one. -/
theorem run_overrideStart (refs : ReferencePair) (hlen : values.length = sequenceLength) (index : Nat)
    (hw : m.warning = false) (hi : m.inAttempt = false) :
    m.run refs (overrideStart (encode values) index) =
      (m.collecting (values.drop (markerIndex sequenceLength index)),
        List.replicate sequenceLength (m.outputs false)) := by
  obtain ⟨-, hin⟩ := markerIndex_bounds (by decide : 1 < sequenceLength) index
  obtain ⟨hsome, hfew⟩ := drop_marker_short hlen index
  rw [overrideStart_encode_five hlen, run_append, run_unmarked_idle refs hi,
    run_encode_short hw hsome hfew, length_take_marker hlen, length_drop_marker hlen,
    List.replicate_append_replicate, Nat.add_sub_cancel' (Nat.le_of_lt hin)]

/-- On the way neither the warning nor the failures change, under lockout or not. -/
theorem along_overrideStart (refs : ReferencePair) (hlen : values.length = sequenceLength) (index : Nat)
    (hi : m.inAttempt = false) : Along refs SameCounts m (overrideStart (encode values) index) := by
  rw [overrideStart_encode_five hlen, along_append, run_unmarked_idle refs hi]
  refine ⟨along_unmarked_idle ⟨rfl, rfl⟩ hi _, ?_⟩
  cases hw : m.warning with
  | true => exact along_locked ⟨rfl, rfl⟩ hw fun _ => isReset_of_mem_encode
  | false => exact along_encode_short hw (drop_marker_short hlen index).2

/-- No record of it unlocks. -/
theorem unlock_overrideStart (refs : ReferencePair) (hlen : values.length = sequenceLength) (index : Nat)
    (hi : m.inAttempt = false) {o : Outputs}
    (ho : o ∈ (m.run refs (overrideStart (encode values) index)).2) : o.unlock = false := by
  cases hw : m.warning with
  | false =>
      rw [run_overrideStart refs hlen index hw hi] at ho
      rw [List.eq_of_mem_replicate ho]
      rfl
  | true =>
      have hwrites : ∀ r ∈ overrideStart (encode values) index, r.isReset = false := by
        intro r hr
        obtain ⟨r', hr', start, rfl⟩ := exists_of_mem_overrideStart hr
        have hwrite : r'.isReset = false := isReset_of_mem_encode hr'
        exact hwrite
      rw [run_locked refs hw hwrites] at ho
      rw [List.eq_of_mem_replicate ho]

end Recognizer

/-! ## Both -/

/-- **Moving the start marker** keeps all of the records but two markers: the first is taken away, and, of
    two records or more, the one at the index is set, which is never past the end. Of an encoded sequence
    this is the only marker left. Five values written in this way, whatever they are, raise nothing and
    count nothing in any state without an attempt that a recognizer can be brought to; unless it is locked
    out they leave an attempt in progress, of the values from the marker on. -/
theorem overrideStart_opens_attempt :
    (∀ (records : List Record) (index : Nat),
      let moved := overrideStart records index
      let marker := markerIndex records.length index
      moved.length = records.length ∧
      moved.map (·.channel) = records.map (·.channel) ∧
      payloads moved = payloads records ∧
      moved.map (·.extra) = records.map (·.extra) ∧
      (∀ i, i ≠ 0 → i ≠ marker → moved[i]? = records[i]?) ∧
      (∀ r, moved[0]? = some r → r.start = false) ∧
      (1 < records.length → 0 < marker ∧ marker < records.length ∧
        moved[marker]?.map (·.start) = some true)) ∧
    (∀ (values : List Value) (index : Nat), 1 < values.length →
      (overrideStart (encode values) index).map (·.start) =
        (List.range values.length).map fun i => decide (i = markerIndex values.length index)) ∧
    ∀ (refs : ReferencePair) (calls : List Recognizer.Call) (values : Sequence) (index : Nat),
      let m := Recognizer.fresh.afterCalls refs calls
      let records := overrideStart (encode values.toList) index
      m.isQuiescent = true →
      (∀ o ∈ (m.run refs records).2, o.unlock = false) ∧
      (∀ k, (m.run refs (records.take k)).1.warning = m.warning ∧
        (m.run refs (records.take k)).1.failures = m.failures) ∧
      (m.warning = false →
        let after := (m.run refs records).1
        after.isQuiescent = false ∧
        after.attempt = values.toList.drop (markerIndex sequenceLength index) ∧
        after.attempt.length = sequenceLength - markerIndex sequenceLength index) := by
  refine ⟨fun records index => ?_, fun values index hlen => starts_overrideStart_encode hlen index, ?_⟩
  · intro moved marker
    refine ⟨length_overrideStart records index, map_overrideStart (fun _ _ => rfl) records index,
      map_overrideStart (fun _ _ => rfl) records index, map_overrideStart (fun _ _ => rfl) records index,
      fun i => getElem?_overrideStart_of_ne, fun r => start_of_overrideStart_zero, fun hlen => ?_⟩
    obtain ⟨hpos, hin⟩ := markerIndex_bounds hlen index
    exact ⟨hpos, hin, start_overrideStart_marker hlen index⟩
  · intro refs calls values index m records hquiet
    have hlen : values.toList.length = sequenceLength := Vector.length_toList
    have hi : m.inAttempt = false := by simpa [Recognizer.isQuiescent] using hquiet
    have halong := Recognizer.along_overrideStart refs hlen index hi
    refine ⟨fun o ho => Recognizer.unlock_overrideStart refs hlen index hi ho, fun k => ?_, fun hw => ?_⟩
    · have hkept : Recognizer.Along refs (fun s t => s.warning = m.warning ∧ s.failures = m.failures →
          t.warning = m.warning ∧ t.failures = m.failures) m records :=
        halong.mono fun s t hst hs => ⟨hst.1.trans hs.1, hst.2.trans hs.2⟩
      exact hkept.holds ⟨rfl, rfl⟩ k
    · intro after
      have hafter : after = m.collecting (values.toList.drop (markerIndex sequenceLength index)) :=
        congrArg Prod.fst (Recognizer.run_overrideStart refs hlen index hw hi)
      rw [hafter]
      exact ⟨rfl, rfl, Recognizer.length_drop_marker hlen index⟩

/-- The accepted values behind two wrong attempts, with an index far past the end: the marker is at the last
    value, which is all that is collected. -/
theorem overrideStart_opens_attempt_pastEnd :
    let refs := References.default
    let wrong := encode refs.sentinel.toList
    let m := Recognizer.fresh.afterCalls refs [.replay (wrong ++ wrong)]
    let records := overrideStart (encode refs.correct.toList) 18446744073709551615
    records.map (·.start) = [false, false, false, false, true] ∧
      m.isQuiescent = true ∧ m.warning = false ∧ m.failures = 2 ∧
      (∀ k, (m.run refs (records.take k)).1.failures = 2) ∧
      (∀ o ∈ (m.run refs records).2, o.unlock = false) ∧ (m.run refs records).1.attempt = [73] := by
  intro refs wrong m records
  have hquiet : m.isQuiescent = true := by decide
  have hw : m.warning = false := by decide
  have hfailures : m.failures = 2 := by decide
  obtain ⟨-, hstarts, hruns⟩ := overrideStart_opens_attempt
  obtain ⟨hunlock, hcounts, hopen⟩ :=
    hruns refs [.replay (wrong ++ wrong)] refs.correct 18446744073709551615 hquiet
  exact ⟨hstarts refs.correct.toList 18446744073709551615 (by decide), hquiet, hw, hfailures,
    fun k => (hcounts k).2.trans hfailures, hunlock, (hopen hw).2.1⟩

end StimulusBench
