import Mathlib.Data.List.Forall2
import StimulusBench.Proofs.Replay.Findings

/-!
# `StimulusBench.Proofs.Recognizer.Observation` — assertions only observe

Two streams are told apart by the recognizer only through the levels they drive: whether a record drives
the reset line, and of a write the value and the start marker. Two runs over streams that drive the same
levels go through the same states with the same outputs, whatever the records assert, whichever channel a
reset comes from, and whatever a reset has for a value. So the outputs of a run can be written onto its own
records as assertions without changing the run, and they are then met, each of them for itself.

## Contents
- **Two runs.** `Record.DrivesLike`; `step_of_drivesLike`, and `run_of_drivesLike` from it.
- **Golden streams.** `Recognizer.golden`, a stream with the outputs of its own run as assertions.
- **Observation.** `assertions_only_observe`.
-/

namespace StimulusBench

/-! ## Two runs -/

/-- **Records that drive the same levels**: both reset, or both write the same value with the same
    marker. -/
structure Record.DrivesLike (r r' : Record) : Prop where
  reset : r.isReset = r'.isReset
  value : r.isReset = false → r.value = r'.value
  start : r.isReset = false → r.start = r'.start

theorem Record.DrivesLike.refl (r : Record) : r.DrivesLike r := ⟨rfl, fun _ => rfl, fun _ => rfl⟩

/-- What a record asserts is no level that it drives. -/
theorem Record.DrivesLike.tagged {r r' : Record} (h : r.DrivesLike r') (a : Assertion) :
    (r.tagged a).DrivesLike r' := ⟨h.reset, h.value, h.start⟩

/-- An assertion put onto one record of a stream changes no level that the stream drives. -/
theorem drivesLike_modify_tagged {xs ys : List Record} (h : List.Forall₂ Record.DrivesLike xs ys) (k : Nat)
    (a : Assertion) : List.Forall₂ Record.DrivesLike (xs.modify k (·.tagged a)) ys := by
  induction h generalizing k with
  | nil =>
      rw [List.modify_nil]
      exact .nil
  | cons hr hrest ih =>
      cases k with
      | zero =>
          rw [List.modify_zero_cons]
          exact .cons (hr.tagged a) hrest
      | succ k =>
          rw [List.modify_succ_cons]
          exact .cons hr (ih k)

namespace Recognizer

variable {refs : ReferencePair} {m : Recognizer} {xs ys records : List Record}

/-- **One cycle** knows of a record only the levels that it drives. -/
theorem step_of_drivesLike {r r' : Record} (h : r.DrivesLike r') : m.step refs r = m.step refs r' := by
  cases hr : r.isReset with
  | true => rw [step_reset hr, step_reset (h.reset ▸ hr)]
  | false =>
      unfold step
      rw [← h.reset, ← h.value hr, ← h.start hr]

/-- **Two runs** over streams that drive the same levels are the same run. -/
theorem run_of_drivesLike (h : List.Forall₂ Record.DrivesLike xs ys) : m.run refs xs = m.run refs ys := by
  induction h generalizing m with
  | nil => rfl
  | cons hr _ ih => rw [run_cons, run_cons, step_of_drivesLike hr, ih]

/-! ## Golden streams -/

/-- The records of a stream, each asserting the outputs that the recognizer shows at it. -/
def golden (refs : ReferencePair) (m : Recognizer) (records : List Record) : List Record :=
  records.zipWith (fun r o => r.tagged o.assertion) (m.run refs records).2

theorem golden_drivesLike (refs : ReferencePair) (m : Recognizer) (records : List Record) :
    List.Forall₂ Record.DrivesLike (m.golden refs records) records := by
  induction records generalizing m with
  | nil => exact .nil
  | cons r rs ih =>
      rw [golden, run_cons, List.zipWith_cons_cons]
      exact .cons ((Record.DrivesLike.refl r).tagged _) (ih (m.step refs r).1)

/-- Every record of a golden stream asserts the outputs of the run at its own position. -/
theorem golden_getElem?_eq_some {k : Nat} {r : Record} (h : (m.golden refs records)[k]? = some r) :
    ∃ o, (m.run refs records).2[k]? = some o ∧ r.extra = some o.assertion := by
  obtain ⟨r', o, -, ho, rfl⟩ := List.getElem?_zipWith_eq_some.mp h
  exact ⟨o, ho, rfl⟩

theorem countP_extra_golden (refs : ReferencePair) (m : Recognizer) (records : List Record) :
    (m.golden refs records).countP (·.extra.isSome) = records.length := by
  have hlength : (m.golden refs records).length = records.length := by
    rw [golden, List.length_zipWith, length_run_outputs, Nat.min_self]
  rw [← hlength, List.countP_eq_length]
  intro r hr
  obtain ⟨k, hk⟩ := List.mem_iff_getElem?.mp hr
  obtain ⟨o, -, hextra⟩ := golden_getElem?_eq_some hk
  rw [hextra, Option.isSome_some]

/-- **A golden stream passes**: the outputs that it asserts are those of the run over itself. -/
theorem not_unmet_golden (x : Mismatch) : ¬ Unmet refs m (m.golden refs records) x := by
  rw [unmet_iff, run_of_drivesLike (golden_drivesLike refs m records)]
  rintro ⟨r, o, hr, ho, hasserted, hactual, hdiffers⟩
  obtain ⟨o', ho', hextra⟩ := golden_getElem?_eq_some hr
  cases ho.symm.trans ho'
  exact hdiffers (hactual.trans (Option.some.inj (hextra.symm.trans hasserted)))

/-- **A golden stream with one assertion changed** fails at that assertion and at no other. -/
theorem unmet_golden_modify_iff {k : Nat} {o : Outputs} {a : Assertion} {x : Mismatch}
    (ho : (m.run refs records).2[k]? = some o) (hne : a ≠ o.assertion) :
    Unmet refs m ((m.golden refs records).modify k (·.tagged a)) x ↔ x = ⟨k, a, o.assertion⟩ := by
  have hrun : m.run refs ((m.golden refs records).modify k (·.tagged a)) = m.run refs records :=
    run_of_drivesLike (drivesLike_modify_tagged (golden_drivesLike refs m records) k a)
  rw [unmet_iff, hrun, List.getElem?_modify]
  constructor
  · rintro ⟨r, o', hr, ho', hasserted, hactual, hdiffers⟩
    obtain ⟨r', hr', rfl⟩ := Option.map_eq_some_iff.mp hr
    obtain ⟨o'', ho'', hextra⟩ := golden_getElem?_eq_some hr'
    cases ho'.symm.trans ho''
    obtain ⟨index, expected, actual⟩ := x
    dsimp only at hasserted hactual hdiffers ho' ⊢
    split at hasserted
    next hk =>
      subst hk
      cases ho.symm.trans ho'
      cases hasserted
      rw [hactual]
    next =>
      -- every other record still asserts what the run shows
      exact absurd (hactual.trans (Option.some.inj (hextra.symm.trans hasserted))) hdiffers
  · rintro rfl
    obtain ⟨r, hr⟩ : ∃ r, records[k]? = some r := by
      rw [run_outputs_getElem?] at ho
      obtain ⟨r, hr, -⟩ := Option.map_eq_some_iff.mp ho
      exact ⟨r, hr⟩
    have hgolden : (m.golden refs records)[k]? = some (r.tagged o.assertion) :=
      List.getElem?_zipWith_eq_some.mpr ⟨r, o, hr, ho, rfl⟩
    refine ⟨r.tagged a, o, ?_, ho, rfl, rfl, hne.symm⟩
    show _ <$> (m.golden refs records)[k]? = _
    rw [hgolden]
    simp [Record.tagged]

/-! ## Observation -/

/-- **Assertions only observe.** Two streams that drive the same levels record by record lead a recognizer
    through the same states with the same outputs, and their replays count the same steps and unlocks and
    end with the same warning. So a stream whose records assert the outputs shown at them passes its replay,
    with as many assertions as records; and with any one of these assertions changed, that one is its only
    mismatch. -/
theorem assertions_only_observe (refs : ReferencePair) (m : Recognizer)
    (h : List.Forall₂ Record.DrivesLike xs ys) :
    (∀ k, (m.run refs (xs.take k)).1 = (m.run refs (ys.take k)).1) ∧
    (m.run refs xs).2 = (m.run refs ys).2 ∧
    (let (behind, report) := m.replay refs xs
     let (behind', report') := m.replay refs ys
     behind = behind' ∧ report.steps = report'.steps ∧ report.unlocks = report'.unlocks ∧
       report.finalWarning = report'.finalWarning) ∧
    ∀ records : List Record,
      (m.replay refs (m.golden refs records)).2.passed = true ∧
      (m.replay refs (m.golden refs records)).2.assertions = records.length ∧
      ∀ (k : Nat) (o : Outputs) (a : Assertion), (m.run refs records).2[k]? = some o → a ≠ o.assertion →
        (m.replay refs ((m.golden refs records).modify k (·.tagged a))).2.mismatches =
          [⟨k, a, o.assertion⟩] := by
  refine ⟨fun k => ?_, ?_, ?_, fun records => ⟨?_, ?_, fun k o a ho hne => ?_⟩⟩
  · rw [run_of_drivesLike (List.forall₂_take k h)]
  · rw [run_of_drivesLike h]
  · rw [replay_eq, replay_eq, run_of_drivesLike h]
    exact ⟨rfl, h.length_eq, rfl, rfl⟩
  · exact passed_replay_iff.mpr not_unmet_golden
  · rw [replay_eq]
    exact countP_extra_golden refs m records
  · refine replay_mismatches_eq (fun x => ?_) (List.pairwise_singleton _ _)
    rw [unmet_golden_modify_iff ho hne, List.mem_singleton]

/-- The same writes with other assertions, and a reset from another channel that is a marked write of some
    value; then the golden stream of these records with the assertion of the reset changed. -/
theorem assertions_only_observe_otherReset :
    let xs := [(Record.data 73 false).tagged .warned, ⟨7, 36, true, none⟩, Record.data 36 true]
    let ys := [Record.data 73 false, Record.reset.tagged .warned, Record.data 36 true]
    let m : Recognizer := ⟨[36, 19, 56, 101], true, 2, false⟩
    List.Forall₂ Record.DrivesLike xs ys ∧
      (m.run References.default xs).2 = (m.run References.default ys).2 ∧
      (m.replay References.default ((m.golden References.default ys).modify 1 (·.tagged .warned))).2.mismatches =
        [⟨1, .warned, ⟨false, false⟩⟩] := by
  intro xs ys m
  have hreset : Record.DrivesLike ⟨7, 36, true, none⟩ (Record.reset.tagged .warned) :=
    ⟨rfl, fun h => absurd h (by decide), fun h => absurd h (by decide)⟩
  have h : List.Forall₂ Record.DrivesLike xs ys :=
    .cons ((Record.DrivesLike.refl _).tagged _) (.cons hreset (.cons (Record.DrivesLike.refl _) .nil))
  obtain ⟨-, houtputs, -, hgolden⟩ := assertions_only_observe References.default m h
  refine ⟨h, houtputs, ?_⟩
  exact (hgolden ys).2.2 1 ⟨false, false⟩ .warned (by decide +kernel) (by decide)

end Recognizer

end StimulusBench
