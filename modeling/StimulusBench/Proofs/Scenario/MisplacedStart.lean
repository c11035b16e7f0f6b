import StimulusBench.Proofs.Scenario.Lockout
import StimulusBench.Proofs.Scenario.StartMarker

/-!
# `StimulusBench.Proofs.Scenario.MisplacedStart` — a misplaced start marker never locks out

The scenario writes the accepted values with the start marker moved behind the first of them, and then
lets filler run, every record of which expects the warning. But the values up to the marker are ignored,
and those from it on are too few to complete an attempt: no failure is counted. The filler behind them
drops the attempt and does nothing either. From the fresh state the warning therefore never comes up, and
every assertion of the filler fails.

## Contents
- **Drawn scenarios.** How many fragments the filler has, and what a drawn scenario is.
- **The marker.** `run_misplacedStart`: the accepted values behind a moved marker.
- **The filler.** `replay_open_filler`: filler that expects the warning while it is down.
- **The replay.** `replay_misplacedStart`, and what follows for a drawn scenario.
-/

namespace StimulusBench

/-! ## Drawn scenarios -/

theorem FragmentKind.length_drawMany {n : Nat} {drawn kinds : List FragmentKind}
    {source rest : RandomSource} (h : FragmentKind.drawMany n drawn source = some (kinds, rest)) :
    kinds.length = drawn.length + n := by
  induction n generalizing drawn source with
  | zero => rw [← (Draw.pure_eq_some_iff.mp h).1, List.length_reverse, Nat.add_zero]
  | succ n ih =>
      obtain ⟨kind, between, -, h⟩ := Draw.bind_eq_some_iff.mp h
      rw [ih h, List.length_cons, Nat.add_assoc, Nat.add_comm 1 n]

/-- **A drawn run** has at least one fragment and at most as many as the filler allows. -/
theorem Filler.drawRun_bounded {filler : Filler} {source rest : RandomSource} {run : Run}
    (hone : 1 ≤ filler.maxDraws) (hmax : filler.maxDraws < 1 <<< 64)
    (h : filler.drawRun source = some (run, rest)) :
    ∃ kinds, run = filler.run kinds ∧ 1 ≤ kinds.length ∧ kinds.length ≤ filler.maxDraws := by
  obtain ⟨count, between, hcount, h⟩ := Draw.bind_eq_some_iff.mp h
  obtain ⟨kinds, between', hkinds, h⟩ := Draw.bind_eq_some_iff.mp h
  have hlength : kinds.length = count := by
    rw [FragmentKind.length_drawMany hkinds, List.length_nil, Nat.zero_add]
  refine ⟨kinds, (Draw.pure_eq_some_iff.mp h).1.symm, ?_⟩
  rw [hlength]
  exact Draw.between_mem hone hmax hcount

variable {refs : References} {maxDraws : Nat}

/-- The filler of a reference pair is drawn by a bound that is at least one. -/
theorem Filler.drawRun_ofReferences {source rest : RandomSource} {run : Run}
    (hmax : maxDraws < 1 <<< 64)
    (h : (Filler.ofReferences refs maxDraws).drawRun source = some (run, rest)) :
    ∃ kinds, run = (Filler.ofReferences refs maxDraws).run kinds ∧
      1 ≤ kinds.length ∧ kinds.length ≤ max maxDraws 1 := by
  have hbound : (Filler.ofReferences refs maxDraws).maxDraws = max maxDraws 1 := rfl
  have h' := Filler.drawRun_bounded (by omega) (by omega) h
  rwa [hbound] at h'

/-- What a misplaced start is drawn from: an index, and filler of a bounded number of fragments. -/
theorem Composer.drawMisplacedStartAt_eq_some {source rest : RandomSource} {index : Nat}
    {scenario : Scenario} (hmax : maxDraws < 1 <<< 64)
    (h : (Composer.ofReferences refs maxDraws).drawMisplacedStartAt index source =
      some (scenario, rest)) :
    ∃ kinds, scenario = .misplacedStart index ((Filler.ofReferences refs maxDraws).run kinds) ∧
      1 ≤ kinds.length ∧ kinds.length ≤ max maxDraws 1 := by
  obtain ⟨run, between, hrun, h⟩ := Draw.bind_eq_some_iff.mp h
  obtain ⟨kinds, hkinds, hbounds⟩ := Filler.drawRun_ofReferences hmax hrun
  exact ⟨kinds, by rw [← (Draw.pure_eq_some_iff.mp h).1, hkinds], hbounds⟩

theorem Composer.drawMisplacedStart_eq_some {composer : Composer} {source rest : RandomSource}
    {scenario : Scenario} (h : composer.drawMisplacedStart source = some (scenario, rest)) :
    ∃ index between, composer.drawMisplacedStartAt index between = some (scenario, rest) := by
  obtain ⟨index, between, -, h⟩ := Draw.bind_eq_some_iff.mp h
  exact ⟨index, between, h⟩

/-! ## The marker -/

/-- The accepted values with a moved start marker. -/
def misplacedValues (refs : References) (index : Nat) : List Record :=
  overrideStart (encode refs.correct.toList) index

/-- The values from a moved start marker on. -/
def valuesFromMarker (refs : References) (index : Nat) : List Value :=
  refs.correct.toList.drop (markerIndex sequenceLength index)

/-- **The values leave an attempt in progress** and nothing else. -/
theorem run_misplacedStart (refs : References) (index : Nat) {m : Recognizer}
    (hw : m.warning = false) (hi : m.inAttempt = false) :
    m.run refs (misplacedValues refs index) =
      (m.collecting (valuesFromMarker refs index),
        List.replicate sequenceLength (m.outputs false)) :=
  Recognizer.run_overrideStart refs Vector.length_toList index hw hi

theorem extra_of_mem_misplacedValues {index : Nat} {r : Record}
    (h : r ∈ misplacedValues refs index) : r.extra = none := by
  obtain ⟨r', hr', start, rfl⟩ := exists_of_mem_overrideStart h
  have hbare : r'.extra = none := extra_of_mem_encode hr'
  exact hbare

theorem replay_misplacedValues (refs : References) (index : Nat) :
    Recognizer.fresh.replay refs (misplacedValues refs index) =
      (Recognizer.fresh.collecting (valuesFromMarker refs index),
        { steps := sequenceLength
          assertions := 0
          unlocks := 0
          finalWarning := false
          mismatches := [] }) := by
  have hrun := run_misplacedStart refs index (m := .fresh) rfl rfl
  have hlength : (misplacedValues refs index).length = sequenceLength := by
    rw [← Recognizer.length_run_outputs refs.toReferencePair .fresh, hrun, List.length_replicate]
  apply Prod.ext
  · rw [Recognizer.replay_eq, hrun]
  · rw [Recognizer.replay_untagged fun _ => extra_of_mem_misplacedValues, hlength, hrun]
    rfl

/-! ## The filler -/

/-- What a raised warning is answered with by filler while the warning is down: a mismatch at each
    record from an index on, with the unlocks of the chunks. -/
def fillerMismatches (index : Nat) (kinds : List FragmentKind) : List Mismatch :=
  ((kinds.flatMap FragmentKind.unlocks).zipIdx index).map fun p => ⟨p.2, .warned, ⟨p.1, false⟩⟩

theorem length_rebatched (refs : References) (maxDraws : Nat) (kinds : List FragmentKind) :
    ((Filler.ofReferences refs maxDraws).run kinds).rebatched.length =
      (kinds.flatMap FragmentKind.unlocks).length := by
  have houtputs := (run_rebatched_open refs maxDraws kinds (m := .fresh) rfl).2
  rw [← Recognizer.length_run_outputs refs.toReferencePair .fresh, houtputs, List.length_map]

/-- **The indices of the mismatches** are those of all filler records, one after the other. -/
theorem index_fillerMismatches (refs : References) (maxDraws index : Nat)
    (kinds : List FragmentKind) :
    (fillerMismatches index kinds).map (·.index) =
      List.range' index ((Filler.ofReferences refs maxDraws).run kinds).rebatched.length := by
  rw [length_rebatched, fillerMismatches, List.map_map, ← List.zipIdx_map_snd]
  rfl

theorem expected_fillerMismatches (refs : References) (maxDraws index : Nat)
    (kinds : List FragmentKind) :
    (fillerMismatches index kinds).map (·.expected) =
      List.replicate ((Filler.ofReferences refs maxDraws).run kinds).rebatched.length .warned := by
  rw [length_rebatched, fillerMismatches, List.map_map, ← List.length_zipIdx (i := index)]
  exact List.map_const'

theorem actual_fillerMismatches (index : Nat) (kinds : List FragmentKind) :
    (fillerMismatches index kinds).map (·.actual) =
      (kinds.flatMap FragmentKind.unlocks).map fun u => ⟨u, false⟩ := by
  rw [← List.zipIdx_map_fst index (kinds.flatMap FragmentKind.unlocks), fillerMismatches,
    List.map_map, List.map_map]
  rfl

theorem shift_fillerMismatches (n index : Nat) (kinds : List FragmentKind) :
    (fillerMismatches index kinds).map (·.shift n) = fillerMismatches (n + index) kinds := by
  rw [fillerMismatches, fillerMismatches, ← List.map_snd_add_zipIdx_eq_zipIdx, List.map_map,
    List.map_map]
  apply List.map_congr_left
  intro p _
  show (⟨n + p.2, .warned, ⟨p.1, false⟩⟩ : Mismatch) = ⟨p.2 + n, .warned, ⟨p.1, false⟩⟩
  rw [Nat.add_comm]

/-- One unlock per A chunk. -/
theorem countP_unlocks (kinds : List FragmentKind) :
    (kinds.flatMap FragmentKind.unlocks).countP id = kinds.count .A := by
  induction kinds with
  | nil => rfl
  | cons kind kinds ih =>
      rw [List.flatMap_cons, List.countP_append, ih, List.count_cons, Nat.add_comm]
      cases kind <;> rfl

/-- What filler without assertions reports while the warning is down. -/
theorem replay_open_rebatched (refs : References) (maxDraws : Nat) (kinds : List FragmentKind)
    {m : Recognizer} (hw : m.warning = false) :
    let records := ((Filler.ofReferences refs maxDraws).run kinds).rebatched
    (m.replay refs records).2 =
      { steps := records.length
        assertions := 0
        unlocks := kinds.count .A
        finalWarning := false
        mismatches := [] } := by
  intro records
  obtain ⟨hend, houtputs⟩ := run_rebatched_open refs maxDraws kinds hw
  have hbare : ∀ r ∈ records, r.extra = none := by
    intro r hr
    obtain ⟨chunk, -, hr⟩ := List.mem_flatMap.mp hr
    exact extra_of_mem_encode hr
  rw [Recognizer.replay_untagged hbare, hend, houtputs, List.countP_map, ← countP_unlocks]
  rfl

/-- **Filler that expects the warning** while it is down mismatches at every record. -/
theorem replay_open_filler (refs : References) (maxDraws : Nat) (kinds : List FragmentKind)
    {m : Recognizer} (hw : m.warning = false) :
    let run := (Filler.ofReferences refs maxDraws).run kinds
    (m.replay refs (run.rebatchedTagged .warned)).2 =
      { steps := run.rebatched.length
        assertions := run.rebatched.length
        unlocks := kinds.count .A
        finalWarning := false
        mismatches := fillerMismatches 0 kinds } := by
  intro run
  obtain ⟨hend, houtputs⟩ := run_rebatched_open refs maxDraws kinds hw
  have hunmet : ∀ o ∈ (m.run refs run.rebatched).2, o.assertion ≠ .warned := by
    intro o ho
    rw [houtputs] at ho
    obtain ⟨u, -, rfl⟩ := List.mem_map.mp ho
    exact fun heq => Bool.false_ne_true (congrArg Assertion.warning heq)
  rw [Run.rebatchedTagged, Recognizer.replay_tagAll_unmet hunmet, hend, houtputs, List.countP_map,
    ← countP_unlocks, List.zipIdx_map, List.map_map]
  rfl

/-! ## The replay -/

/-- **The replay of a misplaced start** from the fresh state: the warning stays down, the A chunks of
    both copies of the filler unlock, and every record of the tagged copy mismatches. -/
theorem replay_misplacedStart (refs : References) (maxDraws index : Nat) (kinds : List FragmentKind) :
    let run := (Filler.ofReferences refs maxDraws).run kinds
    (Recognizer.fresh.replay refs ((Scenario.misplacedStart index run).records refs)).2 =
      { steps := sequenceLength + run.rebatched.length + run.rebatched.length
        assertions := run.rebatched.length
        unlocks := 2 * kinds.count .A
        finalWarning := false
        mismatches := fillerMismatches sequenceLength kinds } := by
  intro run
  have hrecords : (Scenario.misplacedStart index run).records refs =
      misplacedValues refs index ++ run.rebatchedTagged .warned ++ run.rebatched := rfl
  have hdown : ((Recognizer.fresh.collecting (valuesFromMarker refs index)).replay refs
      (run.rebatchedTagged .warned)).1.warning = false := by
    rw [Recognizer.replay_eq, Run.rebatchedTagged, Recognizer.run_tagAll]
    exact (run_rebatched_open refs maxDraws kinds rfl).1
  rw [hrecords, Recognizer.replay_append, Recognizer.replay_append, replay_misplacedValues,
    replay_open_filler refs maxDraws kinds rfl, replay_open_rebatched refs maxDraws kinds hdown]
  simp only [Report.followedBy, Nat.zero_add, Nat.add_zero, Nat.two_mul, List.nil_append,
    List.map_nil, List.append_nil, shift_fillerMismatches]
  rfl

theorem length_fillerMismatches (refs : References) (maxDraws index : Nat)
    (kinds : List FragmentKind) :
    (fillerMismatches index kinds).length =
      ((Filler.ofReferences refs maxDraws).run kinds).rebatched.length := by
  rw [← List.length_map (·.index), index_fillerMismatches refs maxDraws, List.length_range']

theorem length_unlocks_pos {kinds : List FragmentKind} (h : 1 ≤ kinds.length) :
    0 < (kinds.flatMap FragmentKind.unlocks).length := by
  cases kinds with
  | nil => exact absurd h (by decide)
  | cons kind kinds =>
      rw [List.flatMap_cons, List.length_append]
      cases kind <;> exact Nat.lt_of_lt_of_le (by decide) (Nat.le_add_right _ _)

/-- **A drawn misplaced start never reaches lockout.** Whatever the source answered and whatever index
    was asked for, the replay from the fresh state ends with the warning down and fails: the filler
    asserts the warning at least once, and every one of its assertions mismatches. -/
theorem drawMisplacedStart_never_locks (refs : References) (maxDraws : Nat)
    (hmax : maxDraws < 1 <<< 64) (source rest : RandomSource) (scenario : Scenario)
    (h : (Composer.ofReferences refs maxDraws).drawMisplacedStart source = some (scenario, rest) ∨
      ∃ index, (Composer.ofReferences refs maxDraws).drawMisplacedStartAt index source =
        some (scenario, rest)) :
    let report := (Recognizer.fresh.replay refs (scenario.records refs)).2
    report.finalWarning = false ∧ report.passed = false ∧ 0 < report.assertions ∧
      report.mismatches.length = report.assertions := by
  have hdrawn : ∃ index between, (Composer.ofReferences refs maxDraws).drawMisplacedStartAt index
      between = some (scenario, rest) := by
    rcases h with h | ⟨index, h⟩
    · exact Composer.drawMisplacedStart_eq_some h
    · exact ⟨index, source, h⟩
  obtain ⟨index, between, hdrawn⟩ := hdrawn
  obtain ⟨kinds, rfl, hone, -⟩ := Composer.drawMisplacedStartAt_eq_some hmax hdrawn
  have hpos := length_unlocks_pos hone
  rw [← length_rebatched refs maxDraws] at hpos
  have hcount := length_fillerMismatches refs maxDraws sequenceLength kinds
  intro report
  have hreport : report = _ := replay_misplacedStart refs maxDraws index kinds
  rw [hreport]
  refine ⟨rfl, ?_, hpos, hcount⟩
  show (fillerMismatches sequenceLength kinds).isEmpty = false
  rw [List.isEmpty_eq_false_iff, ← List.length_pos_iff, hcount]
  exact hpos

/-- The marker behind the first value, and one B chunk of filler. -/
theorem drawMisplacedStart_never_locks_markerAtOne :
    let composer : Composer := .ofReferences .default 1
    let scenario : Scenario := .misplacedStart 1 (composer.filler.run [.B])
    composer.drawMisplacedStart (.script [0, 0, 0x80000000]) = some (scenario, .script []) ∧
      (Recognizer.fresh.replay References.default (scenario.records .default)).2.finalWarning =
        false := by
  intro composer scenario
  have hdraw : composer.drawMisplacedStart (.script [0, 0, 0x80000000]) =
      some (scenario, .script []) := by decide
  have hnever := drawMisplacedStart_never_locks .default 1 (by decide) _ _ scenario (Or.inl hdraw)
  exact ⟨hdraw, hnever.1⟩

/-- The same scenario, record by record: the assertion of its only tagged record is not met, and the
    warning is down at the end. -/
theorem misplacedStart_markerAtOne_fails :
    let scenario : Scenario := .misplacedStart 1 ((Filler.ofReferences .default 1).run [.B])
    (Composer.ofReferences .default 1).drawMisplacedStart (.script [0, 0, 0x80000000]) =
        some (scenario, .script []) ∧
      (Recognizer.fresh.replay References.default (scenario.records .default)).2 =
        ⟨7, 1, 0, false, [⟨5, ⟨false, true⟩, ⟨false, false⟩⟩]⟩ := by
  decide

end StimulusBench
