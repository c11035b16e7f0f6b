import StimulusBench.Proofs.Filler.Inert
import StimulusBench.Proofs.Random.Draw
import StimulusBench.Proofs.Replay
import StimulusBench.Scenario

/-!
# `StimulusBench.Proofs.Scenario.Lockout` — three wrong attempts always lock the recognizer out

The scenario makes three wrong attempts and then lets filler run, every record of which expects the
warning. It does so from any state: a partial attempt is dropped by the first start marker, and with
failures counted before the warning comes up earlier and the attempts that are left are ignored. Under
lockout the filler does not matter, so that it may come from any reference pair.

## Contents
- **Drawn filler.** `Filler.drawRun_eq_some`: a drawn run is a run of some kinds.
- **The attempts.** `lockoutAttempts` and the state behind them.
- **The replay.** `replay_lockout`, and the same for a drawn scenario.
-/

namespace StimulusBench

/-! ## Drawn filler -/

theorem Filler.drawRun_eq_some {filler : Filler} {source rest : RandomSource} {run : Run}
    (h : filler.drawRun source = some (run, rest)) : ∃ kinds, run = filler.run kinds := by
  obtain ⟨count, between, -, h⟩ := Draw.bind_eq_some_iff.mp h
  obtain ⟨kinds, between', -, h⟩ := Draw.bind_eq_some_iff.mp h
  exact ⟨kinds, (Draw.pure_eq_some_iff.mp h).1.symm⟩

theorem Composer.drawLockout_eq_some {composer : Composer} {source rest : RandomSource}
    {scenario : Scenario} (h : composer.drawLockout source = some (scenario, rest)) :
    ∃ kinds, scenario = .lockout (composer.filler.run kinds) := by
  obtain ⟨run, between, hrun, h⟩ := Draw.bind_eq_some_iff.mp h
  obtain ⟨kinds, hkinds⟩ := Filler.drawRun_eq_some hrun
  exact ⟨kinds, by rw [← (Draw.pure_eq_some_iff.mp h).1, hkinds]⟩

/-! ## The attempts -/

/-- The wrong attempts at the start of the scenario. -/
def lockoutAttempts (refs : References) : List Record :=
  (List.replicate warningAttempts (encode refs.sentinel.toList)).flatten

variable {refs : References} {r : Record}

theorem mem_encode_of_mem_lockoutAttempts (h : r ∈ lockoutAttempts refs) :
    r ∈ encode refs.sentinel.toList := by
  obtain ⟨attempt, hattempt, hr⟩ := List.mem_flatten.mp h
  rwa [List.eq_of_mem_replicate hattempt] at hr

theorem length_lockoutAttempts (refs : References) :
    (lockoutAttempts refs).length = warningAttempts * sequenceLength := by
  rw [lockoutAttempts, List.length_flatten, List.map_replicate, List.sum_replicate_nat, length_encode,
    Vector.length_toList]

theorem References.isCorrect_sentinel (refs : References) :
    refs.isCorrect refs.sentinel.toList = false :=
  refs.isCorrect_eq_false refs.sentinelValue_mem (Vector.mem_toList_iff.mpr refs.sentinelValue_mem)

/-- **Three wrong attempts raise the warning** from any state, and none of them unlocks. -/
theorem run_lockoutAttempts (refs : References) (m : Recognizer) :
    (∀ o ∈ (m.run refs (lockoutAttempts refs)).2, o.unlock = false) ∧
      (m.run refs (lockoutAttempts refs)).1.warning = true := by
  have hlen : refs.sentinel.toList.length = sequenceLength := Vector.length_toList
  obtain ⟨hquiet, hup | ⟨hcount, hfew⟩⟩ :=
    Recognizer.run_wrong_attempts m hlen refs.isCorrect_sentinel warningAttempts
  · exact ⟨hquiet, hup⟩
  · -- three more failures cannot stay below three
    rw [hcount] at hfew
    simp only [warningAttempts, lockoutFailures] at hfew
    omega

/-! ## The replay -/

theorem replay_lockoutAttempts (refs : References) (m : Recognizer) :
    (m.replay refs (lockoutAttempts refs)).2 =
      { steps := warningAttempts * sequenceLength
        assertions := 0
        unlocks := 0
        finalWarning := true
        mismatches := [] } := by
  obtain ⟨hquiet, hup⟩ := run_lockoutAttempts refs m
  have hunlocks : (m.run refs (lockoutAttempts refs)).2.countP (·.unlock) = 0 :=
    List.countP_eq_zero.mpr fun o ho => by rw [hquiet o ho]; exact Bool.false_ne_true
  rw [Recognizer.replay_untagged fun _ hr => extra_of_mem_encode (mem_encode_of_mem_lockoutAttempts hr),
    hunlocks, hup, length_lockoutAttempts]

/-- Under lockout every record shows the warning that the filler expects. -/
theorem replay_locked_filler (refs : ReferencePair) (run : Run) {m : Recognizer}
    (hw : m.warning = true) :
    (m.replay refs (run.rebatchedTagged .warned)).2 =
      { steps := run.rebatched.length
        assertions := run.rebatched.length
        unlocks := 0
        finalWarning := true
        mismatches := [] } := by
  have hdata : ∀ r ∈ run.rebatched, r.isReset = false := fun _ => isReset_of_mem_rebatched
  have hrun := Recognizer.run_locked refs hw hdata
  have hmet : ∀ o ∈ (m.run refs run.rebatched).2, o.assertion = Assertion.warned := by
    rw [hrun]
    intro o ho
    rw [List.eq_of_mem_replicate ho]
    rfl
  rw [Run.rebatchedTagged, Recognizer.replay_tagAll_met hmet, hrun, List.countP_replicate, hw]
  rfl

/-- **The replay of a lockout scenario** from any state and with any filler meets every assertion,
    unlocks nothing and ends under lockout. -/
theorem replay_lockout (refs : References) (run : Run) (m : Recognizer) :
    (m.replay refs ((Scenario.lockout run).records refs)).2 =
      { steps := warningAttempts * sequenceLength + run.rebatched.length
        assertions := run.rebatched.length
        unlocks := 0
        finalWarning := true
        mismatches := [] } := by
  have hrecords : (Scenario.lockout run).records refs =
      lockoutAttempts refs ++ run.rebatchedTagged .warned := rfl
  have hup : (m.replay refs (lockoutAttempts refs)).1.warning = true := by
    rw [Recognizer.replay_eq]
    exact (run_lockoutAttempts refs m).2
  rw [hrecords, Recognizer.replay_append, replay_lockoutAttempts, replay_locked_filler refs run hup]
  simp [Report.followedBy]

/-- **Every drawn lockout scenario reaches its outcome.** Whatever the filler was made from and
    whatever the source answered, the replay from any state meets every assertion, unlocks nothing,
    ends under lockout and has one assertion per filler record. -/
theorem drawLockout_reaches_lockout (composer : Composer) (source rest : RandomSource)
    (scenario : Scenario) (h : composer.drawLockout source = some (scenario, rest)) (m : Recognizer) :
    ∃ kinds, scenario = .lockout (composer.filler.run kinds) ∧
      (m.replay composer.references (scenario.records composer.references)).2 =
        { steps := warningAttempts * sequenceLength + (composer.filler.run kinds).rebatched.length
          assertions := (composer.filler.run kinds).rebatched.length
          unlocks := 0
          finalWarning := true
          mismatches := [] } := by
  obtain ⟨kinds, hkinds⟩ := composer.drawLockout_eq_some h
  exact ⟨kinds, hkinds, by rw [hkinds]; exact replay_lockout _ _ m⟩

/-- Another reference pair to make filler from. -/
def counting : References :=
  ⟨⟨#v[1, 2, 3, 4, 5], #v[9, 8, 9, 8, 9]⟩, References.disjoint_of_collision?_eq_none (by decide)⟩

/-- Filler of another reference pair, from a state with two failures and four values collected. -/
theorem drawLockout_reaches_lockout_counting :
    let composer : Composer := ⟨.default, .ofReferences counting 3⟩
    let scenario : Scenario := .lockout (composer.filler.run [.A, .B])
    composer.drawLockout (.script [0x80000000, 0, 0x80000000]) = some (scenario, .script []) ∧
      (Recognizer.replay References.default ⟨[36, 19, 56, 101], true, 2, false⟩
        (scenario.records References.default)).2 = ⟨22, 7, 0, true, []⟩ := by
  intro composer scenario
  have hdraw : composer.drawLockout (.script [0x80000000, 0, 0x80000000]) =
      some (scenario, .script []) := by decide
  obtain ⟨kinds, hkinds, hreport⟩ := drawLockout_reaches_lockout composer _ _ scenario hdraw
    ⟨[36, 19, 56, 101], true, 2, false⟩
  rw [← Scenario.lockout.inj hkinds] at hreport
  exact ⟨hdraw, hreport⟩

end StimulusBench
