import StimulusBench.Assembly
import StimulusBench.Proofs.Scenario.MisplacedStart

/-!
# `StimulusBench.Proofs.Assembly` — the exact replay of a generated corpus

A generated corpus is replayed in four parts. The lockout scenario raises the warning from any state, a
reset clears everything, the misplaced start runs from the fresh state and leaves the warning down, and
a second reset clears everything again. The report of the whole follows from the reports of the parts:
the first resets make the starting state irrelevant, and all mismatches come from the tagged filler of
the misplaced start, at positions that depend on the length of the first filler only.

## Contents
- **Leaves.** `flatten_corpus`: the four parts in a row.
- **The replay.** `replay_corpus`: the state behind it and the report, from any state.
- **Drawn corpora.** `drawCorpus_eq_some` names the runs that were drawn; the replay of a drawn corpus.
-/

namespace StimulusBench

/-! ## Leaves -/

theorem Stimulus.flattenAll_map_record (records : List Record) :
    Stimulus.flattenAll (records.map .record) = records := by
  induction records with
  | nil => rfl
  | cons r rs ih =>
      show r :: Stimulus.flattenAll (rs.map .record) = r :: rs
      rw [ih]

theorem Stimulus.flatten_ofRecords (records : List Record) :
    (Stimulus.ofRecords records).flatten = records := by
  rw [Stimulus.ofRecords, Stimulus.flatten, Stimulus.flattenAll_map_record]

/-- **The leaves of a generated corpus** are the records of its parts, one part after the other. -/
theorem flatten_corpus (refs : References) (assembly : Assembly) :
    (assembly.corpus refs).flatten =
      assembly.lockout.records refs ++ [Record.reset] ++ assembly.misplacedStart.records refs ++
        [Record.reset] := by
  simp only [Corpus.flatten, Assembly.corpus, Stimulus.flattenAll, Stimulus.flatten,
    Stimulus.flatten_ofRecords, List.append_nil, List.append_assoc]

/-! ## The replay -/

/-- A reset forgets everything, and asserts nothing. -/
theorem replay_reset (refs : ReferencePair) (m : Recognizer) :
    m.replay refs [Record.reset] = (Recognizer.fresh, ⟨1, 0, 0, false, []⟩) := rfl

/-- The assembly of two runs and an index. -/
def Assembly.ofRuns (first : Run) (index : Nat) (second : Run) : Assembly :=
  ⟨.lockout first, .misplacedStart index second⟩

/-- **The replay of a generated corpus**, from any state. It ends in the fresh state. The lockout
    scenario is as long as its attempts and its filler, and nothing in it mismatches; of the misplaced
    start every record of the first copy of the filler does. -/
theorem replay_corpus (refs : References) (maxDraws index : Nat) (first : Run)
    (kinds : List FragmentKind) (m : Recognizer) :
    let second := (Filler.ofReferences refs maxDraws).run kinds
    m.replay refs ((Assembly.ofRuns first index second).corpus refs).flatten =
      (Recognizer.fresh,
        { steps := 22 + first.rebatched.length + 2 * second.rebatched.length
          assertions := first.rebatched.length + second.rebatched.length
          unlocks := 2 * kinds.count .A
          finalWarning := false
          mismatches := fillerMismatches (21 + first.rebatched.length) kinds }) := by
  intro second
  have hmisplaced : (Recognizer.fresh.replay refs
      ((Scenario.misplacedStart index second).records refs)).2 = _ :=
    replay_misplacedStart refs maxDraws index kinds
  have hindex : warningAttempts * sequenceLength + first.rebatched.length + 1 + sequenceLength =
      21 + first.rebatched.length := by
    unfold warningAttempts sequenceLength
    omega
  have hsteps : warningAttempts * sequenceLength + first.rebatched.length + 1 +
      (sequenceLength + second.rebatched.length + second.rebatched.length) + 1 =
        22 + first.rebatched.length + 2 * second.rebatched.length := by
    unfold warningAttempts sequenceLength
    omega
  rw [flatten_corpus]
  simp only [Assembly.ofRuns, Recognizer.replay_append, replay_reset, replay_lockout, hmisplaced,
    Report.followedBy, List.map_nil, List.append_nil, List.nil_append, Nat.add_zero, Nat.zero_add,
    shift_fillerMismatches, hindex]
  rw [hsteps]

/-! ## Drawn corpora -/

/-- What a corpus is drawn from: two runs of bounded numbers of fragments, and an index. -/
theorem drawCorpus_eq_some {refs : References} {maxDraws : Nat} {source rest : RandomSource}
    {corpus : Corpus} (hmax : maxDraws < 1 <<< 64)
    (h : (Composer.ofReferences refs maxDraws).drawCorpus source = some (corpus, rest)) :
    ∃ kinds₁ index kinds₂,
      (1 ≤ kinds₁.length ∧ kinds₁.length ≤ max maxDraws 1) ∧
      (1 ≤ kinds₂.length ∧ kinds₂.length ≤ max maxDraws 1) ∧
      corpus = (Assembly.ofRuns ((Filler.ofReferences refs maxDraws).run kinds₁) index
        ((Filler.ofReferences refs maxDraws).run kinds₂)).corpus refs := by
  obtain ⟨assembly, s₁, hassembly, h⟩ := Draw.bind_eq_some_iff.mp h
  have hcorpus := (Draw.pure_eq_some_iff.mp h).1
  obtain ⟨lockout, s₂, hlockout, hassembly⟩ := Draw.bind_eq_some_iff.mp hassembly
  obtain ⟨misplaced, s₃, hmisplaced, hassembly⟩ := Draw.bind_eq_some_iff.mp hassembly
  have hparts := (Draw.pure_eq_some_iff.mp hassembly).1
  obtain ⟨run, s₄, hrun, hlockout⟩ := Draw.bind_eq_some_iff.mp hlockout
  have hfirst := (Draw.pure_eq_some_iff.mp hlockout).1
  obtain ⟨kinds₁, hkinds₁, hbounds₁⟩ := Filler.drawRun_ofReferences hmax hrun
  obtain ⟨index, s₅, hmisplaced⟩ := Composer.drawMisplacedStart_eq_some hmisplaced
  obtain ⟨kinds₂, hsecond, hbounds₂⟩ := Composer.drawMisplacedStartAt_eq_some hmax hmisplaced
  refine ⟨kinds₁, index, kinds₂, hbounds₁, hbounds₂, ?_⟩
  rw [← hcorpus, ← hparts, ← hfirst, hsecond, hkinds₁]
  rfl

/-- **The exact replay of a drawn corpus.** There are two lists of kinds, neither empty nor longer than
    the bound on draws, such that the replay of the corpus from any state ends in the fresh state, with
    counts that depend on the two lists only. The mismatches are those of the tagged filler of the
    misplaced start: one for each of its records, in the order of their positions, where the recognizer
    shows no warning and unlocks at the fifth record of each A chunk. -/
theorem drawCorpus_replay (refs : References) (maxDraws : Nat) (hmax : maxDraws < 1 <<< 64)
    (source rest : RandomSource) (corpus : Corpus)
    (h : (Composer.ofReferences refs maxDraws).drawCorpus source = some (corpus, rest)) :
    ∃ kinds₁ kinds₂ : List FragmentKind,
      (1 ≤ kinds₁.length ∧ kinds₁.length ≤ max 1 maxDraws) ∧
      (1 ≤ kinds₂.length ∧ kinds₂.length ≤ max 1 maxDraws) ∧
      let l₁ := ((Filler.ofReferences refs maxDraws).run kinds₁).rebatched.length
      let l₂ := ((Filler.ofReferences refs maxDraws).run kinds₂).rebatched.length
      ∀ m : Recognizer,
        let (behind, report) := m.replay refs corpus.flatten
        behind = .fresh ∧
          report.steps = 22 + l₁ + 2 * l₂ ∧
          report.assertions = l₁ + l₂ ∧
          report.unlocks = 2 * kinds₂.count .A ∧
          report.finalWarning = false ∧
          report.mismatches.map (·.index) = List.range' (21 + l₁) l₂ ∧
          report.mismatches.map (·.expected) = List.replicate l₂ .warned ∧
          report.mismatches.map (·.actual) =
            (kinds₂.flatMap FragmentKind.unlocks).map fun u => ⟨u, false⟩ := by
  obtain ⟨kinds₁, index, kinds₂, hbounds₁, hbounds₂, rfl⟩ := drawCorpus_eq_some hmax h
  rw [Nat.max_comm] at hbounds₁ hbounds₂
  refine ⟨kinds₁, kinds₂, hbounds₁, hbounds₂, ?_⟩
  intro l₁ l₂ m
  rw [replay_corpus refs maxDraws index _ kinds₂ m]
  exact ⟨rfl, rfl, rfl, rfl, rfl, index_fillerMismatches refs maxDraws _ _,
    expected_fillerMismatches refs maxDraws _ _, actual_fillerMismatches _ _⟩

/-- A bound of zero counts as one: one A chunk as the first filler and one as the second, from a state
    with two failures and four values collected. -/
theorem drawCorpus_replay_boundZero :
    let corpus := (Assembly.ofRuns ((Filler.ofReferences .default 0).run [.A]) 4
      ((Filler.ofReferences .default 0).run [.A])).corpus .default
    (Composer.ofReferences .default 0).drawCorpus (.script [0, 0, 0xffffffff, 0, 0]) =
        some (corpus, .script []) ∧
      ∃ kinds₁ kinds₂ : List FragmentKind, kinds₁.length = 1 ∧ kinds₂.length = 1 ∧
        let (behind, report) :=
          Recognizer.replay References.default ⟨[36, 19, 56, 101], true, 2, false⟩ corpus.flatten
        behind = .fresh ∧ report.unlocks = 2 * kinds₂.count .A ∧ report.finalWarning = false := by
  intro corpus
  have hdraw : (Composer.ofReferences .default 0).drawCorpus (.script [0, 0, 0xffffffff, 0, 0]) =
      some (corpus, .script []) := by rfl
  obtain ⟨kinds₁, kinds₂, hbounds₁, hbounds₂, hreplay⟩ :=
    drawCorpus_replay .default 0 (by decide) _ _ corpus hdraw
  obtain ⟨hbehind, -, -, hunlocks, hwarning, -⟩ := hreplay ⟨[36, 19, 56, 101], true, 2, false⟩
  exact ⟨hdraw, kinds₁, kinds₂, Nat.le_antisymm hbounds₁.2 hbounds₁.1,
    Nat.le_antisymm hbounds₂.2 hbounds₂.1, hbehind, hunlocks, hwarning⟩

end StimulusBench
