import StimulusBench.Proofs.Command.Action
import StimulusBench.Proofs.FileTree.Writing

/-!
# `StimulusBench.Proofs.Sink` — what sinks leave behind

A sink that succeeds has replaced one file and made the directories above it; one that fails has made some
of these directories at most. In a chain each sink finds the files as those before it left them, so that an
earlier one can be in the way of a later one. The chain ends at the first that fails, and what was done up
to there stays.

## Contents
- **Links.** The first sink of a chain.
- **One sink.** What it replaces and what it leaves: `Sink.persist_replaces_or_leaves`.
- **Chains.** `filesBehind`, `SucceedsAt` and `FailsFirst`; a chain is run up to its first failure.
- **Runs.** The chain of a run that logs to no file is the same chain.
-/

namespace StimulusBench

variable {corpus : Corpus} {files : FileTree} {sink : Sink} {sinks : List Sink} {i : Nat}
  {fault : OsFault}

/-! ## Links -/

section

variable [WorkingDirectory]

/-- A chain runs its first sink, and the others on what that one left. -/
theorem persistAll_cons (corpus : Corpus) (sink : Sink) (sinks : List Sink) (files : FileTree) :
    persistAll corpus (sink :: sinks) files =
      match sink.persist corpus files with
      | (files, .ok ()) => persistAll corpus sinks files
      | (files, .error fault) => (files, .error fault) := by
  rfl

theorem persistAll_cons_of_ok (h : (sink.persist corpus files).2 = .ok ()) (sinks : List Sink) :
    persistAll corpus (sink :: sinks) files = persistAll corpus sinks (sink.persist corpus files).1 := by
  rw [persistAll_cons]
  split
  next persisted hok => rw [hok]
  next persisted fault hfails => cases h.symm.trans (congrArg Prod.snd hfails)

theorem persistAll_cons_of_error (h : (sink.persist corpus files).2 = .error fault) (sinks : List Sink) :
    persistAll corpus (sink :: sinks) files = ((sink.persist corpus files).1, .error fault) := by
  rw [persistAll_cons]
  split
  next persisted hok => cases h.symm.trans (congrArg Prod.snd hok)
  next persisted fault' hfails =>
    rw [hfails] at h ⊢
    cases h
    rfl

/-! ## One sink -/

/-- **A sink** whose path admits a file replaces what is there by the corpus in its form, with the missing
    directories above it. Any other sink fails, and makes some of these directories at most. Either way
    everything else stays as it was, and the sink can be run again without any further effect. -/
theorem Sink.persist_replaces_or_leaves (sink : Sink) (corpus : Corpus) (files : FileTree) :
    let path := FilePath.ofText sink.path
    let text := match sink.form with
      | .yaml => corpus.yaml
      | .testbench bench => bench.render corpus.flatten
    let run := sink.persist corpus files
    (run.2 = .ok () ↔ files.Admits path) ∧
    (run.2 = .ok () →
      run.1.read sink.path = .ok text ∧ run.1.get? path.destination = some (.file text) ∧
      (∀ q ∈ path.parentPlaces, run.1.get? q = some .directory) ∧
      ∀ q, q ≠ path.destination → files.SameOrMade run.1 path q) ∧
    (run.2 ≠ .ok () → ∀ q, files.SameOrMade run.1 path q) ∧
    (sink.persist corpus run.1).1 = run.1 ∧
    ((sink.persist corpus run.1).2 = .ok () ↔ run.2 = .ok ()) ∧
    persistAll corpus [sink, sink] files = run := by
  intro path text run
  have hagain := FileTree.write_again files sink.path text
  refine ⟨FileTree.write_eq_ok_iff, fun hok => ?_, fun hfails q => ?_, hagain.1, hagain.2, ?_⟩
  · obtain ⟨hfile, hread⟩ :=
      FileTree.write_eq_ok (Prod.ext rfl hok : files.write sink.path text = (run.1, .ok ()))
    refine ⟨hread, hfile, ?_, fun q hq => FileTree.sameOrMade_write fun _ => hq⟩
    exact FileTree.get?_of_write hok
  · exact FileTree.sameOrMade_write fun hok => absurd hok hfails
  · cases hrun : run.2 with
    | ok u =>
        have htwice : (sink.persist corpus run.1).2 = .ok () := hagain.2.mpr hrun
        rw [persistAll_cons_of_ok hrun, persistAll_cons_of_ok htwice]
        exact Prod.ext hagain.1 hrun.symm
    | error fault =>
        rw [persistAll_cons_of_error hrun, ← hrun]

/-! ## Chains -/

/-- The files behind sinks that are all run, whatever becomes of each. -/
def filesBehind (corpus : Corpus) (sinks : List Sink) (files : FileTree) : FileTree :=
  sinks.foldl (fun files sink => (sink.persist corpus files).1) files

/-- **The sink at a position succeeds** on the files behind those before it, if there is one. -/
def SucceedsAt (corpus : Corpus) (sinks : List Sink) (files : FileTree) (i : Nat) : Prop :=
  ∀ sink ∈ sinks[i]?, (sink.persist corpus (filesBehind corpus (sinks.take i) files)).2 = .ok ()

/-- **The sink at a position is the first to fail**, on the files behind those before it. -/
structure FailsFirst (corpus : Corpus) (sinks : List Sink) (files : FileTree) (i : Nat) (fault : OsFault) :
    Prop where
  fails : ∃ sink ∈ sinks[i]?,
    (sink.persist corpus (filesBehind corpus (sinks.take i) files)).2 = .error fault
  before : ∀ j < i, SucceedsAt corpus sinks files j

/-- A chain whose sinks all succeed runs all of them. -/
theorem persistAll_of_succeedsAt (h : ∀ i, SucceedsAt corpus sinks files i) :
    persistAll corpus sinks files = (filesBehind corpus sinks files, .ok ()) := by
  induction sinks generalizing files with
  | nil => rfl
  | cons sink rest ih =>
      have hfirst : (sink.persist corpus files).2 = .ok () := h 0 sink rfl
      rw [persistAll_cons_of_ok hfirst, ih fun j => h (j + 1)]
      rfl

/-- A chain with a first failure runs the sinks up to it. -/
theorem persistAll_of_failsFirst (h : FailsFirst corpus sinks files i fault) :
    persistAll corpus sinks files = (filesBehind corpus (sinks.take (i + 1)) files, .error fault) := by
  induction sinks generalizing files i with
  | nil =>
      obtain ⟨_, hnone, -⟩ := h.fails
      cases hnone
  | cons sink rest ih =>
      cases i with
      | zero =>
          obtain ⟨_, ⟨⟩, hfails⟩ := h.fails
          exact persistAll_cons_of_error hfails rest
      | succ i =>
          have hfirst : (sink.persist corpus files).2 = .ok () := h.before 0 (Nat.succ_pos i) sink rfl
          have hrest : FailsFirst corpus rest (sink.persist corpus files).1 i fault :=
            ⟨h.fails, fun j hj => h.before (j + 1) (Nat.succ_lt_succ hj)⟩
          rw [persistAll_cons_of_ok hfirst, ih hrest]
          rfl

/-- Either all sinks of a chain succeed, or one is the first to fail. -/
theorem succeedsAt_or_failsFirst (corpus : Corpus) (sinks : List Sink) (files : FileTree) :
    (∀ i, SucceedsAt corpus sinks files i) ∨ ∃ i fault, FailsFirst corpus sinks files i fault := by
  induction sinks generalizing files with
  | nil => exact .inl fun _ _ hnone => nomatch hnone
  | cons sink rest ih =>
      cases hfirst : (sink.persist corpus files).2 with
      | error fault => exact .inr ⟨0, fault, ⟨sink, rfl, hfirst⟩, fun _ hj => nomatch hj⟩
      | ok u =>
          -- a position behind the first sink is one of the rest, on the files that the first one left
          have hcons : ∀ j, (∀ k < j, SucceedsAt corpus rest (sink.persist corpus files).1 k) →
              ∀ k < j + 1, SucceedsAt corpus (sink :: rest) files k := by
            rintro j hrest (_ | k) hk
            · rintro _ ⟨⟩
              exact hfirst
            · exact hrest k (Nat.lt_of_succ_lt_succ hk)
          rcases ih (sink.persist corpus files).1 with hall | ⟨i, fault, hfails, hbefore⟩
          · exact .inl fun j => hcons j (fun k _ => hall k) j (Nat.lt_succ_self j)
          · exact .inr ⟨i + 1, fault, hfails, hcons i hbefore⟩

/-- **A chain succeeds** exactly if each of its sinks does on the files behind those before it. -/
theorem persistAll_eq_ok_iff :
    (persistAll corpus sinks files).2 = .ok () ↔ ∀ i, SucceedsAt corpus sinks files i := by
  refine ⟨fun hok => ?_, fun hall => by rw [persistAll_of_succeedsAt hall]⟩
  rcases succeedsAt_or_failsFirst corpus sinks files with hall | ⟨i, fault, hfails⟩
  · exact hall
  · rw [persistAll_of_failsFirst hfails] at hok
    cases hok

/-- **A chain fails** exactly with the fault of the first of its sinks to fail. -/
theorem persistAll_eq_error_iff :
    (persistAll corpus sinks files).2 = .error fault ↔ ∃ i, FailsFirst corpus sinks files i fault := by
  refine ⟨fun herror => ?_, fun ⟨i, hfails⟩ => by rw [persistAll_of_failsFirst hfails]⟩
  rcases succeedsAt_or_failsFirst corpus sinks files with hall | ⟨i, fault', hfails⟩
  · rw [persistAll_of_succeedsAt hall] at herror
    cases herror
  · rw [persistAll_of_failsFirst hfails] at herror
    cases herror
    exact ⟨i, hfails⟩

/-- **A chain in front of another one** runs first, and the other one only if it succeeds. -/
theorem persistAll_append (corpus : Corpus) (sinks more : List Sink) (files : FileTree) :
    persistAll corpus (sinks ++ more) files =
      match persistAll corpus sinks files with
      | (files, .ok ()) => persistAll corpus more files
      | (files, .error fault) => (files, .error fault) := by
  induction sinks generalizing files with
  | nil => rfl
  | cons sink rest ih =>
      rw [List.cons_append]
      cases hfirst : (sink.persist corpus files).2 with
      | ok u => rw [persistAll_cons_of_ok hfirst, persistAll_cons_of_ok hfirst, ih]
      | error fault => rw [persistAll_cons_of_error hfirst, persistAll_cons_of_error hfirst]

/-- Sinks that succeed in front of others succeed alone. -/
theorem SucceedsAt.take {j : Nat} (h : SucceedsAt corpus sinks files j) :
    SucceedsAt corpus (sinks.take i) files j := by
  intro sink hsink
  rw [Option.mem_def, List.getElem?_take] at hsink
  split at hsink
  next hj =>
    rw [List.take_take, Nat.min_eq_left (Nat.le_of_lt hj)]
    exact h sink hsink
  next => cases hsink

/-- A chain cut behind its first failure fails there too. -/
theorem FailsFirst.take (h : FailsFirst corpus sinks files i fault) :
    FailsFirst corpus (sinks.take (i + 1)) files i fault := by
  obtain ⟨sink, hsink, hfails⟩ := h.fails
  refine ⟨⟨sink, ?_, ?_⟩, fun j hj => (h.before j hj).take⟩
  · rw [Option.mem_def, List.getElem?_take_of_lt (Nat.lt_succ_self i)]
    exact hsink
  · rw [List.take_take, Nat.min_eq_left (Nat.le_succ i)]
    exact hfails

/-- Up to its first failure a chain succeeds. -/
theorem FailsFirst.persistAll_take (h : FailsFirst corpus sinks files i fault) :
    persistAll corpus (sinks.take i) files = (filesBehind corpus (sinks.take i) files, .ok ()) := by
  refine persistAll_of_succeedsAt fun j => ?_
  by_cases hj : j < i
  · exact (h.before j hj).take
  · intro sink hsink
    rw [Option.mem_def, List.getElem?_take_eq_none (Nat.le_of_not_lt hj)] at hsink
    cases hsink

/-- The sink that fails first makes some of the directories above its path at most. -/
theorem FailsFirst.sameOrMade (h : FailsFirst corpus sinks files i fault) (hsink : sink ∈ sinks[i]?)
    (q : Place) :
    (filesBehind corpus (sinks.take i) files).SameOrMade (filesBehind corpus (sinks.take (i + 1)) files)
      (.ofText sink.path) q := by
  obtain ⟨_, hsink', hfails⟩ := h.fails
  cases (hsink'.symm.trans hsink)
  have hlast : filesBehind corpus (sinks.take (i + 1)) files =
      (sink.persist corpus (filesBehind corpus (sinks.take i) files)).1 := by
    rw [List.take_add_one, hsink, filesBehind, List.foldl_append]
    rfl
  rw [hlast]
  exact FileTree.sameOrMade_write fun hok => nomatch hfails.symm.trans hok

/-- **A chain runs a prefix of its sinks**: all of them, each on the files behind those before it, if each
    succeeds there; otherwise those up to the first that fails, with its fault. Then what those before it
    did is kept, the failing one has made directories above its path at most, and whatever sinks come behind
    it do not matter. -/
theorem persistAll_runs_prefix (corpus : Corpus) (sinks : List Sink) (files : FileTree) :
    let run := persistAll corpus sinks files
    (run.2 = .ok () ↔ ∀ i, SucceedsAt corpus sinks files i) ∧
    (run.2 = .ok () → run.1 = filesBehind corpus sinks files) ∧
    (∀ fault, run.2 = .error fault ↔ ∃ i, FailsFirst corpus sinks files i fault) ∧
    (∀ i fault, FailsFirst corpus sinks files i fault →
      run = (filesBehind corpus (sinks.take (i + 1)) files, .error fault) ∧
      persistAll corpus (sinks.take i) files = (filesBehind corpus (sinks.take i) files, .ok ()) ∧
      (∀ sink ∈ sinks[i]?, ∀ q,
        (filesBehind corpus (sinks.take i) files).SameOrMade run.1 (.ofText sink.path) q) ∧
      ∀ rest, persistAll corpus (sinks.take (i + 1) ++ rest) files = run) ∧
    ∀ more, run.2 = .ok () → persistAll corpus (sinks ++ more) files = persistAll corpus more run.1 := by
  intro run
  refine ⟨persistAll_eq_ok_iff, fun hok => ?_, fun fault => persistAll_eq_error_iff, ?_, ?_⟩
  · exact congrArg Prod.fst (persistAll_of_succeedsAt (persistAll_eq_ok_iff.mp hok))
  · intro i fault hfails
    have hrun : run = (filesBehind corpus (sinks.take (i + 1)) files, .error fault) :=
      persistAll_of_failsFirst hfails
    refine ⟨hrun, hfails.persistAll_take, fun sink hsink q => ?_, fun rest => ?_⟩
    · rw [hrun]
      exact hfails.sameOrMade hsink q
    · rw [persistAll_append, persistAll_of_failsFirst hfails.take, List.take_take, Nat.min_self, hrun]
  · intro more hok
    rw [persistAll_append, show persistAll corpus sinks files = (run.1, .ok ()) from Prod.ext rfl hok]

end

/-- A file in the way of a later sink stays, and the sinks behind that one are not run. -/
example :
    persistAll ⟨[]⟩ [⟨"out", .yaml⟩, ⟨"out/b.vhd", .testbench .default⟩, ⟨"last", .yaml⟩] .empty =
      (⟨[(Place.working.child "out", .file "[]\n")]⟩, .error .exists) := rfl

/-! ## Runs -/

variable [WorkingDirectory]

/-- An event that is logged to no file leaves the files as they are. -/
theorem Session.emit_files_of_fileless {s : Session} (hlog : ∀ logger ∈ s.logger, logger.file = none)
    (e : LogEvent) : (s.emit e).files = s.files := by
  rw [Session.emit]
  split
  next => rfl
  next logger hlogger =>
    split
    next =>
      rw [Session.logLine]
      dsimp only
      rw [hlog logger hlogger]
    next => rfl

namespace Command.Action

/-- **The sinks of a run** that logs to no file are a chain: they leave the same files, and the run goes on
    or ends as the chain does. -/
theorem run_forM_persist (sinks : List Sink) (s : Session)
    (hlog : ∀ logger ∈ s.logger, logger.file = none) :
    let run := (sinks.forM (persist corpus)).run s
    let chain := persistAll corpus sinks s.files
    run.1 = chain.2.mapError (fun cause => .failed none (.io cause)) ∧ run.2.files = chain.1 := by
  induction sinks generalizing s with
  | nil => exact ⟨rfl, rfl⟩
  | cons sink rest ih =>
      dsimp only at ih ⊢
      show ((persist corpus sink >>= fun _ => rest.forM (persist corpus)).run s).1 = _ ∧
        ((persist corpus sink >>= fun _ => rest.forM (persist corpus)).run s).2.files = _
      rw [run_bind, run_persist, persistAll_cons]
      cases sink.persist corpus s.files with
      | mk files result =>
          cases result with
          | error cause => exact ⟨rfl, rfl⟩
          | ok u =>
              -- the event of the sink changes no file, so that the rest finds what the chain finds
              have hkept := Session.keeps_emit { s with files } (sink.event corpus)
              have hfiles := Session.emit_files_of_fileless (s := { s with files }) hlog (sink.event corpus)
              have hrest := ih _ (hkept.logger ▸ hlog)
              rw [hfiles] at hrest
              exact hrest

end Command.Action

end StimulusBench
