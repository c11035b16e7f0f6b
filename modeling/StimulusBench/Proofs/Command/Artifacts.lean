import StimulusBench.Proofs.Command.Action
import StimulusBench.Proofs.Config
import StimulusBench.Proofs.Log.Start
import StimulusBench.Proofs.Readers

/-!
# `StimulusBench.Proofs.Command.Artifacts` — runs that leave the files alone

A run touches the files in two ways only: it starts the log, which then grows, and it hands a corpus to
its sinks. A run that fails before it comes to a sink has at most logged. Every step in front of the
sinks is of this kind whatever its outcome, and so is a chain of such steps; a run whose task has no sink
consists of nothing else. Before the log starts not even that can happen: the configuration is read
first, and one that is refused ends the run with all files as they were.

## Contents
- **Spared files.** `FileTree.Spared`: only the log file and the directories above it may differ.
- **Steps.** `Action.Spares`, for every outcome of a step, and its closure under chains.
- **Tasks.** `Task.input?` and `Task.hasSink`; `spares_perform` for a task without a sink.
- **Configurations.** One that was read is never refused later on.
- **Runs.** Where a run ends, by what fails; `runCommand_spares_artifacts`.
-/

namespace StimulusBench

/-! ## Spared files -/

/-- **Files that are spared by a run** with its log at a path, if it has one: the files have grown at most
    there, and whatever could be read at a path that leads elsewhere is read as before. -/
structure FileTree.Spared [WorkingDirectory] (log : Option String) (files files' : FileTree) : Prop where
  grows : files.GrowsAt log files'
  read : ∀ path text, files.read path = .ok text →
    (∀ p ∈ log, (FilePath.ofText path).destination ≠ (FilePath.ofText p).destination) →
    files'.read path = .ok text

theorem FileTree.GrowsAt.spared [WorkingDirectory] {log : Option String} {files files' : FileTree}
    (h : files.GrowsAt log files') : files.Spared log files' :=
  ⟨h, fun _ _ hread hapart => h.read hapart hread⟩

/-- **A document is there**: the path can be read, and what it holds is a stimulus document. -/
def FileTree.HoldsDocument [WorkingDirectory] (files : FileTree) (path : String) : Prop :=
  ∃ text document, files.read path = .ok text ∧ Document.ofYaml text = .ok document

namespace Command

/-! ## Steps -/

namespace Action

variable [WorkingDirectory] {α β : Type} {log : Option String} {s : Session}

/-- **A step that spares the files**: whatever its outcome, a log at a path stays there, and the files grow
    at that path at most. -/
def Spares (log : Option String) (x : Action α) : Prop :=
  ∀ s : Session, s.LogsAt log → (x.run s).2.LogsAt log ∧ s.files.GrowsAt log (x.run s).2.files

/-- A step that leaves the session as it is. -/
theorem spares_of_run {x : Action α} (h : ∀ s, (x.run s).2 = s) : Spares log x := by
  intro s hs
  rw [h s]
  exact ⟨hs, .refl log s.files⟩

theorem spares_pure (a : α) : Spares log (pure a) := spares_of_run fun _ => rfl

theorem spares_throw (fault : RunFault) : Spares log (throw fault : Action α) :=
  spares_of_run fun _ => rfl

/-- **A chain of two steps** spares the files if both do, however far it comes. -/
theorem Spares.bind {x : Action α} {f : α → Action β} (hx : Spares log x)
    (hf : ∀ a, Spares log (f a)) : Spares log (x >>= f) := by
  intro s hs
  obtain ⟨hlogs, hgrows⟩ := hx s hs
  rw [run_bind]
  split
  -- a fault keeps the session of the step that raised it, so the second step counts behind a value only
  next a s₁ hrun =>
    rw [hrun] at hlogs hgrows
    obtain ⟨hlogs', hgrows'⟩ := hf a s₁ hlogs
    exact ⟨hlogs', hgrows.trans hgrows'⟩
  next hrun =>
    rw [hrun] at hlogs hgrows
    exact ⟨hlogs, hgrows⟩

theorem spares_emit (e : LogEvent) : Spares log (change (·.emit e)) :=
  fun s hs => ⟨hs.of_keeps (Session.keeps_emit s e), hs.growsAt_emit e⟩

theorem spares_print (text : String) : Spares log (change (·.print text)) :=
  fun s hs => ⟨hs, .refl log s.files⟩

theorem spares_require (x : Except Failure α) : Spares log (require x) := by
  cases x with
  | ok a => exact spares_pure a
  | error failure => exact spares_throw _

theorem spares_references (config : Config) : Spares log (references config) := spares_require _

theorem spares_readDocument (input : String) : Spares log (readDocument input) := by
  refine Spares.bind (spares_of_run fun _ => rfl) fun s => ?_
  split
  · exact spares_throw _
  · exact spares_require _

theorem spares_keyStream (surroundings : Surroundings) (seed : Option UInt64) :
    Spares log (keyStream surroundings seed) := by
  cases seed with
  | none => exact spares_pure _
  | some seed => exact Spares.bind (spares_emit _) fun _ => spares_pure _

/-! ## Tasks -/

theorem spares_check (config : Config) (input : String) (format : ReportFormat) (strict : Bool) :
    Spares log (check config input format strict) := by
  refine Spares.bind (spares_references config) fun refs => ?_
  refine Spares.bind (spares_readDocument input) fun document => ?_
  refine Spares.bind (spares_emit _) fun _ => Spares.bind (spares_print _) fun _ => ?_
  split
  · exact Spares.bind (spares_emit _) fun _ => spares_pure _
  · exact spares_pure _

theorem spares_printMutants (refs : References) (encoded : Bool) (count : Nat) (stream : KeyStream) :
    Spares log (printMutants refs encoded count stream) := by
  induction count generalizing stream with
  | zero => exact spares_pure ()
  | succ count ih =>
      -- the line that is printed is no file, so the step spares what its event spares
      exact Spares.bind (fun s hs => spares_emit _ s hs) fun _ => ih _

theorem spares_mutate (surroundings : Surroundings) (config : Config) (count : Nat) (seed : Option Nat)
    (encoded : Bool) : Spares log (mutate surroundings config count seed encoded) := by
  refine Spares.bind (spares_references config) fun refs => ?_
  refine Spares.bind (spares_keyStream surroundings _) fun stream => ?_
  exact Spares.bind (spares_printMutants refs encoded count stream) fun _ => spares_pure _

theorem spares_renderTestbench (input : String) (bench : Testbench) :
    Spares log (renderTestbench input none bench) :=
  Spares.bind (spares_readDocument input) fun _ =>
    Spares.bind (spares_print _) fun _ => spares_pure _

end Action

/-- The document that a task reads. -/
def Task.input? : Task → Option String
  | .testbench input _ _ => some input
  | .check input _ _ => some input
  | _ => none

/-- Whether a task has a sink to write to. -/
def Task.hasSink : Task → Bool
  | .generate .. => true
  | .testbench _ output _ => output.isSome
  | .check .. => false
  | .mutate .. => false

namespace Action

variable [WorkingDirectory] {log : Option String} {s : Session}

/-- **A task without a sink** spares the files. -/
theorem spares_perform (surroundings : Surroundings) (config : Config) {task : Task}
    (h : task.hasSink = false) : Spares log (perform surroundings config task) := by
  cases task with
  | generate output seed testbench quiet => cases h
  | testbench input output bench =>
      cases output with
      | none => exact spares_renderTestbench input bench
      | some path => cases h
  | check input format strict => exact spares_check config input format strict
  | mutate count seed encoded => exact spares_mutate surroundings config count seed encoded

/-- A document that is not there ends the step that reads it. -/
theorem run_readDocument_of_not_holds {input : String} (h : ¬ s.files.HoldsDocument input) :
    ∃ fault, (readDocument input).run s = (.error fault, s) := by
  rw [readDocument, run_bind, run_get]
  dsimp only
  cases hread : s.files.read input with
  | error cause => exact ⟨_, rfl⟩
  | ok text =>
      cases hdocument : Document.ofYaml text with
      | error fault =>
          refine ⟨.failed none (.stimulus (.document fault)), ?_⟩
          dsimp only
          rw [hdocument]
          rfl
      | ok document => exact absurd ⟨text, document, hread, hdocument⟩ h

/-- **A task whose document is not there** ends before it comes to anything else. -/
theorem run_perform_of_not_holds (surroundings : Surroundings) {config : Config} {task : Task}
    {refs : References} {input : String} (hrefs : config.references = .ok refs)
    (hinput : task.input? = some input) (h : ¬ s.files.HoldsDocument input) :
    ∃ fault, (perform surroundings config task).run s = (.error fault, s) := by
  obtain ⟨fault, hfault⟩ := run_readDocument_of_not_holds h
  cases task with
  | testbench input' output bench =>
      cases hinput
      refine ⟨fault, ?_⟩
      rw [perform, renderTestbench, run_bind, hfault]
  | check input' format strict =>
      cases hinput
      refine ⟨fault, ?_⟩
      rw [perform, check, run_bind, ends_references_iff.mpr ⟨hrefs, rfl⟩]
      dsimp only
      rw [run_bind, hfault]
  | generate output seed testbench quiet => cases hinput
  | mutate count seed encoded => cases hinput

/-! ## Configurations -/

/-- **The configuration of a run is never refused later on**: it has a reference pair. -/
theorem exists_references_of_configuration {files : FileTree} {path : Option String} {config : Config}
    (h : configuration files path = .ok config) : ∃ refs, config.references = .ok refs := by
  cases path with
  | none =>
      cases h
      exact ⟨_, rfl⟩
  | some path =>
      obtain ⟨text, -, htoml⟩ := bind_eq_ok_iff.mp h
      obtain ⟨entries, -, -, hvalidated⟩ := Config.ofToml_eq_ok_iff.mp htoml
      obtain ⟨refs, hrefs, -⟩ := (Config.usable_of_validated hvalidated).pair
      exact ⟨refs, hrefs⟩

/-! ## Runs -/

variable [FilterDialect] {surroundings : Surroundings} {invocation : Invocation}

/-- A configuration that is refused ends a run before anything else happens. -/
theorem run_invoke_of_config_error (s : Session) {fault : ConfigFault}
    (h : configuration s.files invocation.config = .error fault) :
    (invoke surroundings invocation).run s = (.error (.failed none (.config fault)), s) := by
  rw [invoke, run_bind, run_loadConfig, h]
  rfl

/-- A log that is not started ends a run with what the attempt left behind. -/
theorem run_invoke_of_log_error (s : Session) {config : Config} {fault : LogFault}
    (hconfig : configuration s.files invocation.config = .ok config)
    (hstart : (s.startLog surroundings.logFilter (logSetting invocation config)).2 = .error fault) :
    (invoke surroundings invocation).run s =
      (.error (.logging fault), (s.startLog surroundings.logFilter (logSetting invocation config)).1) := by
  rw [invoke, run_bind, run_loadConfig, hconfig]
  show (startLog surroundings (logSetting invocation config) >>= _).run s = _
  rw [run_bind, run_startLog, hstart]
  rfl

/-- **A run that has started its log** goes on with its task. -/
theorem run_invoke_of_started (s : Session) {config : Config}
    (hconfig : configuration s.files invocation.config = .ok config)
    (hstart : (s.startLog surroundings.logFilter (logSetting invocation config)).2 = .ok ()) :
    (invoke surroundings invocation).run s = (perform surroundings config invocation.task).run
      (s.startLog surroundings.logFilter (logSetting invocation config)).1 := by
  rw [invoke, run_bind, run_loadConfig, hconfig]
  show (startLog surroundings (logSetting invocation config) >>= _).run s = _
  rw [run_bind, run_startLog, hstart]
  rfl

end Action

open Command.Action

section

variable [WorkingDirectory] [FilterDialect]
variable {surroundings : Surroundings} {arguments : List String} {invocation : Invocation}
  {s s' : Session}

/-- A fault ends a run in failure, and the error stream says so. -/
theorem runCommand_of_error {fault : RunFault}
    (hinvocation : Invocation.ofArguments surroundings.configPath arguments = .ok invocation)
    (h : (invoke surroundings invocation).run s = (.error fault, s')) :
    runCommand surroundings arguments s = (s'.complain fault.report, .failure) := by
  rw [runCommand, hinvocation]
  dsimp only
  rw [h]

/-- **A fault ends a run in failure**, with the files as they were when the fault arose. -/
theorem runCommand_of_fault {fault : RunFault}
    (hinvocation : Invocation.ofArguments surroundings.configPath arguments = .ok invocation)
    (h : (invoke surroundings invocation).run s = (.error fault, s')) :
    (runCommand surroundings arguments s).2.code = 1 ∧
      (runCommand surroundings arguments s).1.files = s'.files := by
  rw [runCommand_of_error hinvocation h]
  exact ⟨rfl, rfl⟩

/-- The files behind a run are those that its last step left. -/
theorem files_runCommand
    (hinvocation : Invocation.ofArguments surroundings.configPath arguments = .ok invocation) :
    (runCommand surroundings arguments s).1.files =
      ((invoke surroundings invocation).run s).2.files := by
  rw [runCommand, hinvocation]
  dsimp only
  split
  next h => rw [h]
  next h =>
    rw [h]
    rfl

/-- **A run that fails before its sinks spares the files.** If the configuration is refused, nothing at
    all is made or changed. Behind it, if the log cannot be started or the document that the task reads is
    missing or malformed, the run fails too, and the files are spared but for the log; so they are by
    every run whose task has no sink, whatever its outcome. -/
theorem runCommand_spares_artifacts
    (hinvocation : Invocation.ofArguments surroundings.configPath arguments = .ok invocation)
    (files : FileTree) (time : String) :
    let start := Session.start files time
    let run := runCommand surroundings arguments start
    (∀ fault, configuration files invocation.config = .error fault →
      run.2.code = 1 ∧ run.1.files = files) ∧
    ∀ config, configuration files invocation.config = .ok config →
      let setting := logSetting invocation config
      let started := start.startLog surroundings.logFilter setting
      (∃ refs, config.references = .ok refs) ∧
      (∀ fault, started.2 = .error fault →
        run.2.code = 1 ∧ files.Spared setting.file run.1.files) ∧
      (∀ input, invocation.task.input? = some input → started.2 = .ok () →
        ¬ started.1.files.HoldsDocument input →
        run.2.code = 1 ∧ files.Spared setting.file run.1.files) ∧
      (invocation.task.hasSink = false → files.Spared setting.file run.1.files) := by
  intro start run
  refine ⟨fun fault hconfig => ?_, fun config hconfig => ?_⟩
  · exact runCommand_of_fault hinvocation (run_invoke_of_config_error start hconfig)
  · intro setting started
    obtain ⟨hgrows, hlogs⟩ : files.GrowsAt setting.file started.1.files ∧ started.1.LogsAt setting.file :=
      Session.startLog_grows (s := start) surroundings.logFilter setting rfl
    obtain ⟨refs, hrefs⟩ := exists_references_of_configuration hconfig
    -- starting the log has made the files grow at its path, and no fault behind that touches them
    have hrefused : ∀ fault, started.2 = .error fault →
        run.2.code = 1 ∧ files.Spared setting.file run.1.files := by
      intro fault hfault
      have hinvoke : (invoke surroundings invocation).run start = (.error (.logging fault), started.1) :=
        run_invoke_of_log_error start hconfig hfault
      obtain ⟨hcode, hfiles⟩ := runCommand_of_fault hinvocation hinvoke
      rw [← hfiles] at hgrows
      exact ⟨hcode, hgrows.spared⟩
    refine ⟨⟨refs, hrefs⟩, hrefused, fun input hinput hok habsent => ?_, fun hsink => ?_⟩
    · obtain ⟨fault, hfault⟩ := run_perform_of_not_holds surroundings hrefs hinput habsent
      have hinvoke : (invoke surroundings invocation).run start = (.error fault, started.1) :=
        (run_invoke_of_started start hconfig hok).trans hfault
      obtain ⟨hcode, hfiles⟩ := runCommand_of_fault hinvocation hinvoke
      rw [← hfiles] at hgrows
      exact ⟨hcode, hgrows.spared⟩
    · cases hresult : started.2 with
      | error fault => exact (hrefused fault hresult).2
      | ok _ =>
          have hinvoke : (invoke surroundings invocation).run start =
              (perform surroundings config invocation.task).run started.1 :=
            run_invoke_of_started start hconfig hresult
          have hfiles : run.1.files = _ := files_runCommand hinvocation
          rw [hfiles, hinvoke]
          exact (hgrows.trans (spares_perform surroundings config hsink started.1 hlogs).2).spared

end

/-- A document that is cut off: the testbench of before and the document itself stay as they are, while
    the log is begun. -/
theorem runCommand_spares_artifacts_cutOff :
    let files := (FileTree.empty.set (Place.working.child "bad.yaml") (.file "- [0, 165")).set
      (Place.working.child "out.vhd") (.file "old")
    let run := runCommand ⟨none, none, .replicate 8 0⟩ ["--log-file", "run.log", "testbench",
      "-i", "bad.yaml", "-o", "out.vhd"] (.start files "now")
    run.2.code = 1 ∧ run.1.files.read "out.vhd" = .ok "old" ∧
      run.1.files.read "bad.yaml" = .ok "- [0, 165" := by
  intro files
  dsimp only
  have hinvocation : Invocation.ofArguments (⟨none, none, .replicate 8 0⟩ : Surroundings).configPath
      ["--log-file", "run.log", "testbench", "-i", "bad.yaml", "-o", "out.vhd"] =
        .ok ⟨none, none, none, some "run.log", .testbench "bad.yaml" (some "out.vhd") .default⟩ := rfl
  have hcutOff : ∀ document, Document.ofYaml "- [0, 165" ≠ .ok document :=
    Document.ofYaml_ne_ok (by decide +kernel)
  obtain ⟨-, hgiven⟩ := runCommand_spares_artifacts hinvocation files "now"
  obtain ⟨-, -, hdocument, -⟩ := hgiven .default rfl
  obtain ⟨hcode, hspared⟩ := hdocument "bad.yaml" rfl (eq_ok_of_toOption (by decide +kernel)) (by
    rintro ⟨text, document, hread, hyaml⟩
    cases hread.symm.trans (eq_ok_of_toOption (a := "- [0, 165") (by decide +kernel))
    exact hcutOff document hyaml)
  have hold : files.read "out.vhd" = .ok "old" := eq_ok_of_toOption (by decide +kernel)
  have hcut : files.read "bad.yaml" = .ok "- [0, 165" := eq_ok_of_toOption (by decide +kernel)
  refine ⟨hcode, hspared.read "out.vhd" _ hold ?_, hspared.read "bad.yaml" _ hcut ?_⟩
  · rintro p ⟨⟩
    decide
  · rintro p ⟨⟩
    decide

end Command

end StimulusBench
