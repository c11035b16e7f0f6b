import StimulusBench.Proofs.Command.Action
import StimulusBench.Proofs.Generated
import StimulusBench.Proofs.TestbenchText

/-!
# `StimulusBench.Proofs.Command.Generate` — what a generating run leaves behind

A run that generates prints the corpus it drew, then hands it to the sinks one after the other and logs
what it did. A sink changes the file that its path leads to and no other, and what is logged is appended
to the log file. So behind the run the file at the output path starts with the printed corpus, unless a
testbench was written over it, and goes on with what was logged there since.

## Contents
- **Sinks.** What a sink leaves at a place, and what a chain of sinks leaves there.
- **Runs.** `ends_generate`; what a run leaves at its output path.
- **Printed corpora.** When the printed corpus is read from the output path.
-/

namespace StimulusBench

/-! ## Sinks -/

/-- Where the file of a sink is. -/
def Sink.destination [WorkingDirectory] (sink : Sink) : Place := (FilePath.ofText sink.path).destination

theorem Sink.contents_yaml (path : String) (corpus : Corpus) :
    Sink.contents ⟨path, .yaml⟩ corpus = corpus.yaml := rfl

theorem Sink.contents_testbench (path : String) (bench : Testbench) (corpus : Corpus) :
    Sink.contents ⟨path, .testbench bench⟩ corpus = bench.render corpus.flatten := rfl

theorem Sink.changes_of_persist [WorkingDirectory] {sink : Sink} {corpus : Corpus} {files files' : FileTree}
    (h : sink.persist corpus files = (files', .ok ())) :
    FileTree.Changes (· = sink.destination) files files' := by
  have hchanges := FileTree.changes_write files sink.path (sink.contents corpus)
  rwa [show files.write sink.path (sink.contents corpus) = _ from h] at hchanges

namespace Command.Action

variable [WorkingDirectory]
variable {s s' : Session} {corpus : Corpus} {sink : Sink} {place : Place} {text : String} {u : Unit}

/-- **A sink leaves alone** the output stream, the log, and directories. -/
theorem keeps_of_ends_persist (h : Ends (persist corpus sink) s u s') :
    s.Keeps s' ∧ s.files.KeepsDirectories s'.files := by
  obtain ⟨files, hwrite, rfl⟩ := ends_persist_iff.mp h
  refine ⟨(Session.keeps_files s files).trans (Session.keeps_emit _ _), fun q hq => ?_⟩
  exact (Session.changes_emit _ _).directories q ((Sink.changes_of_persist hwrite).directories q hq)

/-- **At its own place** a sink leaves what it writes, and behind it what is logged there about that. -/
theorem get?_of_ends_persist (h : Ends (persist corpus sink) s u s') :
    s'.files.get? sink.destination =
      some (.file (sink.contents corpus ++ s.logged sink.destination (sink.event corpus))) := by
  obtain ⟨files, hwrite, rfl⟩ := ends_persist_iff.mp h
  rw [← (Session.keeps_files s files).logged_eq]
  exact Session.get?_emit (FileTree.write_eq_ok hwrite).1 _

/-- **At any other place** a file only grows, by what is logged there. -/
theorem get?_of_ends_persist_of_ne (h : Ends (persist corpus sink) s u s')
    (hne : sink.destination ≠ place) (hfile : s.files.get? place = some (.file text)) :
    s'.files.get? place = some (.file (text ++ s.logged place (sink.event corpus))) := by
  obtain ⟨files, hwrite, rfl⟩ := ends_persist_iff.mp h
  rw [← (Session.keeps_files s files).logged_eq]
  exact Session.get?_emit ((Sink.changes_of_persist hwrite).file (fun heq => hne heq.symm) hfile) _

/-- **The path of a sink** can be read ever after, as what then stands at its place. -/
theorem read_of_ends_persist (h : Ends (persist corpus sink) s u s') {files : FileTree}
    (hkept : s'.files.KeepsDirectories files)
    (hfile : files.get? sink.destination = some (.file text)) : files.read sink.path = .ok text := by
  obtain ⟨written, hwrite, rfl⟩ := ends_persist_iff.mp h
  refine FileTree.read_of_directories (fun q hq => hkept q ?_) (FileTree.write_eq_ok hwrite).2 hfile
  exact (Session.changes_emit _ _).directories q hq

/-- **A chain of sinks** leaves alone what a sink leaves alone. -/
theorem keeps_of_ends_forM_persist {sinks : List Sink} (h : Ends (sinks.forM (persist corpus)) s u s') :
    s.Keeps s' ∧ s.files.KeepsDirectories s'.files := by
  induction sinks generalizing s with
  | nil =>
      rw [(ends_pure_iff.mp h).2]
      exact ⟨.refl s, fun _ hq => hq⟩
  | cons sink rest ih =>
      obtain ⟨s₁, hfirst, hrest⟩ := ends_forM_cons_iff.mp h
      obtain ⟨hkept₁, hdirectories₁⟩ := keeps_of_ends_persist hfirst
      obtain ⟨hkept₂, hdirectories₂⟩ := ih hrest
      exact ⟨hkept₁.trans hkept₂, fun q hq => hdirectories₂ q (hdirectories₁ q hq)⟩

/-- **Away from all its sinks** a chain lets a file only grow, by what is logged there. -/
theorem get?_of_ends_forM_persist {sinks : List Sink} (h : Ends (sinks.forM (persist corpus)) s u s')
    (hne : ∀ sink ∈ sinks, sink.destination ≠ place) (hfile : s.files.get? place = some (.file text)) :
    s'.files.get? place =
      some (.file (text ++ s.loggedAll place (sinks.map (·.event corpus)))) := by
  induction sinks generalizing s text with
  | nil =>
      rw [(ends_pure_iff.mp h).2, List.map_nil, Session.loggedAll, String.append_empty]
      exact hfile
  | cons sink rest ih =>
      obtain ⟨s₁, hfirst, hrest⟩ := ends_forM_cons_iff.mp h
      have hfile₁ := get?_of_ends_persist_of_ne hfirst (hne sink List.mem_cons_self) hfile
      rw [ih hrest (fun x hx => hne x (List.mem_cons_of_mem _ hx)) hfile₁,
        (keeps_of_ends_persist hfirst).1.loggedAll_eq, List.map_cons, Session.loggedAll,
        String.append_assoc]

/-- **At the place of its first sink** a chain leaves what that writes, if the others write elsewhere. -/
theorem get?_of_ends_forM_persist_cons {rest : List Sink}
    (h : Ends ((sink :: rest).forM (persist corpus)) s u s')
    (hne : ∀ other ∈ rest, other.destination ≠ sink.destination) :
    s'.files.get? sink.destination = some (.file
      (sink.contents corpus ++ s.loggedAll sink.destination ((sink :: rest).map (·.event corpus)))) := by
  obtain ⟨s₁, hfirst, hrest⟩ := ends_forM_cons_iff.mp h
  rw [get?_of_ends_forM_persist hrest hne (get?_of_ends_persist hfirst),
    (keeps_of_ends_persist hfirst).1.loggedAll_eq, List.map_cons, Session.loggedAll, String.append_assoc]

/-! ## Runs -/

/-- The sinks of a generating run. -/
def generateSinks (path : String) (testbench : Option String) : List Sink :=
  ⟨path, .yaml⟩ :: (testbench.map (⟨·, .testbench .default⟩)).toList

/-- The last event of a generating run. -/
def generatedEvent (path : String) (corpus : Corpus) (sinks : List Sink) : LogEvent :=
  ⟨.info, "seqvec", "generated corpus",
    [("path", .text path), ("records", .number corpus.flatten.length), ("sinks", .number sinks.length)]⟩

/-- What a generating run logs once it writes: an event behind each sink, and the last one. -/
def generateEvents (path : String) (testbench : Option String) (corpus : Corpus) : List LogEvent :=
  let sinks := generateSinks path testbench
  sinks.map (·.event corpus) ++ [generatedEvent path corpus sinks]

/-- **A generating run** prints a corpus that can be read, and hands it to the sinks. -/
theorem ends_generate {surroundings : Surroundings} {config : Config} {output testbench : Option String}
    {seed : Option Nat} {status : ExitStatus}
    (h : Ends (generate surroundings config output seed testbench false) s status s') :
    let path := output.getD config.outputPath
    let sinks := generateSinks path testbench
    ∃ (corpus : Corpus) (s₁ s₂ : Session), corpus.Readable ∧ (s.print (corpus.text ++ "\n")).Keeps s₁ ∧
      Ends (sinks.forM (persist corpus)) s₁ () s₂ ∧ s' = s₂.emit (generatedEvent path corpus sinks) := by
  intro path sinks
  obtain ⟨refs, _, hrefs, hsourced⟩ := ends_bind_iff.mp h
  obtain ⟨-, rfl⟩ := ends_references_iff.mp hrefs
  obtain ⟨stream, sA, hstream, hlogged⟩ := ends_bind_iff.mp hsourced
  obtain ⟨_, sB, hevents, hprinted⟩ := ends_bind_iff.mp hlogged
  obtain ⟨_, s₁, hprint, hwritten⟩ := ends_bind_iff.mp hprinted
  obtain ⟨_, s₂, hsinks, hdone⟩ := ends_bind_iff.mp hwritten
  obtain ⟨_, s₃, hlast, hreturn⟩ := ends_bind_iff.mp hdone
  obtain ⟨-, rfl⟩ := ends_pure_iff.mp hreturn
  rw [ends_change_iff] at hevents hprint hlast
  refine ⟨Assembly.corpus refs _, s₁, s₂, Assembly.readable refs _, ?_, hsinks, hlast⟩
  have hkept := (keeps_of_ends_keyStream hstream).trans (hevents ▸ Session.keeps_emitAll _ _)
  rw [hprint]
  exact ⟨congrArg (· ++ _) hkept.stdout, hkept.logger, hkept.time⟩

/-- **The file at the output path** behind a generating run: the printed corpus, or the testbench of its
    records if that was written over it, and then what was logged there since. -/
theorem read_of_ends_generate {surroundings : Surroundings} {config : Config}
    {output testbench : Option String} {seed : Option Nat} {status : ExitStatus}
    (h : Ends (generate surroundings config output seed testbench false) s status s') :
    let path := output.getD config.outputPath
    let place := (FilePath.ofText path).destination
    ∃ corpus : Corpus, corpus.Readable ∧ (s.print (corpus.text ++ "\n")).Keeps s' ∧
      let events := generateEvents path testbench corpus
      ((∀ tb ∈ testbench, (FilePath.ofText tb).destination ≠ place) →
        s'.files.read path = .ok (corpus.yaml ++ s'.loggedAll place events)) ∧
      ((∃ tb ∈ testbench, (FilePath.ofText tb).destination = place) →
        s'.files.read path =
          .ok (Testbench.default.render corpus.flatten ++ s'.loggedAll place events.tail)) := by
  intro path place
  obtain ⟨corpus, s₁, s₂, hreadable, hprinted, hsinks, hlast⟩ := ends_generate h
  obtain ⟨last, hevent⟩ : ∃ e, e = generatedEvent path corpus (generateSinks path testbench) := ⟨_, rfl⟩
  obtain ⟨s₃, hyaml, hrest⟩ := ends_forM_cons_iff.mp hsinks
  have hkept₁ : s₁.Keeps s₂ := (keeps_of_ends_forM_persist hsinks).1
  have hkept₂ : s₂.Keeps s' := hlast ▸ Session.keeps_emit s₂ _
  refine ⟨corpus, hreadable, hprinted.trans (hkept₁.trans hkept₂), ?_⟩
  -- what stands at the place behind the sinks is read in the end, with the last event if that is logged
  have hread : ∀ text, s₂.files.get? place = some (.file text) →
      s'.files.read path = .ok (text ++ s'.loggedAll place [last]) := by
    intro text hfile
    rw [Session.loggedAll_singleton, hkept₂.logged_eq, hlast, hevent]
    refine read_of_ends_persist hyaml (fun q hq => ?_) (Session.get?_emit hfile _)
    exact (Session.changes_emit s₂ _).directories q ((keeps_of_ends_forM_persist hrest).2 q hq)
  constructor
  · intro hapart
    have hfile := get?_of_ends_forM_persist_cons hsinks fun sink hsink => ?_
    · have hplace : Sink.destination ⟨path, .yaml⟩ = place := rfl
      rw [hplace, ← (hkept₁.trans hkept₂).loggedAll_eq, Sink.contents_yaml] at hfile
      rw [hread _ hfile, String.append_assoc, ← Session.loggedAll_append, hevent]
      rfl
    · obtain ⟨tb, htb, rfl⟩ := Option.map_eq_some_iff.mp (Option.mem_toList.mp hsink)
      exact hapart tb htb
  · rintro ⟨tb, rfl, hsame⟩
    have hplace : Sink.destination ⟨tb, .testbench .default⟩ = place := hsame
    have hfile := get?_of_ends_forM_persist_cons hrest fun _ hnone => absurd hnone List.not_mem_nil
    rw [hplace, ← ((keeps_of_ends_forM_persist hrest).1.trans hkept₂).loggedAll_eq,
      Sink.contents_testbench] at hfile
    rw [hread _ hfile, String.append_assoc, ← Session.loggedAll_append, hevent]
    rfl

theorem ends_invoke_of_runCommand [FilterDialect] {surroundings : Surroundings} {arguments : List String}
    {invocation : Invocation}
    (hinvocation : Invocation.ofArguments surroundings.configPath arguments = .ok invocation)
    (hrun : runCommand surroundings arguments s = (s', .success)) :
    Ends (invoke surroundings invocation) s .success s' := by
  rw [runCommand, hinvocation] at hrun
  dsimp only at hrun
  split at hrun
  next status s₁ heq =>
    cases hrun
    exact heq
  next => cases hrun

/-- **A run that asks for generation** loads its configuration, starts the log where the settings say, and
    generates. -/
theorem ends_invoke_generate [FilterDialect] {surroundings : Surroundings} {invocation : Invocation}
    {output testbench : Option String} {seed : Option Nat} {quiet : Bool} {status : ExitStatus}
    (htask : invocation.task = .generate output seed testbench quiet)
    (h : Ends (invoke surroundings invocation) s status s') :
    ∃ (config : Config) (s₁ : Session) (logger : Logger), Ends (loadConfig invocation.config) s config s ∧
      s₁.stdout = s.stdout ∧ s₁.logger = some logger ∧
      logger.file =
        (logSetting invocation config).file.map (fun path => (FilePath.ofText path).destination) ∧
      Ends (generate surroundings config output seed testbench quiet) s₁ status s' := by
  obtain ⟨config, s₀, hconfig, hlogged⟩ := ends_bind_iff.mp h
  obtain rfl := eq_of_ends_loadConfig hconfig
  obtain ⟨_, s₁, hstart, hperform⟩ := ends_bind_iff.mp hlogged
  obtain ⟨hstdout, logger, hlogger, hfile⟩ := Session.startLog_eq_ok (ends_startLog_iff.mp hstart)
  rw [htask] at hperform
  exact ⟨config, s₁, logger, hconfig, hstdout, hlogger, hfile, hperform⟩

end Command.Action

/-! ## Printed corpora -/

namespace Command

open Command.Action

/-- **A generating run leaves the corpus it printed** at its output path, and behind it what was logged
    there since; the corpus is read from there if nothing was. If the testbench is written to the same
    place, that stands there in place of the corpus, and no corpus is read at all. -/
theorem runCommand_leaves_corpus [WorkingDirectory] [FilterDialect] {surroundings : Surroundings}
    {arguments : List String} {invocation : Invocation} {output testbench : Option String}
    {seed : Option Nat} {files : FileTree} {time : String} {session : Session}
    (hinvocation : Invocation.ofArguments surroundings.configPath arguments = .ok invocation)
    (htask : invocation.task = .generate output seed testbench false)
    (hrun : runCommand surroundings arguments (.start files time) = (session, .success)) :
    ∃ (config : Config) (corpus : Corpus) (logger : Logger),
      Ends (loadConfig invocation.config) (.start files time) config (.start files time) ∧
      session.logger = some logger ∧
      logger.file =
        (logSetting invocation config).file.map (fun path => (FilePath.ofText path).destination) ∧
      session.stdout = corpus.text ++ "\n" ∧
      let path := output.getD config.outputPath
      let place := (FilePath.ofText path).destination
      let events := generateEvents path testbench corpus
      ((∀ tb ∈ testbench, (FilePath.ofText tb).destination ≠ place) →
        ∃ text, session.files.read path = .ok text ∧
          text = corpus.yaml ++ session.loggedAll place events ∧
          ((∀ e ∈ events, ¬ session.LogsTo e place) → Corpus.ofYaml text = .ok corpus)) ∧
      ((∃ tb ∈ testbench, (FilePath.ofText tb).destination = place) →
        ∃ text, session.files.read path = .ok text ∧
          text = Testbench.default.render corpus.flatten ++ session.loggedAll place events.tail ∧
          ∀ c, Corpus.ofYaml text ≠ .ok c) := by
  obtain ⟨config, s₁, logger, hconfig, hstdout, hlogger, hfile, hgenerate⟩ :=
    ends_invoke_generate htask (ends_invoke_of_runCommand hinvocation hrun)
  obtain ⟨corpus, hreadable, hkept, hapart, hover⟩ := read_of_ends_generate hgenerate
  refine ⟨config, corpus, logger, hconfig, hkept.logger.trans hlogger, hfile, ?_, ?_, ?_⟩
  · rw [hkept.stdout, Session.print, hstdout]
    exact String.empty_append
  · intro hplaces
    refine ⟨_, hapart hplaces, rfl, fun hsilent => ?_⟩
    rw [Session.loggedAll_eq_empty hsilent, String.append_empty]
    exact Corpus.ofYaml_of_holds hreadable corpus.holds_yaml
  · intro hplaces
    exact ⟨_, hover hplaces, rfl, Corpus.ofYaml_render_ne corpus.flatten _⟩

/-- The corpus, a testbench and the log, each in a file of its own. -/
theorem runCommand_leaves_corpus_threeFiles :
    let run := runCommand ⟨none, none, .replicate 8 0⟩ ["--log-file", "run.log", "generate",
      "--seed", "7", "-o", "c.yaml", "--testbench", "c.vhd"] (.start .empty "now")
    run.2 = .success ∧ ∃ corpus text, run.1.stdout = corpus.text ++ "\n" ∧
      run.1.files.read "c.yaml" = .ok text ∧ Corpus.ofYaml text = .ok corpus := by
  intro run
  have hrun : run = runCommand ⟨none, none, .replicate 8 0⟩ ["--log-file", "run.log", "generate",
      "--seed", "7", "-o", "c.yaml", "--testbench", "c.vhd"] (.start .empty "now") := rfl
  have hsuccess : run.2 = .success := by decide +kernel
  -- from here on the run is what its theorems say, not what it can be evaluated to
  clear_value run
  have hinvocation : Invocation.ofArguments (⟨none, none, .replicate 8 0⟩ : Surroundings).configPath
      ["--log-file", "run.log", "generate", "--seed", "7", "-o", "c.yaml", "--testbench", "c.vhd"] =
        .ok ⟨none, none, none, some "run.log",
          .generate (some "c.yaml") (some 7) (some "c.vhd") false⟩ := rfl
  obtain ⟨config, corpus, logger, -, hlogger, hfile, hstdout, hleft, -⟩ :=
    runCommand_leaves_corpus hinvocation rfl (hrun.symm.trans (Prod.ext rfl hsuccess))
  -- the log has a file of its own, so that its filter does not matter
  have hsilent : ∀ e, ¬ run.1.LogsTo e (FilePath.ofText "c.yaml").destination := by
    rintro e ⟨logger', hlogger', hplace, -⟩
    cases hlogger.symm.trans hlogger'
    rw [hfile] at hplace
    exact absurd (Option.some.inj hplace) (by decide)
  have hapart : ∀ tb ∈ some "c.vhd",
      (FilePath.ofText tb).destination ≠ (FilePath.ofText "c.yaml").destination := by
    rintro tb ⟨⟩
    decide
  obtain ⟨text, hread, -, hcorpus⟩ := hleft hapart
  exact ⟨hsuccess, corpus, text, hstdout, hread, hcorpus fun e _ => hsilent e⟩

/-- **A testbench written over the corpus**: the run succeeds and prints a corpus, but no corpus at all is
    read from the output path. -/
theorem runCommand_testbench_over_corpus :
    let run := runCommand ⟨none, none, .replicate 8 0⟩ ["generate", "--seed", "7", "-o", "c.yaml",
      "--testbench", "c.yaml"] (.start .empty "now")
    run.2 = .success ∧ ∃ (corpus : Corpus) (text : String), run.1.stdout = corpus.text ++ "\n" ∧
      run.1.files.read "c.yaml" = .ok text ∧ ∀ c, Corpus.ofYaml text ≠ .ok c := by
  intro run
  have hsuccess : run.2 = .success := by decide +kernel
  have hinvocation : Invocation.ofArguments (⟨none, none, .replicate 8 0⟩ : Surroundings).configPath
      ["generate", "--seed", "7", "-o", "c.yaml", "--testbench", "c.yaml"] =
        .ok ⟨none, none, none, none, .generate (some "c.yaml") (some 7) (some "c.yaml") false⟩ := rfl
  obtain ⟨config, s₁, logger, hconfig, hstdout, -, -, hgenerate⟩ :=
    ends_invoke_generate rfl (ends_invoke_of_runCommand hinvocation (Prod.ext rfl hsuccess))
  obtain ⟨corpus, -, hkept, -, hover⟩ := read_of_ends_generate hgenerate
  obtain ⟨rfl, -⟩ := ends_pure_iff.mp hconfig
  have hread := hover ⟨"c.yaml", rfl, rfl⟩
  refine ⟨hsuccess, corpus, _, ?_, hread, Corpus.ofYaml_render_ne corpus.flatten _⟩
  rw [hkept.stdout, Session.print, hstdout]
  exact String.empty_append

end Command

end StimulusBench
