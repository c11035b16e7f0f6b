import StimulusBench.Proofs.Command.Artifacts
import StimulusBench.Proofs.Command.Testbench
import StimulusBench.Proofs.Replay.Findings
import StimulusBench.Proofs.Replay.Printing

/-!
# `StimulusBench.Proofs.Command.Check` — the verdict of a run that checks

A run that checks replays the records of a document and prints what the replay finds. Once the log has
started nothing but the document can end it early, and what it logs on the way neither reaches the output
stream nor changes the exit status. So the status and what is printed depend on the leaves of the document
and on the outputs that the recognizer shows at them, and on nothing else.

## Contents
- **Reports.** `Report.OfRun`, a report in terms of the records and of the steps that take them.
- **The task.** `run_check`: the session and the status behind a replay.
- **Runs.** `runCommand_check_verdict`: the exit status of a run, and what it prints.
-/

namespace StimulusBench

/-! ## Reports -/

/-- **The report on a stream** that a recognizer takes record by record: how many records there are, how
    many of them assert something, how often the recognizer unlocks, whether it warns at the end, and, in
    the order of their positions, the assertions that are not met. -/
structure Report.OfRun (refs : ReferencePair) (m : Recognizer) (records : List Record) (report : Report) :
    Prop where
  steps : report.steps = records.length
  assertions : report.assertions = records.countP (·.extra.isSome)
  unlocks : report.unlocks = (m.run refs records).2.countP (·.unlock)
  finalWarning : report.finalWarning = (m.run refs records).1.warning
  ordered : report.mismatches.Pairwise fun x y => x.index < y.index
  unmet : ∀ x, x ∈ report.mismatches ↔ Recognizer.Unmet refs m records x

namespace Report

variable {refs : ReferencePair} {m : Recognizer} {records : List Record} {report : Report}

/-- **A replay reports** on the stream that it replays. -/
theorem ofRun_replay (refs : ReferencePair) (m : Recognizer) (records : List Record) :
    Report.OfRun refs m records (m.replay refs records).2 := by
  have hreplay := Recognizer.replay_eq refs m records
  constructor
  case ordered => exact Recognizer.pairwise_replay_mismatches refs m records
  case unmet => exact fun _ => Recognizer.mem_replay_mismatches_iff
  all_goals rw [hreplay]

theorem OfRun.mismatches_eq_nil_iff (h : report.OfRun refs m records) :
    report.mismatches = [] ↔ ¬ ∃ x, Recognizer.Unmet refs m records x := by
  rw [List.eq_nil_iff_forall_not_mem, not_exists]
  exact forall_congr' fun x => not_congr (h.unmet x)

/-- No number of a report is greater than the number of records, so all of them fit a word if that does. -/
theorem OfRun.fits (h : report.OfRun refs m records) (hlength : records.length < 1 <<< 64) :
    report.Fits := by
  constructor
  case steps => rwa [h.steps]
  case assertions =>
    rw [h.assertions]
    exact Nat.lt_of_le_of_lt List.countP_le_length hlength
  case unlocks =>
    have houtputs : (m.run refs records).2.length = records.length := Recognizer.length_run_outputs ..
    rw [h.unlocks]
    exact Nat.lt_of_le_of_lt (houtputs ▸ List.countP_le_length) hlength
  case index =>
    intro x hx
    obtain ⟨r, hr, -⟩ := ((h.unmet x).mp hx).shown
    exact Nat.lt_trans (List.getElem?_eq_some_iff.mp hr).1 hlength

end Report

namespace Command

open Command.Action

/-- A report in a format, as it is printed. -/
def ReportFormat.text : ReportFormat → Report → String
  | .plain, report => report.plain
  | .json, report => report.json ++ "\n"

/-- The exit status of a run that checks. -/
def verdictStatus (strict : Bool) (report : Report) : ExitStatus :=
  if strict && !report.passed then .mismatch else .success

/-- A run that checks fails with a mismatch if it is strict and something is unmet, and succeeds
    otherwise. -/
theorem code_verdictStatus (strict : Bool) (report : Report) :
    ((verdictStatus strict report).code = 2 ↔ strict = true ∧ report.mismatches ≠ []) ∧
      ((verdictStatus strict report).code = 0 ↔ ¬ (strict = true ∧ report.mismatches ≠ [])) := by
  have hiff : (strict && !report.passed) = true ↔ strict = true ∧ report.mismatches ≠ [] := by
    rw [Bool.and_eq_true, Report.passed, Bool.not_eq_true', List.isEmpty_eq_false_iff]
  rw [← hiff]
  unfold verdictStatus
  cases strict && !report.passed with
  | false => decide
  | true => decide

section

variable [WorkingDirectory]
variable {s : Session} {config : Config} {input text : String} {document : Document} {refs : References}

/-! ## The task -/

/-- **A replay** of a document that is there ends with its verdict, and prints its report. -/
theorem Action.run_check (hrefs : config.references = .ok refs) (hread : s.files.read input = .ok text)
    (hdocument : Document.ofYaml text = .ok document) (format : ReportFormat) (strict : Bool) :
    ∃ s', (check config input format strict).run s =
        (.ok (verdictStatus strict (Recognizer.fresh.replay refs document.records).2), s') ∧
      s'.stdout = s.stdout ++ format.text (Recognizer.fresh.replay refs document.records).2 := by
  rw [check, run_bind, ends_references_iff.mpr ⟨hrefs, rfl⟩]
  dsimp only
  rw [run_bind, run_readDocument hread hdocument]
  dsimp only
  generalize (Recognizer.fresh.replay refs document.records).2 = report
  have hprinted : ((s.emit report.event).print (format.text report)).stdout =
      s.stdout ++ format.text report := by
    rw [Session.print, (Session.keeps_emit s _).stdout]
  unfold verdictStatus
  cases strict && !report.passed with
  | false =>
      refine ⟨(s.emit report.event).print (format.text report), ?_, hprinted⟩
      cases format <;> rfl
  | true =>
      -- the last event goes to the log, not to the output stream
      let warning : LogEvent := ⟨.warn, "seqvec", "assertion mismatches",
        [("mismatches", .number report.mismatches.length)]⟩
      refine ⟨((s.emit report.event).print (format.text report)).emit warning, ?_, ?_⟩
      · cases format <;> rfl
      · exact (Session.keeps_emit _ _).stdout.trans hprinted

/-! ## Runs -/

variable [FilterDialect]
variable {surroundings : Surroundings} {arguments : List String} {invocation : Invocation}

/-- A task that succeeds ends the run with its status. -/
theorem runCommand_of_ok {s s' : Session} {status : ExitStatus}
    (hinvocation : Invocation.ofArguments surroundings.configPath arguments = .ok invocation)
    (h : (invoke surroundings invocation).run s = (.ok status, s')) :
    runCommand surroundings arguments s = (s', status) := by
  rw [runCommand, hinvocation]
  dsimp only
  rw [h]

/-- **The verdict of a run that checks.** Under a configuration that is accepted, and once the log has
    started, such a run fails if the document is missing or malformed. Otherwise it replays the leaves of
    the document, from left to right, to a fresh recognizer of the configured pair: its status is that of a
    mismatch exactly if it is strict and some assertion is not met there, and a success if not. In lines it
    prints the report on these records, and the last line is a pass exactly if every assertion is met; as an
    object it prints the same report, which is read back from it as long as its numbers fit a word. -/
theorem runCommand_check_verdict {input : String} {format : ReportFormat} {strict : Bool}
    (hinvocation : Invocation.ofArguments surroundings.configPath arguments = .ok invocation)
    (htask : invocation.task = .check input format strict)
    (files : FileTree) (time : String) {config : Config}
    (hconfig : configuration files invocation.config = .ok config)
    (hstart : ((Session.start files time).startLog surroundings.logFilter
      (logSetting invocation config)).2 = .ok ()) :
    let started := ((Session.start files time).startLog surroundings.logFilter
      (logSetting invocation config)).1
    let run := runCommand surroundings arguments (.start files time)
    (¬ started.files.HoldsDocument input → run.2.code = 1) ∧
    ∃ refs : References, config.references = .ok refs ∧
      ∀ text document, started.files.read input = .ok text → Document.ofYaml text = .ok document →
        ∃ (records : List Record) (report : Report), 
          (Stimulus.group document.entries).ListsLeaves records ∧ report.OfRun refs .fresh records ∧
          let failed := ∃ x, Recognizer.Unmet refs .fresh records x
          (run.2.code = 2 ↔ strict = true ∧ failed) ∧
          (run.2.code = 0 ↔ ¬ (strict = true ∧ failed)) ∧
          (format = .plain → ∃ lines, Testbench.linesOf run.1.stdout = lines ++ [[]] ∧
            report.ToldBy lines ∧ (lines.getLast? = some "PASS".toList ↔ ¬ failed)) ∧
          (format = .json → run.1.stdout = report.json ++ "\n" ∧
            (records.length < 1 <<< 64 → Json.parse run.1.stdout = .ok report.tree)) := by
  intro started run
  obtain ⟨refs, hrefs⟩ := exists_references_of_configuration hconfig
  have hinvoke : (invoke surroundings invocation).run (.start files time) =
      (perform surroundings config invocation.task).run started := run_invoke_of_started _ hconfig hstart
  refine ⟨fun habsent => ?_, refs, hrefs, fun text document hread hdocument => ?_⟩
  · have hinput : invocation.task.input? = some input := by rw [htask]; rfl
    obtain ⟨fault, hfault⟩ := run_perform_of_not_holds surroundings hrefs hinput habsent
    exact (runCommand_of_fault hinvocation (hinvoke.trans hfault)).1
  · obtain ⟨s', hcheck, hstdout⟩ := run_check hrefs hread hdocument format strict
    have hreport := Report.ofRun_replay refs .fresh document.records
    generalize (Recognizer.fresh.replay refs document.records).2 = report at hcheck hstdout hreport
    have hrun : run = (s', verdictStatus strict report) := by
      refine runCommand_of_ok hinvocation (hinvoke.trans ?_)
      rw [htask]
      exact hcheck
    have hprinted : run.1.stdout = format.text report := by
      have hempty : started.stdout = "" := (Session.startLog_eq_ok (Prod.ext rfl hstart)).1
      rw [hrun, hstdout, hempty, String.empty_append]
    have hfailed : report.mismatches ≠ [] ↔ ∃ x, Recognizer.Unmet refs .fresh document.records x := by
      rw [ne_eq, hreport.mismatches_eq_nil_iff, not_not]
    have hcode := code_verdictStatus strict report
    rw [hfailed] at hcode
    have hleaves : (Stimulus.group document.entries).ListsLeaves document.records :=
      Stimulus.listsLeaves_iff.mpr rfl
    refine ⟨document.records, report, hleaves, hreport, ?_, ?_, ?_, ?_⟩
    · rw [hrun]
      exact hcode.1
    · rw [hrun]
      exact hcode.2
    · rintro rfl
      refine ⟨_, ?_, report.toldBy_lines, ?_⟩
      · rw [hprinted]
        exact report.linesOf_plain
      · rw [report.toldBy_lines.last_iff, hreport.mismatches_eq_nil_iff]
    · rintro rfl
      refine ⟨hprinted, fun hlength => ?_⟩
      rw [hprinted]
      exact Report.parse_json (hreport.fits hlength)

end

/-- A document whose second record, which is in a group, asserts a warning that is not there. -/
theorem runCommand_check_verdict_unmet :
    let files := FileTree.empty.set (Place.working.child "in.yaml") (.file Corpus.mixed.yaml)
    let run := runCommand ⟨none, none, .replicate 8 0⟩ ["check", "-i", "in.yaml", "--strict"]
      (.start files "now")
    run.2.code = 2 ∧ ∃ lines, Testbench.linesOf run.1.stdout = lines ++ [[]] ∧
      lines.filter Report.isRecordLine = ["  record 1: expected [0, 1], got [0, 0]".toList] ∧
      lines.getLast? ≠ some "PASS".toList := by
  intro files
  dsimp only
  have hinvocation : Invocation.ofArguments (⟨none, none, .replicate 8 0⟩ : Surroundings).configPath
      ["check", "-i", "in.yaml", "--strict"] =
        .ok ⟨none, none, none, none, .check "in.yaml" .plain true⟩ := rfl
  have hdocument : Document.ofYaml Corpus.mixed.yaml = .ok (.corpus Corpus.mixed) :=
    Document.ofYaml_of_holds ⟨by decide, by decide⟩ Corpus.mixed.holds_yaml
  have hconfig : configuration files none = .ok .default := rfl
  obtain ⟨-, refs, hrefs, hverdict⟩ := runCommand_check_verdict hinvocation rfl files "now" hconfig rfl
  obtain rfl : References.default = refs := Except.ok.inj hrefs
  obtain ⟨records, report, hleaves, hreport, hcode, -, hlines, -⟩ := hverdict _ _ rfl hdocument
  -- the leaves are the two records, and the replay of these is closed
  obtain rfl : Corpus.mixed.flatten = records := Stimulus.listsLeaves_iff.mp hleaves
  have hfound : report.mismatches = [⟨1, .warned, ⟨false, false⟩⟩] := by
    rw [← Recognizer.replay_mismatches_eq (fun x => (hreport.unmet x).symm) hreport.ordered]
    decide +kernel
  have hunmet := (hreport.unmet _).mp (hfound ▸ List.mem_singleton.mpr rfl)
  obtain ⟨lines, hprinted, htold, hlast⟩ := hlines rfl
  refine ⟨hcode.mpr ⟨rfl, _, hunmet⟩, lines, hprinted, ?_, fun hpass => hlast.mp hpass ⟨_, hunmet⟩⟩
  rw [htold.found, hfound]
  rfl

end Command

end StimulusBench
