import StimulusBench.Command.Arguments
import StimulusBench.Failure
import StimulusBench.Proofs.Random.Endless
import StimulusBench.Session
import StimulusBench.Sink

/-!
# `StimulusBench.Command.Run` — what the program does

A run takes a session to the session it leaves behind and to an exit status. The configuration is
read first, then the log starts, then the task is done. A fault ends the run; what was written and
logged before it stays.

## Contents
- **Outcomes.** `ExitStatus`, `RunFault`, `Action`.
- **Steps.** Loading the configuration, starting the log, reading a document, drawing, writing.
- **Tasks.** `generate`, `renderTestbench`, `check`, `mutate`.
- **Runs.** `runCommand` goes from the arguments to the session at the end.
-/

namespace StimulusBench.Command

/-! ## Outcomes -/

/-- How a run ends. -/
inductive ExitStatus
  | success
  | failure
  /-- Some assertion was not met. -/
  | mismatch
  /-- The arguments were refused. -/
  | usage
  deriving Repr, DecidableEq

/-- The number of an exit status. -/
def ExitStatus.code : ExitStatus → Nat
  | .success => 0
  | .failure => 1
  | .mismatch => 2
  | .usage => 2

/-- Why a run ends early. -/
inductive RunFault
  /-- A failure, with a line about what was being done. -/
  | failed (context : Option String) (failure : Failure)
  | logging (fault : LogFault)

/-- What the error stream says about a run that ended early. -/
def RunFault.report : RunFault → String
  | .failed none failure => failure.report
  | .failed (some context) failure => context ++ "\n" ++ failure.report
  | .logging fault => "Error: failed to initialize logging: " ++ fault.chain ++ "\n"

/-- What a run is given from outside besides its arguments. -/
structure Surroundings where
  /-- The configuration that the environment names. -/
  configPath : Option String
  /-- The log filter that the environment names. -/
  logFilter : Option String
  /-- The key of a run without a seed. -/
  freshKey : KeyStream.Key
  deriving Repr, DecidableEq

/-- A step of a run. A fault keeps the session as it was when the fault arose. -/
abbrev Action (α : Type) := ExceptT RunFault (StateM Session) α

/-! ## Steps -/

namespace Action

variable [WorkingDirectory] [FilterDialect]

/-- Changes the session. -/
def change (f : Session → Session) : Action Unit := modify f

/-- Ends the run with a failure. -/
def fail {α : Type} (failure : Failure) : Action α := throw (.failed none failure)

/-- Goes on with a value, or ends the run with the failure in its place. -/
def require {α : Type} : Except Failure α → Action α
  | .ok a => pure a
  | .error failure => fail failure

/-- Reads the configuration, if there is one. -/
def loadConfig : Option String → Action Config
  | none => pure .default
  | some path => do require ((Config.load (← get).files path).mapError .config)

/-- Starts the log. -/
def startLog (surroundings : Surroundings) (setting : LogSetting) : Action Unit := do
  let (session, result) := (← get).startLog surroundings.logFilter setting
  set session
  match result with
  | .ok () => pure ()
  | .error fault => throw (.logging fault)

/-- The reference pair of a configuration. -/
def references (config : Config) : Action References :=
  require (config.references.mapError .config)

/-- Reads a stimulus document. -/
def readDocument (path : String) : Action Document := do
  match (← get).files.read path with
  | .error cause => throw (.failed (some ("failed to read " ++ path)) (.io cause))
  | .ok text => require ((Document.ofYaml text).mapError (.stimulus ∘ .document))

/-- The key stream of a seed, or of the fresh key. Only a given seed is logged. -/
def keyStream (surroundings : Surroundings) : Option UInt64 → Action KeyStream
  | some seed => do
    change (·.emit ⟨.debug, "seqvec", "seeded RNG", [("seed", .number seed.toNat)]⟩)
    return .ofSeed seed
  | none => return .ofKey surroundings.freshKey

/-- Hands a corpus to a sink. -/
def persist (corpus : Corpus) (sink : Sink) : Action Unit := do
  let (files, result) := sink.persist corpus (← get).files
  change fun s => { s with files }
  match result with
  | .ok () => change (·.emit (sink.event corpus))
  | .error cause => fail (.io cause)

/-! ## Tasks -/

/-- Draws a corpus, prints it unless that is unwanted, and writes it. -/
def generate (surroundings : Surroundings) (config : Config) (output : Option String)
    (seed : Option Nat) (testbench : Option String) (quiet : Bool) : Action ExitStatus := do
  let refs ← references config
  let stream ← keyStream surroundings (seed.map UInt64.ofNat <|> config.seed)
  let assembly := (stream.draw _ (Composer.ofReferences refs config.maxDraws).total_drawAssembly).1
  change (·.emitAll (assembly.events refs))
  let corpus := assembly.corpus refs
  if !quiet then change (·.print (corpus.text ++ "\n"))
  let path := output.getD config.outputPath
  let sinks : List Sink := ⟨path, .yaml⟩ :: (testbench.map (⟨·, .testbench .default⟩)).toList
  sinks.forM (persist corpus)
  change (·.emit ⟨.info, "seqvec", "generated corpus",
    [("path", .text path), ("records", .number corpus.flatten.length),
      ("sinks", .number sinks.length)]⟩)
  return .success

/-- Turns a stimulus document into a testbench, which is printed or written. -/
def renderTestbench (input : String) (output : Option String) (bench : Testbench) :
    Action ExitStatus := do
  let document ← readDocument input
  let records := document.records
  match output with
  | some path => persist ⟨[.ofRecords records]⟩ ⟨path, .testbench bench⟩
  | none => change (·.print (bench.render records))
  return .success

/-- Replays a stimulus document and prints the report. -/
def check (config : Config) (input : String) (format : ReportFormat) (strict : Bool) :
    Action ExitStatus := do
  let refs ← references config
  let document ← readDocument input
  let (_, report) := Recognizer.fresh.replay refs document.records
  change (·.emit report.event)
  change (·.print (match format with
    | .plain => report.plain
    | .json => report.json ++ "\n"))
  if strict && !report.passed then
    change (·.emit ⟨.warn, "seqvec", "assertion mismatches",
      [("mismatches", .number report.mismatches.length)]⟩)
    return .mismatch
  return .success

/-- The printed form of a mutated sequence: its values, or the records that write them. -/
def mutantText (values : List Value) (encoded : Bool) : String :=
  if encoded then bracketedTexts ((encode values).map (·.text)) else sequenceText values

/-- Draws mutated sequences and prints each on a line of its own. -/
def printMutants (refs : References) (encoded : Bool) : Nat → KeyStream → Action Unit
  | 0, _ => pure ()
  | count + 1, stream => do
    let (mutation, rest) := stream.draw _ Mutation.total_draw
    change fun s => (s.emit mutation.event).print
      (mutantText (mutation.apply refs).toList encoded ++ "\n")
    printMutants refs encoded count rest

/-- Prints mutated sequences. -/
def mutate (surroundings : Surroundings) (config : Config) (count : Nat) (seed : Option Nat)
    (encoded : Bool) : Action ExitStatus := do
  let refs ← references config
  let stream ← keyStream surroundings (seed.map UInt64.ofNat <|> config.seed)
  printMutants refs encoded count stream
  return .success

/-- Does a task under a configuration. -/
def perform (surroundings : Surroundings) (config : Config) : Task → Action ExitStatus
  | .generate output seed testbench quiet =>
    generate surroundings config output seed testbench quiet
  | .testbench input output bench => renderTestbench input output bench
  | .check input format strict => check config input format strict
  | .mutate count seed encoded => mutate surroundings config count seed encoded

/-! ## Runs -/

/-- The log settings of a configuration, with those of the arguments in their place. -/
def logSetting (invocation : Invocation) (config : Config) : LogSetting where
  level := invocation.logLevel.getD config.log.level
  format := invocation.logFormat.getD config.log.format
  file := invocation.logFile <|> config.log.file

/-- Does what an understood command line asks for. -/
def invoke (surroundings : Surroundings) (invocation : Invocation) : Action ExitStatus := do
  let config ← loadConfig invocation.config
  startLog surroundings (logSetting invocation config)
  perform surroundings config invocation.task

end Action

/-- The line of a version. -/
def versionText : String := "seqvec 0.1.0\n"

/-- The lines of the help. -/
def helpText : String :=
  "Sequence-recognizer test vector generator\n\nUsage: seqvec [OPTIONS] <COMMAND>\n\nCommands:\n"
    ++ String.join (Subcommand.all.map fun sub => "  " ++ sub.name ++ "\n")
    ++ "\nOptions:\n"
    ++ String.join (rootOptions.map fun o => "  " ++ o.title ++ "\n")

/-- One run of the program, from its arguments to the session it leaves behind. -/
def runCommand [WorkingDirectory] [FilterDialect] (surroundings : Surroundings)
    (arguments : List String) (session : Session) : Session × ExitStatus :=
  match Invocation.ofArguments surroundings.configPath arguments with
  | .error .version => (session.print versionText, .success)
  | .error .help => (session.print helpText, .success)
  | .error .nothingAsked => (session.complain helpText, .usage)
  | .error (.usage fault) => (session.complain ("error: " ++ fault.message ++ "\n"), .usage)
  | .ok invocation =>
    match (Action.invoke surroundings invocation).run session with
    | (.ok status, session) => (session, status)
    | (.error fault, session) => (session.complain fault.report, .failure)

end StimulusBench.Command
