import StimulusBench.Command.Option
import StimulusBench.Testbench

/-!
# `StimulusBench.Command.Arguments` — reading the command line

Arguments are read from left to right. An option that takes a value waits for it; what it was given
is understood only when the next option is met or the arguments end. The arguments behind a
subcommand are read to their end before those in front of it are settled, so their faults come
first.

## Contents
- **Collecting.** `Collected`: options given so far and the one that waits for its value.
- **Scanning.** `scan` reads arguments up to a subcommand or to the end.
- **Invocations.** `Invocation`, `Invocation.ofArguments`.
-/

namespace StimulusBench.Command

/-! ## Collecting -/

/-- Why reading stops. -/
inductive Stop
  | usage (fault : UsageFault)
  | help
  | version
  /-- There are no arguments at all. -/
  | nothingAsked
  deriving Repr, DecidableEq

/-- The options given so far. -/
structure Collected where
  given : List (OptionName × OptionValue)
  /-- The option met last, with what was given for it, not yet understood. -/
  pending : Option (OptionName × Option String)
  deriving Repr

namespace Collected

/-- No options. -/
def none : Collected := ⟨[], Option.none⟩

/-- What was given for an option. -/
def get? (c : Collected) (o : OptionName) : Option OptionValue := c.given.lookup o

/-- Whether an option waits for its value. -/
def waits (c : Collected) : Bool :=
  match c.pending with
  | some (_, Option.none) => true
  | _ => false

/-- Notes an option and its value. An option can be given only once; its value is looked at after
    that. -/
def note (c : Collected) (o : OptionName) (value : Except UsageFault OptionValue) :
    Except Stop Collected :=
  if (c.get? o).isSome then .error (.usage (.repeated o))
  else match value with
    | .ok v => .ok { c with given := c.given ++ [(o, v)] }
    | .error fault => .error (.usage fault)

/-- Understands what was given for the option met last. -/
def settle (c : Collected) : Except Stop Collected :=
  match c.pending with
  | Option.none => .ok c
  | some (o, Option.none) => .error (.usage (.missingValue o))
  | some (o, some value) => note { c with pending := Option.none } o (o.read value)

/-- Meets an option without a value. -/
def flag (c : Collected) (o : OptionName) : Except Stop Collected := do
  let c ← c.settle
  match o with
  | .help => throw .help
  | .version => throw .version
  | _ => c.note o (.ok .present)

/-- Meets an option that takes a value, which may be attached to it. -/
def option (c : Collected) (o : OptionName) (attached : Option String) : Except Stop Collected := do
  let c ← c.settle
  match attached with
  | some value => c.note o (o.read value)
  | Option.none => return { c with pending := some (o, Option.none) }

end Collected

/-! ## Scanning -/

/-- A text at the first equals sign: what is in front of it, and what is behind it. -/
def splitEquals : List Char → List Char × Option (List Char)
  | [] => ([], none)
  | c :: cs =>
    if c = '=' then ([], some cs)
    else
      let (name, value) := splitEquals cs
      (c :: name, value)

/-- An argument behind two dashes. -/
def longArgument (known : List OptionName) (c : Collected) (cs : List Char) :
    Except Stop Collected :=
  let (name, value) := splitEquals cs
  match known.find? (·.long.toList = name) with
  | none => .error (.usage (.unexpectedArgument ("--" ++ String.ofList name)))
  | some o =>
    if o.takesValue then c.option o (value.map String.ofList)
    else match value with
      | some v => .error (.usage (.surplusValue (String.ofList v) o))
      | none => c.flag o

/-- What is attached to a letter: nothing, or a value with or without an equals sign. -/
def attached? (cs : List Char) : Option String :=
  match cs with
  | [] => none
  | '=' :: value => some (String.ofList value)
  | _ => some (String.ofList cs)

/-- The letters of an argument behind one dash. -/
def letters (known : List OptionName) : Collected → List Char → Except Stop Collected
  | c, [] => .ok c
  | c, l :: ls =>
    match known.find? (·.letter? = some l) with
    | none => .error (.usage (.unexpectedArgument (String.ofList ['-', l])))
    | some o =>
      if o.takesValue then c.option o (attached? ls)
      else match c.flag o with
        | .ok c => letters known c ls
        | .error stop => .error stop

/-- Where a scan ends: at the end of the arguments, or at a subcommand with the arguments behind
    it. -/
structure Scanned where
  collected : Collected
  subcommand : Option (Subcommand × List String)

/-- Whether a text is the name of a subcommand; the help is one. -/
def namesSubcommand (written : String) : Bool := (Subcommand.ofName? written).isSome || written = "help"

/-- What the help is asked about: the program, or one of its subcommands. Whatever follows should have
    been a subcommand, and the subcommands have none. -/
def helpAbout : List String → Stop
  | [] => .help
  | written :: rest =>
    if namesSubcommand written then
      match rest with
      | [] => .help
      | next :: _ => .usage (.unknownSubcommand next)
    else .usage (.unknownSubcommand written)

/-- An argument that nothing waits for. In front of a subcommand it should have been one. -/
def surplus (atRoot trailing : Bool) (written : String) : UsageFault :=
  if atRoot && !(trailing && namesSubcommand written) then .unknownSubcommand written
  else .unexpectedArgument written

/-- Reads arguments up to a subcommand or to the end. Behind two lone dashes nothing but an unwanted
    argument can follow. -/
def scan (atRoot : Bool) (known : List OptionName) : Collected → List String → Except Stop Scanned
  | c, [] => .ok ⟨c, none⟩
  | c, written :: rest =>
    let sub? := if atRoot && !c.waits then Subcommand.ofName? written else none
    match sub? with
    | some sub => .ok ⟨c, some (sub, rest)⟩
    | none =>
      if atRoot && !c.waits && written = "help" then .error (helpAbout rest)
      else match written.toList with
        | ['-', '-'] =>
          match rest with
          | [] => .ok ⟨c, none⟩
          | next :: _ => .error (.usage (surplus atRoot true next))
        | '-' :: '-' :: cs =>
          match longArgument known c cs with
          | .ok c => scan atRoot known c rest
          | .error stop => .error stop
        | '-' :: l :: ls =>
          match letters known c (l :: ls) with
          | .ok c => scan atRoot known c rest
          | .error stop => .error stop
        | _ =>
          match c.pending with
          | some (o, none) => scan atRoot known { c with pending := some (o, some written) } rest
          | _ => .error (.usage (surplus atRoot false written))

/-! ## Invocations -/

/-- What the program is asked to do, with its arguments. -/
inductive Task
  | generate (output : Option String) (seed : Option Nat) (testbench : Option String)
      (quiet : Bool)
  | testbench (input : String) (output : Option String) (bench : Testbench)
  | check (input : String) (format : ReportFormat) (strict : Bool)
  | mutate (count : Nat) (seed : Option Nat) (encoded : Bool)
  deriving Repr, DecidableEq

/-- A command line that was understood. -/
structure Invocation where
  config : Option String
  logLevel : Option String
  logFormat : Option LogFormat
  logFile : Option String
  task : Task
  deriving Repr, DecidableEq

namespace Collected

/-- The text given for an option. -/
def text? (c : Collected) (o : OptionName) : Option String :=
  match c.get? o with
  | some (.text s) => some s
  | _ => Option.none

/-- The number given for an option. -/
def number? (c : Collected) (o : OptionName) : Option Nat :=
  match c.get? o with
  | some (.number n) => some n
  | _ => Option.none

/-- The log format given for an option. -/
def logFormat? (c : Collected) (o : OptionName) : Option LogFormat :=
  match c.get? o with
  | some (.logFormat f) => some f
  | _ => Option.none

/-- The report format given for an option. -/
def reportFormat? (c : Collected) (o : OptionName) : Option ReportFormat :=
  match c.get? o with
  | some (.reportFormat f) => some f
  | _ => Option.none

/-- Whether an option was given. -/
def has (c : Collected) (o : OptionName) : Bool := (c.get? o).isSome

/-- The task that the options behind a subcommand describe. -/
def task (c : Collected) (sub : Subcommand) : Task :=
  match sub with
  | .generate => .generate (c.text? .output) (c.number? .seed) (c.text? .testbench) (c.has .quiet)
  | .testbench =>
    .testbench ((c.text? .input).getD "") (c.text? .output)
      ⟨(c.text? .entity).getD Testbench.defaultEntity,
        (c.number? .clockPeriodNs).getD Testbench.defaultClockPeriodNs⟩
  | .check =>
    .check ((c.text? .input).getD "") ((c.reportFormat? .format).getD .plain) (c.has .strict)
  | .mutate => .mutate ((c.number? .count).getD 1) (c.number? .seed) (c.has .encode)

/-- Settles the options at the end of their part of the command line. The configuration that the
    environment names is looked at unless one was given in this part. -/
def finish (c : Collected) (environment : Option String) : Except Stop Collected := do
  let c ← c.settle
  match environment with
  | some path =>
    if !c.has .config && path.isEmpty then throw (.usage (.missingValue .config)) else return c
  | Option.none => return c

end Collected

namespace Invocation

/-- Reads the options behind a subcommand. -/
def behind (environment : Option String) (sub : Subcommand) (arguments : List String) :
    Except Stop Collected := do
  let scanned ← scan false sub.options .none arguments
  let c ← scanned.collected.finish environment
  let missing := sub.required.filter fun o => !c.has o
  if missing.isEmpty then return c else throw (.usage (.missingOptions missing))

/-- Understands a command line, given the configuration that the environment names. What is given
    behind the subcommand counts before what is given in front of it, and the environment comes
    last. -/
def ofArguments (environment : Option String) (arguments : List String) :
    Except Stop Invocation := do
  let scanned ← scan true rootOptions .none arguments
  match scanned.subcommand with
  | none =>
    let front ← scanned.collected.finish environment
    if front.given.isEmpty && environment.isNone then throw .nothingAsked
    else throw (.usage .missingSubcommand)
  | some (sub, rest) =>
    let c ← behind environment sub rest
    let front ← scanned.collected.finish environment
    return {
      config := c.text? .config <|> front.text? .config <|> environment
      logLevel := c.text? .logLevel <|> front.text? .logLevel
      logFormat := c.logFormat? .logFormat <|> front.logFormat? .logFormat
      logFile := c.text? .logFile <|> front.text? .logFile
      task := c.task sub }

end Invocation

end StimulusBench.Command
