import StimulusBench.Log.Setting
import StimulusBench.Number.Numeral

/-!
# `StimulusBench.Command.Option` — the options of the program

Every option has a long name, some have a letter, and most take a value. Four of them may stand in
front of the subcommand as well as behind it.

## Contents
- **Subcommands.** `Subcommand`.
- **Options.** `OptionName`, its names, and which subcommand knows which option.
- **Values.** `OptionValue`, `OptionName.read`.
- **Faults.** `UsageFault` and its wording.
-/

namespace StimulusBench.Command

/-! ## Subcommands -/

/-- What the program is asked to do. -/
inductive Subcommand
  | generate
  | testbench
  | check
  | mutate
  deriving Repr, DecidableEq

/-- The name of a subcommand. -/
def Subcommand.name : Subcommand → String
  | .generate => "generate"
  | .testbench => "testbench"
  | .check => "check"
  | .mutate => "mutate"

/-- All subcommands. -/
def Subcommand.all : List Subcommand := [.generate, .testbench, .check, .mutate]

/-- The subcommand with a name. -/
def Subcommand.ofName? (s : String) : Option Subcommand := all.find? (·.name = s)

/-! ## Options -/

/-- An option. -/
inductive OptionName
  | config
  | logLevel
  | logFormat
  | logFile
  | output
  | seed
  | testbench
  | quiet
  | input
  | entity
  | clockPeriodNs
  | format
  | strict
  | count
  | encode
  | help
  | version
  deriving Repr, DecidableEq

namespace OptionName

/-- The long name of an option. -/
def long : OptionName → String
  | .config => "config"
  | .logLevel => "log-level"
  | .logFormat => "log-format"
  | .logFile => "log-file"
  | .output => "output"
  | .seed => "seed"
  | .testbench => "testbench"
  | .quiet => "quiet"
  | .input => "input"
  | .entity => "entity"
  | .clockPeriodNs => "clock-period-ns"
  | .format => "format"
  | .strict => "strict"
  | .count => "count"
  | .encode => "encode"
  | .help => "help"
  | .version => "version"

/-- The letter of an option, if it has one. -/
def letter? : OptionName → Option Char
  | .output => some 'o'
  | .quiet => some 'q'
  | .input => some 'i'
  | .format => some 'f'
  | .count => some 'n'
  | .help => some 'h'
  | .version => some 'V'
  | _ => none

/-- Whether an option takes a value. -/
def takesValue : OptionName → Bool
  | .quiet => false
  | .strict => false
  | .encode => false
  | .help => false
  | .version => false
  | _ => true

/-- The name of an option's value: its long name in capitals. -/
def valueName (o : OptionName) : String :=
  String.ofList (o.long.toList.map fun c => if c = '-' then '_' else c.toUpper)

/-- How a message names an option. -/
def title (o : OptionName) : String :=
  "--" ++ o.long ++ (if o.takesValue then " <" ++ o.valueName ++ ">" else "")

end OptionName

/-- The options that may stand in front of a subcommand and behind it. -/
def globalOptions : List OptionName := [.config, .logLevel, .logFormat, .logFile]

/-- The options that stand in front of a subcommand. -/
def rootOptions : List OptionName := globalOptions ++ [.help, .version]

/-- The options that stand behind a subcommand. -/
def Subcommand.options (sub : Subcommand) : List OptionName :=
  (match sub with
    | .generate => [.output, .seed, .testbench, .quiet]
    | .testbench => [.input, .output, .entity, .clockPeriodNs]
    | .check => [.input, .format, .strict]
    | .mutate => [.count, .seed, .encode]) ++ globalOptions ++ [.help]

/-- The options that a subcommand cannot do without. -/
def Subcommand.required : Subcommand → List OptionName
  | .testbench => [.input]
  | .check => [.input]
  | _ => []

/-! ## Faults -/

/-- Why the arguments are refused. -/
inductive UsageFault
  | unexpectedArgument (written : String)
  | unknownSubcommand (written : String)
  | missingSubcommand
  /-- A value that does not fit, with the reason if there is more to say. -/
  | invalidValue (value : String) (option : OptionName) (reason : Option String)
  | missingValue (option : OptionName)
  | surplusValue (value : String) (option : OptionName)
  | repeated (option : OptionName)
  | missingOptions (options : List OptionName)
  deriving Repr, DecidableEq

/-- The wording of refused arguments. -/
def UsageFault.message : UsageFault → String
  | .unexpectedArgument written => "unexpected argument '" ++ written ++ "' found"
  | .unknownSubcommand written => "unrecognized subcommand '" ++ written ++ "'"
  | .missingSubcommand => "'seqvec' requires a subcommand but one was not provided"
  | .invalidValue value o reason =>
    "invalid value '" ++ value ++ "' for '" ++ o.title ++ "'"
      ++ (match reason with
        | some text => ": " ++ text
        | none => "")
  | .missingValue o => "a value is required for '" ++ o.title ++ "' but none was supplied"
  | .surplusValue value o =>
    "unexpected value '" ++ value ++ "' for '--" ++ o.long ++ "' found; no more were expected"
  | .repeated o => "the argument '" ++ o.title ++ "' cannot be used multiple times"
  | .missingOptions os =>
    "the following required arguments were not provided:"
      ++ String.join (os.map fun o => "\n  " ++ o.title)

/-! ## Values -/

/-- The form of a report. -/
inductive ReportFormat
  | plain
  | json
  deriving Repr, DecidableEq

/-- What was given for an option. -/
inductive OptionValue
  | present
  | text (value : String)
  | number (value : Nat)
  | logFormat (value : LogFormat)
  | reportFormat (value : ReportFormat)
  deriving Repr, DecidableEq

namespace OptionName

/-- A whole number below `2 ^ 64`. -/
def readNumber (o : OptionName) (value : String) : Except UsageFault OptionValue :=
  match Numeral.natural (1 <<< 64) value.toList with
  | .ok n => .ok (.number n)
  | .error fault => .error (.invalidValue value o (some fault.message))

/-- A whole number below `2 ^ 32`, with a sign if need be. -/
def readShortNumber (o : OptionName) (value : String) : Except UsageFault OptionValue :=
  match Numeral.signed64 value.toList with
  | .ok n =>
    if 0 ≤ n ∧ n < 1 <<< 32 then .ok (.number n.toNat)
    else .error
      (.invalidValue value o (some (Numeral.signedText n ++ " is not in 0..=4294967295")))
  | .error fault => .error (.invalidValue value o (some fault.message))

/-- A path, which has some text. -/
def readPath (o : OptionName) (value : String) : Except UsageFault OptionValue :=
  if value.isEmpty then .error (.missingValue o) else .ok (.text value)

/-- The format of a report, by its exact name. -/
def readReportFormat (o : OptionName) (value : String) : Except UsageFault OptionValue :=
  if value = "plain" then .ok (.reportFormat .plain)
  else if value = "json" then .ok (.reportFormat .json)
  else if value.isEmpty then .error (.missingValue o)
  else .error (.invalidValue value o none)

/-- Understands what is given for an option. -/
def read (o : OptionName) (value : String) : Except UsageFault OptionValue :=
  match o with
  | .seed => o.readNumber value
  | .count => o.readNumber value
  | .clockPeriodNs => o.readShortNumber value
  | .logLevel => .ok (.text value)
  | .entity => .ok (.text value)
  | .logFormat =>
    match LogFormat.ofName? value with
    | some found => .ok (.logFormat found)
    | none => .error (.invalidValue value o (some (LogFormat.unknownMessage value)))
  | .format => o.readReportFormat value
  | _ => o.readPath value

end OptionName

end StimulusBench.Command
