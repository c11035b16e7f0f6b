import StimulusBench.FileTree
import StimulusBench.Filler
import StimulusBench.Log.Setting
import StimulusBench.Toml.Excerpt
import StimulusBench.Toml.Plain
import StimulusBench.Toml.Reader

/-!
# `StimulusBench.Config` — configuration files

A configuration is a TOML document with the tables `general`, `sequence`, `generation` and `output`.
Every table and every key may be left out; a list may stand for a table and gives the values of its
keys by position. Keys that mean nothing are ignored.

## Contents
- **Settings.** `Config` and its defaults.
- **Faults.** `TypeProblem`, `SettingFault` and `ConfigFault`, each with its wording.
- **Values.** One reader per type of value; what does not fit is a `TypeFault`.
- **Tables.** `Field`, `readTable`; `Config.ofEntries` reads a whole document.
- **Checks.** `Config.validated`, `Config.references`.
- **Entry points.** `Config.ofToml` reads a text, `Config.load` a file.
-/

namespace StimulusBench

open Toml (Node Span Entries)

/-! ## Settings -/

/-- The settings of a run. -/
structure Config where
  log : LogSetting
  correct : Sequence
  sentinel : Value
  seed : Option UInt64
  /-- The bound on the fragments of a filler run. -/
  maxDraws : Nat
  outputPath : String
  deriving Repr, DecidableEq

/-- The output path unless configured otherwise. -/
def defaultOutputPath : String := "output.yaml"

/-- The settings of an empty configuration. -/
def Config.default : Config where
  log := .default
  correct := References.defaultCorrect
  sentinel := References.defaultSentinel
  seed := none
  maxDraws := Filler.defaultMaxDraws
  outputPath := defaultOutputPath

/-! ## Faults -/

/-- Why a value does not fit its key. -/
inductive TypeProblem
  | wrongType (found : Node) (expected : String)
  | outOfRange (number : Int) (expected : String)
  /-- A list for a sequence ends too early. -/
  | tooShort (length : Nat)
  | unknownFormat (name : String)
  | notAFormat
  | noFormat
  | severalFormats
  /-- The value under the name of a format is not empty. -/
  | notEmpty (kind : String)
  | notATable (kind : String)

/-- The wording of a value that does not fit. -/
def TypeProblem.message : TypeProblem → String
  | .wrongType found expected => "invalid type: " ++ found.described ++ ", expected " ++ expected
  | .outOfRange n expected =>
    "invalid value: integer `" ++ Numeral.signedText n ++ "`, expected " ++ expected
  | .tooShort length =>
    "invalid length " ++ Numeral.decimalText length ++ ", expected an array of length 5"
  | .unknownFormat name => LogFormat.unknownVariant name
  | .notAFormat => "wanted string or table"
  | .noFormat => "wanted exactly 1 element, found 0 elements"
  | .severalFormats => "wanted exactly 1 element, more than 1 element"
  | .notEmpty kind => "expected empty " ++ kind
  | .notATable kind => "expected table, found " ++ kind

/-- Why the settings of a configuration are not usable. -/
inductive SettingFault
  | noDraws
  | noOutputPath
  /-- Any other reason, in words. -/
  | other (reason : String)
  deriving Repr, DecidableEq

/-- The wording of settings that are not usable. -/
def SettingFault.message : SettingFault → String
  | .noDraws => "generation.max_idempotent_draws must be at least 1"
  | .noOutputPath => "output.path must not be empty"
  | .other reason => reason

/-- Why a configuration is refused. -/
inductive ConfigFault
  /-- The file cannot be read. -/
  | unreadable (path : String) (cause : OsFault)
  /-- The text is no TOML document. -/
  | form (text : String) (fault : Toml.SyntaxFault)
  /-- A value has the wrong type, at a piece of the text. The text may moreover be no plain
      document. -/
  | mistyped (text : String) (span : Span) (problem : TypeProblem) (plain : Bool)
  /-- The values are of the right types but not usable. -/
  | invalid (fault : SettingFault)
  /-- A sentinel value occurs in the accepted sequence. -/
  | collision (collision : Collision)

/-- The wording of a refused configuration. -/
def ConfigFault.message : ConfigFault → String
  | .unreadable path cause => "Failed to read config file " ++ path ++ ": " ++ cause.message
  | .form text fault =>
    "Failed to parse config: "
      ++ Toml.excerpt text ⟨fault.offset, fault.offset⟩ fault.reason.message
  | .mistyped text span problem _ =>
    "Failed to parse config: " ++ Toml.excerpt text span problem.message
  | .invalid fault => "Invalid config: " ++ fault.message
  | .collision c =>
    "Sentinel value " ++ Numeral.decimalText c.value.toNat
      ++ " collides with correct-sequence value at position " ++ Numeral.decimalText c.position

/-- Whether the text itself is at fault, not what it says. -/
def ConfigFault.isForm : ConfigFault → Bool
  | .form .. => true
  | .mistyped _ _ _ plain => !plain
  | _ => false

/-! ## Values -/

/-- A value that does not fit, and where it stands. -/
structure TypeFault where
  problem : TypeProblem
  span : Option Span

/-- Gives a fault without a place the place of the value around it. -/
def TypeFault.within (fault : TypeFault) (span : Option Span) : TypeFault :=
  { fault with span := fault.span <|> span }

namespace Config

/-- A value that should have been something else. -/
def wrongType {α : Type} (node : Node) (expected : String) : Except TypeFault α :=
  .error ⟨.wrongType node expected, node.span?⟩

/-- A whole number below a bound. -/
def readNatural (bound : Nat) (expected : String) : Node → Except TypeFault Nat
  | .integer span n =>
    if 0 ≤ n ∧ n < bound then .ok n.toNat else .error ⟨.outOfRange n expected, some span⟩
  | node => wrongType node expected

/-- A byte. -/
def readByte (node : Node) : Except TypeFault UInt8 :=
  (readNatural 256 "u8" node).map UInt8.ofNat

/-- A text. -/
def readText (expected : String) : Node → Except TypeFault String
  | .string _ s => .ok s
  | node => wrongType node expected

/-- A path. -/
def readPath (node : Node) : Except TypeFault String := readText "path string" node

/-- So many bytes at the front of a list, from a position on; the rest of the list is ignored. -/
def readBytes (span : Option Span) : (position left : Nat) → List Node →
    Except TypeFault (List UInt8)
  | _, 0, _ => .ok []
  | position, _ + 1, [] => .error ⟨.tooShort position, span⟩
  | position, left + 1, node :: rest => do
    let b ← (readByte node).mapError (·.within span)
    return b :: (← readBytes span (position + 1) left rest)

/-- The first five bytes of a list. -/
def readSequence (node : Node) : Except TypeFault Sequence :=
  let items? := match node with
    | .array _ items => some items
    | .tables _ items => some items
    | _ => none
  match items? with
  | none => wrongType node "an array of length 5"
  | some items => do
    let bytes ← readBytes node.span? 0 sequenceLength items
    if h : bytes.length = sequenceLength then return ⟨bytes.toArray, by simpa using h⟩
    else wrongType node "an array of length 5"

/-- A value under the name of a format, which has to be empty. -/
def readNothing : Node → Except TypeFault Unit
  | .array span items => if items.isEmpty then .ok () else .error ⟨.notEmpty "array", some span⟩
  | .tables span items => if items.isEmpty then .ok () else .error ⟨.notEmpty "array", span⟩
  | .table _ span entries => if entries.isEmpty then .ok () else .error ⟨.notEmpty "table", span⟩
  | node => .error ⟨.notATable node.typeName, node.span?⟩

/-- A log format by its exact name. -/
def readFormatName (name : String) (span : Option Span) : Except TypeFault LogFormat :=
  match LogFormat.withName? name with
  | some format => .ok format
  | none => .error ⟨.unknownFormat name, span⟩

/-- A log format by its name, or by a table with its name as the only key. -/
def readFormat : Node → Except TypeFault LogFormat
  | .string span s => readFormatName s (some span)
  | .table _ span entries =>
    match entries with
    | [] => .error ⟨.noFormat, span⟩
    | [(key, node)] => do
      let format ← readFormatName key.name (some key.span)
      readNothing node
      return format
    | _ => .error ⟨.severalFormats, span⟩
  | node => .error ⟨.notAFormat, node.span?⟩

/-! ## Tables -/

/-- A key and what its value changes. -/
structure Field where
  name : String
  read : Config → Node → Except TypeFault Config

/-- Reads the entry of a table if its key means something. -/
def readEntry (fields : List Field) (c : Config) (entry : Toml.Key × Node) :
    Except TypeFault Config :=
  match fields.find? (·.name = entry.1.name) with
  | some field =>
    (field.read c entry.2).mapError (·.within (entry.2.span? <|> some entry.1.span))
  | none => .ok c

/-- Reads the values of a list by position. -/
def readPositions (fields : List Field) (c : Config) (items : List Node) :
    Except TypeFault Config :=
  (fields.zip items).foldlM (fun c (field, node) => field.read c node) c

/-- Reads a table by its keys, or a list by position. A date is a table without a key that means
    something. -/
def readTable (expected : String) (fields : List Field) (c : Config) :
    Node → Except TypeFault Config
  | .table _ _ entries => entries.foldlM (readEntry fields) c
  | .dateTime _ => .ok c
  | .array _ items => readPositions fields c items
  | .tables _ items => readPositions fields c items
  | node => wrongType node expected

/-- The keys of the table `general`. -/
def generalFields : List Field :=
  [⟨"log_level", fun c node => do
      return { c with log := { c.log with level := ← readText "a string" node } }⟩,
    ⟨"log_format", fun c node => do
      return { c with log := { c.log with format := ← readFormat node } }⟩,
    ⟨"log_file", fun c node => do
      return { c with log := { c.log with file := some (← readPath node) } }⟩]

/-- The keys of the table `sequence`. -/
def sequenceFields : List Field :=
  [⟨"correct", fun c node => return { c with correct := ← readSequence node }⟩,
    ⟨"sentinel", fun c node => return { c with sentinel := ← readByte node }⟩]

/-- The keys of the table `generation`. -/
def generationFields : List Field :=
  [⟨"seed", fun c node => do
      return { c with seed := some (UInt64.ofNat (← readNatural (1 <<< 64) "u64" node)) }⟩,
    ⟨"max_idempotent_draws", fun c node =>
      return { c with maxDraws := ← readNatural (1 <<< 64) "usize" node }⟩]

/-- The keys of the table `output`. -/
def outputFields : List Field :=
  [⟨"path", fun c node => return { c with outputPath := ← readPath node }⟩]

/-- The tables of a configuration. -/
def tableFields : List Field :=
  [⟨"general", readTable "struct GeneralConfig" generalFields⟩,
    ⟨"sequence", readTable "struct SequenceConfig" sequenceFields⟩,
    ⟨"generation", readTable "struct GenerationConfig" generationFields⟩,
    ⟨"output", readTable "struct OutputConfig" outputFields⟩]

/-- The settings of a document; keys that are missing keep their defaults. The first value of a
    wrong type is reported. -/
def ofEntries (entries : Entries) : Except TypeFault Config :=
  entries.foldlM (readEntry tableFields) Config.default

/-! ## Checks -/

/-- The reference pair of a configuration. -/
def references (c : Config) : Except ConfigFault References :=
  (References.ofValue c.correct c.sentinel).mapError .collision

/-- The settings themselves if they are usable. -/
def validated (c : Config) : Except ConfigFault Config := do
  if c.maxDraws = 0 then throw (.invalid .noDraws)
  if c.outputPath = "" then throw (.invalid .noOutputPath)
  let _ ← c.references
  return c

/-! ## Entry points -/

/-- The settings that a configuration text gives. -/
def ofToml (text : String) : Except ConfigFault Config := do
  let entries ← (Entries.ofText text).mapError (.form text)
  let c ← (ofEntries entries).mapError fun fault =>
    .mistyped text (fault.span.getD ⟨0, 0⟩) fault.problem entries.isPlain
  c.validated

/-- The settings that a configuration file gives. -/
def load [WorkingDirectory] (files : FileTree) (path : String) : Except ConfigFault Config := do
  let text ← (files.read path).mapError (.unreadable path)
  ofToml text

end Config

end StimulusBench
