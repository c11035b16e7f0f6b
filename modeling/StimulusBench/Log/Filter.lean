import StimulusBench.Log.Event

/-!
# `StimulusBench.Log.Filter` — which events are logged

A filter is a list of directives, each a threshold for the events of a target. A directive may also ask
for a span that the events are in, or for a field that they have. No event here is in a span or has the
value of a field looked at, so that a directive with a span or with a condition on a value decides nothing.
Of the others that cover an event the most specific one decides: the one with the longest target, then one
that asks for a field. An event that none of them covers is not logged.

## Contents
- **Thresholds.** `thresholdOf?` reads a level.
- **Directives.** `LogDirective`, `LogDirective.ofText?`.
- **Filters.** `LogFilter.ofText?` reads a comma-separated list; `LogFilter.admits`.
-/

namespace StimulusBench

/-- What reading a filter takes from elsewhere: the letters and digits beyond ASCII, and the patterns
    that the value of a field can be matched with. -/
class FilterDialect where
  isLetter : Char → Bool
  isPattern : String → Bool

/-- Every character beyond ASCII is a letter, and every text is a pattern. -/
instance (priority := low) FilterDialect.lenient : FilterDialect := ⟨fun _ => true, fun _ => true⟩

/-! ## Thresholds -/

/-- The least important level that is logged; none logs nothing. -/
abbrev Threshold := Option LogLevel

/-- The threshold of a number, which may have a plus sign and zeros in front. -/
def thresholdOfNumber? (s : String) : Option Threshold :=
  let digits := match s.toList with
    | '+' :: digits => digits
    | digits => digits
  if digits.isEmpty || !digits.all Char.isDigit then none
  else match digits.dropWhile (· = '0') with
    | [] => some none
    | ['1'] => some (some .error)
    | ['2'] => some (some .warn)
    | ['3'] => some (some .info)
    | ['4'] => some (some .debug)
    | ['5'] => some (some .trace)
    | _ => none

/-- The threshold that a number or a name stands for. -/
def thresholdOf? (s : String) : Option Threshold :=
  thresholdOfNumber? s <|>
    match lowered s with
    | "off" => some none
    | "error" => some (some .error)
    | "warn" => some (some .warn)
    | "info" => some (some .info)
    | "debug" => some (some .debug)
    | "trace" => some (some .trace)
    | _ => none

/-! ## Directives -/

/-- A threshold for the events of a target; without a target, for all events. -/
structure LogDirective where
  target : Option String
  /-- The span that events have to be in. -/
  span : Option String
  /-- The field that events have to have, and the pattern for its value. -/
  field : Option (String × Option String)
  threshold : Threshold
  deriving Repr, DecidableEq

namespace LogDirective

/-- The directive of a threshold alone. -/
def ofThreshold (threshold : Threshold) : LogDirective := ⟨none, none, none, threshold⟩

/-! ### Reading -/

section Reading

variable [FilterDialect]

/-- A character that a directive can begin with, unless it begins with a bracket. -/
def isStart (c : Char) : Bool :=
  c = '-' || c = ':' || c = '_' || c.isAlphanum || 0x80 ≤ c.toNat && FilterDialect.isLetter c

/-- White space. -/
def isSpace (c : Char) : Bool :=
  let n := c.toNat
  (9 ≤ n && n ≤ 13) || (0x2000 ≤ n && n ≤ 0x200a) ||
    [0x20, 0x85, 0xa0, 0x1680, 0x2028, 0x2029, 0x202f, 0x205f, 0x3000].contains n

/-- Characters, each with the number of bytes in front of it. -/
abbrev Marked := List (Nat × Char)

/-- The characters of a text, the first of them after so many bytes. -/
def markedFrom (offset : Nat) : List Char → Marked
  | [] => []
  | c :: cs => (offset, c) :: markedFrom (offset + c.utf8Size) cs

/-- A text without the white space around it. The bytes are counted from the first character left. -/
def trimmed (piece : String) : Marked :=
  markedFrom 0 ((piece.toList.dropWhile isSpace).reverse.dropWhile isSpace).reverse

/-- The characters behind the first so many bytes; none if one of them would be cut. -/
def dropBytes? : Nat → List Char → Option (List Char)
  | 0, cs => some cs
  | _ + 1, [] => none
  | n + 1, c :: cs => if n + 1 < c.utf8Size then none else dropBytes? (n + 1 - c.utf8Size) cs

/-- The bytes of a text from one number of them to another. -/
def cut? (piece : String) (start stop : Nat) : Option String := do
  let front ← dropBytes? start piece.toList
  let behind ← dropBytes? (stop - start) front
  return String.ofList (front.take (front.length - behind.length))

/-- The threshold behind an equals sign; if there is nothing, everything is logged. -/
def thresholdFrom? (piece : String) (start : Nat) : Option Threshold := do
  match ← cut? piece start piece.utf8ByteSize with
  | "" => return some .trace
  | level => thresholdOf? level

/-- What follows the brackets of a directive: nothing, or a threshold. -/
def afterBrackets? (piece : String) : Marked → Option Threshold
  | [] => some (some .trace)
  | (i, '=') :: _ => thresholdFrom? piece (i + 1)
  | _ => none

/-- A field with a pattern for its value, if there is an equals sign. -/
def fieldOf? (text : String) : Option (String × Option String) :=
  let name := text.toList.takeWhile (· ≠ '=')
  match text.toList.drop name.length with
  | [] => some (text, none)
  | _ :: rest =>
    let pattern := String.ofList (rest.takeWhile (· ≠ '='))
    if FilterDialect.isPattern pattern then some (String.ofList name, some pattern) else none

/-- The field of a directive with the brackets that end behind it. -/
def inBraces? (piece : String) (target span : Option String) (start : Nat) (ahead : Marked) :
    Option LogDirective := do
  match ahead.dropWhile (·.2 ≠ '}') with
  | (stop, _) :: (_, ']') :: rest =>
    let text ← cut? piece start stop
    if text.isEmpty then none
    else return ⟨target, span, some (← fieldOf? text), ← afterBrackets? piece rest⟩
  | _ => none

/-- The span of a directive, and what follows it. -/
def inBrackets? (piece : String) (target : Option String) (start : Nat) (ahead : Marked) :
    Option LogDirective := do
  match ahead.dropWhile fun m => m.2 ≠ ']' && m.2 ≠ '{' with
  | (stop, ']') :: rest => return ⟨target, some (← cut? piece start stop), none, ← afterBrackets? piece rest⟩
  | (stop, '{') :: rest =>
    let span ← cut? piece start stop
    inBraces? piece target (if span.isEmpty then none else some span) (stop + 1) rest
  | _ => none

/-- A directive: a threshold, or a target with a span and a field in brackets and a threshold. The white
    space around it is passed over, but the bytes that its parts are cut from are counted with it. -/
def ofText? (piece : String) : Option LogDirective := do
  match trimmed piece with
  | [] => none
  | (start, c) :: rest =>
    if c = '[' then inBrackets? piece none (start + 1) rest
    else if !isStart c then none
    else match rest.dropWhile fun m => m.2 ≠ '=' && m.2 ≠ '[' with
      | [] =>
        let text ← cut? piece start piece.utf8ByteSize
        match thresholdOf? text with
        | some threshold => return .ofThreshold threshold
        | none => return ⟨some text, none, none, some .trace⟩
      | (stop, sign) :: behind =>
        let target ← cut? piece start stop
        if sign = '=' then return ⟨some target, none, none, ← thresholdFrom? piece (stop + 1)⟩
        else inBrackets? piece (some target) (stop + 1) behind

end Reading

/-! ### Events -/

/-- Whether a directive covers an event. -/
def covers (d : LogDirective) (e : LogEvent) : Bool :=
  d.span.isNone && d.target.all (fun t => t.toList.isPrefixOf e.target.toList) &&
    d.field.all fun (name, pattern) => pattern.isNone && ("message" :: e.fields.map (·.1)).contains name

/-- Whether another directive for the same event is as specific as this one, or more. -/
def atMost (d d' : LogDirective) : Bool :=
  let size (target : Option String) := (target.map (·.utf8ByteSize + 1)).getD 0
  if size d.target = size d'.target then
    match d.field, d'.field with
    | none, _ => true
    | some _, none => false
    | some (name, _), some (name', _) => name ≤ name'
  else size d.target < size d'.target

end LogDirective

/-! ## Filters -/

/-- Directives; of two that are alike the later one counts. -/
abbrev LogFilter := List LogDirective

namespace LogFilter

/-- Everything from a level on. -/
def ofLevel (level : LogLevel) : LogFilter := [.ofThreshold (some level)]

/-- The pieces of a text between commas. -/
def splitCommas : List Char → List (List Char)
  | [] => [[]]
  | c :: cs =>
    if c = ',' then [] :: splitCommas cs
    else match splitCommas cs with
      | piece :: pieces => (c :: piece) :: pieces
      | [] => [[c]]

/-- The filter that a text spells. One without directives logs errors only. -/
def ofText? [FilterDialect] (s : String) : Option LogFilter := do
  let pieces := (splitCommas s.toList).filter (!·.isEmpty)
  let directives ← pieces.mapM fun piece => LogDirective.ofText? (String.ofList piece)
  return if directives.isEmpty then ofLevel .error else directives

/-- The directive that decides about an event: the most specific one, a later one among equals. -/
def decisive? (filter : LogFilter) (e : LogEvent) : Option LogDirective :=
  filter.foldl (fun best d => if d.covers e && best.all (·.atMost d) then some d else best) none

/-- Whether an event is logged. -/
def admits (filter : LogFilter) (e : LogEvent) : Bool :=
  match (filter.decisive? e).bind (·.threshold) with
  | some least => least.rank ≤ e.level.rank
  | none => false

end LogFilter

end StimulusBench
