/-!
# `StimulusBench.Json.Cursor` — a place in a JSON text

What is left of the text, and where that is: the line from 1, and the number of bytes since the
line began. A fault is reported either at the cursor or just past the byte that lies ahead.

## Contents
- **Places.** `Position`, `Cursor`, `Cursor.skip`, `Cursor.skipBlanks`.
- **Faults.** `Problem`, its wording, and `Fault`, a problem at a position.
-/

namespace StimulusBench.Json

/-- A line, from 1, and the number of bytes since it began. -/
structure Position where
  line : Nat
  column : Nat
  deriving Repr, DecidableEq

/-- What can be wrong with a JSON text. -/
inductive Problem
  | endInList
  | endInObject
  | endInString
  | endInValue
  | expectedColon
  | expectedListCommaOrEnd
  | expectedObjectCommaOrEnd
  | expectedIdent
  | expectedValue
  | invalidEscape
  | invalidNumber
  | numberOutOfRange
  | controlCharacter
  | keyMustBeString
  | loneSurrogate
  | trailingComma
  | trailingCharacters
  | endOfHexEscape
  | recursionLimit
  deriving Repr, DecidableEq

/-- The wording of a problem. -/
def Problem.message : Problem → String
  | .endInList => "EOF while parsing a list"
  | .endInObject => "EOF while parsing an object"
  | .endInString => "EOF while parsing a string"
  | .endInValue => "EOF while parsing a value"
  | .expectedColon => "expected `:`"
  | .expectedListCommaOrEnd => "expected `,` or `]`"
  | .expectedObjectCommaOrEnd => "expected `,` or `\x7d`"
  | .expectedIdent => "expected ident"
  | .expectedValue => "expected value"
  | .invalidEscape => "invalid escape"
  | .invalidNumber => "invalid number"
  | .numberOutOfRange => "number out of range"
  | .controlCharacter => "control character (\\u0000-\\u001F) found while parsing a string"
  | .keyMustBeString => "key must be a string"
  | .loneSurrogate => "lone leading surrogate in hex escape"
  | .trailingComma => "trailing comma"
  | .trailingCharacters => "trailing characters"
  | .endOfHexEscape => "unexpected end of hex escape"
  | .recursionLimit => "recursion limit exceeded"

/-- A problem and the position it is reported at. -/
structure Fault where
  problem : Problem
  position : Position
  deriving Repr, DecidableEq

/-- What is left of a text and where that is. -/
structure Cursor where
  rest : List Char
  position : Position
  deriving Repr

namespace Cursor

/-- The start of a text. -/
def start (text : List Char) : Cursor := ⟨text, ⟨1, 0⟩⟩

/-- The position after a character. -/
def after (p : Position) (c : Char) : Position :=
  if c = '\n' then ⟨p.line + 1, 0⟩ else ⟨p.line, p.column + c.utf8Size⟩

/-- Past the character ahead, given what follows it. -/
def skip (cur : Cursor) (c : Char) (rest : List Char) : Cursor := ⟨rest, after cur.position c⟩

/-- The position so many bytes further, which may lie inside a character; at most the end of the
    text. -/
def afterBytes (count : Nat) : List Char → Position → Position
  | [], p => p
  | c :: cs, p =>
    if count < c.utf8Size then ⟨p.line, p.column + count⟩
    else afterBytes (count - c.utf8Size) cs (after p c)

/-- The position just past the byte ahead; at the end of the text, the end. -/
def ahead (cur : Cursor) : Position := afterBytes 1 cur.rest cur.position

/-- A fault at the cursor. -/
def fault {α : Type} (cur : Cursor) (problem : Problem) : Except Fault α :=
  .error ⟨problem, cur.position⟩

/-- A fault just past the byte ahead. -/
def faultAhead {α : Type} (cur : Cursor) (problem : Problem) : Except Fault α :=
  .error ⟨problem, cur.ahead⟩

/-- Whether a character is blank between JSON tokens. -/
def isBlank (c : Char) : Bool := c = ' ' || c = '\n' || c = '\t' || c = '\r'

/-- Past the blanks ahead of a position. -/
def blanksFrom : List Char → Position → Cursor
  | [], p => ⟨[], p⟩
  | c :: cs, p => if isBlank c then blanksFrom cs (after p c) else ⟨c :: cs, p⟩

/-- Past the blanks ahead. -/
def skipBlanks (cur : Cursor) : Cursor := blanksFrom cur.rest cur.position

end Cursor

end StimulusBench.Json
