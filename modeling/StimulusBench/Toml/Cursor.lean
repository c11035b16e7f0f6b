import StimulusBench.Number.Numeral

/-!
# `StimulusBench.Toml.Cursor` — a place in a TOML text

What is left of the text and how many bytes lie in front of it, the classes of characters that
decide where lines and words end, and what can be wrong with a text.

## Contents
- **Places.** `Span`, `Cursor`.
- **Faults.** `Reason`, its wording, and `SyntaxFault`, a reason at a place.
- **Blanks and lines.** `blanks`, `newline?`, `lineEnd`, `gap`.
-/

namespace StimulusBench.Toml

/-! ## Places -/

/-- A piece of the text, by the bytes in front of its start and of its end. -/
structure Span where
  start : Nat
  stop : Nat
  deriving Repr, DecidableEq

/-- What is left of a text and how many bytes lie in front of it. -/
structure Cursor where
  rest : List Char
  offset : Nat
  deriving Repr, DecidableEq

namespace Cursor

/-- The start of a text. A byte order mark in front is skipped. -/
def start (text : List Char) : Cursor :=
  match text with
  | [] => ⟨[], 0⟩
  | c :: cs => if c = '\uFEFF' then ⟨cs, c.utf8Size⟩ else ⟨text, 0⟩

/-- Past the character ahead, given what follows it. -/
def skip (cur : Cursor) (c : Char) (rest : List Char) : Cursor := ⟨rest, cur.offset + c.utf8Size⟩

/-- The span from an earlier cursor to this one. -/
def spanFrom (cur earlier : Cursor) : Span := ⟨earlier.offset, cur.offset⟩

end Cursor

/-! ## Faults -/

/-- What can be wrong with a text. -/
inductive Reason
  | expectedKey
  | expectedEquals
  | expectedValue
  | expectedLineEnd
  | expectedBracket
  | expectedBrace
  | controlCharacter
  | unclosedString
  | invalidEscape
  | numberOutOfRange
  | duplicateKey
  | nestedTooDeep
  deriving Repr, DecidableEq

/-- The wording of what is wrong. -/
def Reason.message : Reason → String
  | .expectedKey => "invalid key"
  | .expectedEquals => "expected `.`, `=`"
  | .expectedValue => "invalid value"
  | .expectedLineEnd => "expected newline, `#`"
  | .expectedBracket => "expected `]`"
  | .expectedBrace => "expected `\x7d`"
  | .controlCharacter => "invalid character"
  | .unclosedString => "invalid string"
  | .invalidEscape => "invalid escape sequence"
  | .numberOutOfRange => "number out of range"
  | .duplicateKey => "duplicate key"
  | .nestedTooDeep => "recursion limit exceeded"

/-- What is wrong with a text, and how many bytes lie in front of it. -/
structure SyntaxFault where
  reason : Reason
  offset : Nat
  deriving Repr, DecidableEq

/-- A fault at the cursor. -/
def Cursor.fault {α : Type} (cur : Cursor) (reason : Reason) : Except SyntaxFault α :=
  .error ⟨reason, cur.offset⟩

/-! ## Blanks and lines -/

/-- A blank inside a line. -/
def isBlank (c : Char) : Bool := c = ' ' || c = '\t'

/-- A character of a comment: no control character but the tab. -/
def isText (c : Char) : Bool :=
  c = '\t' || (0x20 ≤ c.toNat && c.toNat ≤ 0x7E) || 0x80 ≤ c.toNat

/-- The characters ahead that satisfy a condition, and the cursor behind them. -/
def takeFrom (keep : Char → Bool) : List Char → Nat → List Char × Cursor
  | [], offset => ([], ⟨[], offset⟩)
  | c :: cs, offset =>
    if keep c then
      let (taken, behind) := takeFrom keep cs (offset + c.utf8Size)
      (c :: taken, behind)
    else ([], ⟨c :: cs, offset⟩)

/-- The characters ahead that satisfy a condition, and the cursor behind them. -/
def Cursor.take (cur : Cursor) (keep : Char → Bool) : List Char × Cursor :=
  takeFrom keep cur.rest cur.offset

/-- Past the blanks ahead. -/
def Cursor.blanks (cur : Cursor) : Cursor := (cur.take isBlank).2

/-- Past the line break ahead. -/
def Cursor.newline? (cur : Cursor) : Option Cursor :=
  match cur.rest with
  | '\n' :: cs => some (cur.skip '\n' cs)
  | '\r' :: '\n' :: cs => some ⟨cs, cur.offset + 2⟩
  | _ => none

/-- Past the comment ahead, if there is one. -/
def Cursor.comment (cur : Cursor) : Cursor :=
  match cur.rest with
  | '#' :: cs => ((cur.skip '#' cs).take isText).2
  | _ => cur

/-- Past the end of the line, with blanks and a comment in front of it. -/
def Cursor.lineEnd (cur : Cursor) : Except SyntaxFault Cursor :=
  let cur := cur.blanks.comment
  match cur.newline? with
  | some behind => .ok behind
  | none => if cur.rest.isEmpty then .ok cur else cur.fault .expectedLineEnd

/-- Past blanks, line breaks and whole comments. -/
def gapFrom : (comment : Bool) → List Char → Nat → Except SyntaxFault Cursor
  | false, [], offset => .ok ⟨[], offset⟩
  | true, [], offset => .error ⟨.expectedLineEnd, offset⟩
  | _, '\r' :: '\n' :: cs, offset => gapFrom false cs (offset + 2)
  | comment, c :: cs, offset =>
    if c = '\n' then gapFrom false cs (offset + 1)
    else if comment then
      if isText c then gapFrom true cs (offset + c.utf8Size)
      else .error ⟨.controlCharacter, offset⟩
    else if isBlank c then gapFrom false cs (offset + 1)
    else if c = '#' then gapFrom true cs (offset + 1)
    else .ok ⟨c :: cs, offset⟩

/-- Past blanks, line breaks and whole comments. -/
def Cursor.gap (cur : Cursor) : Except SyntaxFault Cursor := gapFrom false cur.rest cur.offset

end StimulusBench.Toml
