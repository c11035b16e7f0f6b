import StimulusBench.Number.Numeral

/-!
# `StimulusBench.Yaml.Cursor` — a place in a YAML text

What is left of the text and where that is, in characters; the classes of characters that decide
where words and lines end; and what can be wrong with the form of a text.

## Contents
- **Characters.** `isBlank`, `isBreak`, `wordEnds`, `isAllowed`.
- **Places.** `Mark`, `Cursor`.
- **Faults.** `Problem`, its wording, and `Fault`, a problem at a mark.
-/

namespace StimulusBench.Yaml

/-! ## Characters -/

/-- A blank inside a line. -/
def isBlank (c : Char) : Bool := c = ' ' || c = '\t'

/-- A line break: carriage return, line feed, next line, line separator, paragraph separator. -/
def isBreak (c : Char) : Bool :=
  c = '\n' || c = '\r' || c = '\u0085' || c = '\u2028' || c = '\u2029'

/-- What a line break means inside a scalar: the two separators stand for themselves, every other
    break is a line feed. -/
def breakChar (c : Char) : Char := if c = '\u2028' || c = '\u2029' then c else '\n'

/-- Whether a word ends here: at a blank, a line break or the end of the text. -/
def wordEnds : List Char → Bool
  | [] => true
  | c :: _ => isBlank c || isBreak c

/-- Whether a line ends here. -/
def lineEnds : List Char → Bool
  | [] => true
  | c :: _ => isBreak c

/-- Characters of anchors, directive names and tag handles. -/
def isWordChar (c : Char) : Bool :=
  ('0' ≤ c && c ≤ '9') || ('A' ≤ c && c ≤ 'Z') || ('a' ≤ c && c ≤ 'z') || c = '_' || c = '-'

/-- Whether a character may stand in a text at all: control characters may not, apart from tab and
    the line breaks. -/
def isAllowed (c : Char) : Bool :=
  let n := c.toNat
  n = 0x09 || n = 0x0A || n = 0x0D || (0x20 ≤ n && n ≤ 0x7E) || n = 0x85
    || (0xA0 ≤ n && n ≤ 0xD7FF) || (0xE000 ≤ n && n ≤ 0xFFFD) || 0x10000 ≤ n

/-- The byte order mark. -/
def byteOrderMark : Char := '\uFEFF'

/-! ## Places -/

/-- A position: the characters before it in the text, the lines before it, and the characters before
    it in its line. -/
structure Mark where
  index : Nat
  line : Nat
  column : Nat
  deriving Repr, DecidableEq

namespace Mark

/-- The start of a text. -/
def start : Mark := ⟨0, 0, 0⟩

/-- So many characters further in the same line. -/
def forward (m : Mark) (n : Nat) : Mark := ⟨m.index + n, m.line, m.column + n⟩

/-- Past one character in the same line. -/
def next (m : Mark) : Mark := m.forward 1

/-- Past a line break of so many characters. -/
def newLine (m : Mark) (n : Nat) : Mark := ⟨m.index + n, m.line + 1, 0⟩

/-- The mark in words, counted from 1. -/
def text (m : Mark) : String :=
  "line " ++ Numeral.decimalText (m.line + 1) ++ " column " ++ Numeral.decimalText (m.column + 1)

end Mark

/-- What is left of a text and where that is. -/
structure Cursor where
  chars : List Char
  mark : Mark
  deriving Repr, DecidableEq

/-! ## Faults -/

/-- What can be wrong with the form of a text. -/
inductive Problem
  | controlCharacter
  | expectedColon
  | entriesNotAllowed
  | keysNotAllowed
  | valuesNotAllowed
  | cannotStartToken
  | unknownDirective
  | expectedDirectiveName
  | expectedDirectiveEnd
  | expectedVersion
  | longVersion
  | expectedBang
  | expectedUri
  | uriEscape
  | expectedAngle
  | expectedTagEnd
  | expectedAnchor
  | zeroIndentation
  | expectedHeaderEnd
  | tabIndentation
  | documentIndicator
  | endInQuotes
  | unknownEscape
  | hexEscape
  | escapedCodePoint
  | unexpectedColon
  | expectedDocumentStart
  | duplicateVersion
  | incompatibleVersion
  | duplicateHandle
  | undefinedHandle
  | expectedContent
  | expectedDash
  | expectedKey
  | expectedListEnd
  | expectedMappingEnd
  | truncated
  deriving Repr, DecidableEq

/-- The wording of a problem. -/
def Problem.message : Problem → String
  | .controlCharacter => "control characters are not allowed"
  | .expectedColon => "could not find expected ':'"
  | .entriesNotAllowed => "block sequence entries are not allowed in this context"
  | .keysNotAllowed => "mapping keys are not allowed in this context"
  | .valuesNotAllowed => "mapping values are not allowed in this context"
  | .cannotStartToken => "found character that cannot start any token"
  | .unknownDirective => "found unknown directive name"
  | .expectedDirectiveName => "could not find expected directive name"
  | .expectedDirectiveEnd => "did not find expected comment or line break"
  | .expectedVersion => "did not find expected version number"
  | .longVersion => "found extremely long version number"
  | .expectedBang => "did not find expected '!'"
  | .expectedUri => "did not find expected tag URI"
  | .uriEscape => "did not find URI escaped octet"
  | .expectedAngle => "did not find the expected '>'"
  | .expectedTagEnd => "did not find expected whitespace or line break"
  | .expectedAnchor => "did not find expected alphabetic or numeric character"
  | .zeroIndentation => "found an indentation indicator equal to 0"
  | .expectedHeaderEnd => "did not find expected comment or line break"
  | .tabIndentation => "found a tab character that violates indentation"
  | .documentIndicator => "found unexpected document indicator"
  | .endInQuotes => "found unexpected end of stream"
  | .unknownEscape => "found unknown escape character"
  | .hexEscape => "did not find expected hexadecimal number"
  | .escapedCodePoint => "found invalid Unicode character escape code"
  | .unexpectedColon => "found unexpected ':'"
  | .expectedDocumentStart => "did not find expected <document start>"
  | .duplicateVersion => "found duplicate %YAML directive"
  | .incompatibleVersion => "found incompatible YAML document"
  | .duplicateHandle => "found duplicate %TAG directive"
  | .undefinedHandle => "found undefined tag handle"
  | .expectedContent => "did not find expected node content"
  | .expectedDash => "did not find expected '-' indicator"
  | .expectedKey => "did not find expected key"
  | .expectedListEnd => "did not find expected ',' or ']'"
  | .expectedMappingEnd => "did not find expected ',' or '\x7d'"
  | .truncated => "found unexpected end of tokens"

/-- A problem and the mark it is reported at. -/
structure Fault where
  problem : Problem
  mark : Mark
  deriving Repr, DecidableEq

/-- A problem with its position, which is left out at the very start of the text. -/
def Fault.message (f : Fault) : String :=
  if f.mark.line = 0 ∧ f.mark.column = 0 then f.problem.message
  else f.problem.message ++ " at " ++ f.mark.text

end StimulusBench.Yaml
