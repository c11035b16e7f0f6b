import StimulusBench.Toml.Cursor

/-!
# `StimulusBench.Toml.Excerpt` — faults shown in the text

A fault is shown with the line of the text where its piece starts: the line number in a gutter, the
line itself, and carets under the piece, one for each of its bytes in that line.

## Contents
- **Lines.** `lineAt` finds the line of a byte and the place in it.
- **Excerpts.** `excerpt` shows a message with its piece of the text.
-/

namespace StimulusBench.Toml

/-! ## Lines -/

/-- A line of a text and a place in it. -/
structure LinePlace where
  /-- How many lines lie in front. -/
  line : Nat
  /-- How many characters of the line lie in front. -/
  column : Nat
  /-- The line without its line feed. -/
  content : List Char
  deriving Repr, DecidableEq

/-- The place that lies so many bytes ahead. The characters of the line so far stand in reverse
    order. -/
def placeFrom (line : Nat) (seen : List Char) : Nat → List Char → LinePlace
  | 0, cs => ⟨line, seen.length, seen.reverse ++ cs.takeWhile (· ≠ '\n')⟩
  | _, [] => ⟨line, seen.length, seen.reverse⟩
  | bytes + 1, c :: cs =>
    let left := bytes + 1 - c.utf8Size
    if c = '\n' then placeFrom (line + 1) [] left cs else placeFrom line (c :: seen) left cs

/-- The place of a byte in a text. -/
def placeAt (text : String) (offset : Nat) : LinePlace := placeFrom 0 [] offset text.toList

/-! ## Excerpts -/

/-- So many characters. -/
def repeated (n : Nat) (c : Char) : String := String.ofList (List.replicate n c)

/-- A message with the piece of the text it is about. -/
def excerpt (text : String) (span : Span) (message : String) : String :=
  let place := placeAt text span.start
  let number := Numeral.decimalText (place.line + 1)
  let gutter := repeated (number.length + 1) ' ' ++ "|"
  let bytes := (String.ofList place.content).utf8ByteSize
  let carets := max 1 (min (span.stop - span.start) (bytes - place.column))
  "TOML parse error at line " ++ number ++ ", column " ++ Numeral.decimalText (place.column + 1)
    ++ "\n" ++ gutter ++ "\n"
    ++ number ++ " | " ++ String.ofList place.content ++ "\n"
    ++ gutter ++ repeated (place.column + 1) ' ' ++ repeated carets '^' ++ "\n"
    ++ message ++ "\n"

end StimulusBench.Toml
