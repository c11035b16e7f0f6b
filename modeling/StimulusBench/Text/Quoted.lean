import StimulusBench.Number.Numeral
import StimulusBench.Text.Unprintable

/-!
# `StimulusBench.Text.Quoted` — text between double quotes

How a message shows a piece of text it talks about: between double quotes, with everything that a
reader could not see written as an escape.

## Contents
- **Characters.** `Quoted.escape` writes one character.
- **Texts.** `Quoted.text` writes a whole text.
-/

namespace StimulusBench.Quoted

/-- One character inside double quotes. -/
def escape (c : Char) : List Char :=
  if c = '\x00' then ['\\', '0']
  else if c = '\t' then ['\\', 't']
  else if c = '\r' then ['\\', 'r']
  else if c = '\n' then ['\\', 'n']
  else if c = '\\' then ['\\', '\\']
  else if c = '\x22' then ['\\', '\x22']
  else if isUnprintable c then ['\\', 'u', '\x7b'] ++ Numeral.hexadecimal c.toNat ++ ['\x7d']
  else [c]

/-- A text between double quotes. -/
def text (s : String) : String :=
  String.ofList ('\x22' :: s.toList.flatMap escape ++ ['\x22'])

end StimulusBench.Quoted
