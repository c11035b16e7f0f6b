import StimulusBench.Document
import StimulusBench.Json.Reader

/-!
# `StimulusBench.Json.Reading` — corpora in JSON texts

A corpus is read from a JSON text entry by entry. A list that cannot be an entry is found out as
soon as it has been read; the fault is reported where the reader stands after it has tried to close
the list at the top.

## Contents
- **Faults.** `TextFault`, its wording, and `Located`, a fault with its position.
- **Entries.** `entries` reads the items of the list at the top.
- **Entry point.** `Corpus.ofJsonText`.
-/

namespace StimulusBench.Json

/-! ## Faults -/

/-- Why a JSON text holds no corpus. -/
inductive TextFault
  /-- The text is no JSON text. -/
  | form (problem : Problem)
  /-- The text holds something else. -/
  | tree (fault : JsonTreeFault)

/-- The wording of a text that holds no corpus. -/
def TextFault.message : TextFault → String
  | .form problem => problem.message
  | .tree fault => fault.message

/-- A fault and the position it is reported at. -/
structure Located where
  fault : TextFault
  position : Position

/-- The wording of a fault with its position. -/
def Located.message (l : Located) : String :=
  l.fault.message ++ " at line " ++ Numeral.decimalText l.position.line ++ " column "
    ++ Numeral.decimalText l.position.column

/-- A fault in the form of a text, at its position. -/
def Fault.located (fault : Fault) : Located := ⟨.form fault.problem, fault.position⟩

/-! ## Entries -/

namespace Cursor

/-- Where the reader stands after it has tried to close a list. -/
def afterClosing (cur : Cursor) : Position :=
  match closeList cur with
  | .ok cur => cur.position
  | .error (_, cur) => cur.position

/-- The entries of a corpus up to the closing bracket of its list, which stays ahead. -/
def entries (size : Nat) : Nat → Bool → List Stimulus → Cursor → Except Located (List Stimulus × Cursor)
  | 0, _, _, cur => .error ⟨.form .endInList, cur.position⟩
  | fuel + 1, first, acc, cur => do
    let (more, cur) ← (hasItem first cur).mapError Fault.located
    if more then
      let (v, cur) ← (value size (maxDepth - 1) cur).mapError Fault.located
      match Stimulus.ofContent (.ofJson v) with
      | some entry => entries size fuel false (entry :: acc) cur
      | none => throw ⟨.tree (.content (.shape .stimulus)), cur.afterClosing⟩
    else return (acc.reverse, cur)

/-- The fault of a text that does not begin with a list. An object is not looked into. -/
def notAList (size : Nat) (cur : Cursor) : Located :=
  match cur.rest with
  | '\x7b' :: _ => ⟨.tree (.notAList (.object [])), cur.position⟩
  | _ =>
    match scalar size cur with
    | .ok (v, cur) => ⟨.tree (.notAList v), cur.position⟩
    | .error fault => fault.located

end Cursor

end StimulusBench.Json

namespace StimulusBench

open Json in
/-- The corpus that a JSON text holds. -/
def Corpus.ofJsonText (text : String) : Except Located Corpus := do
  let size := text.length + 1
  let cur := (Cursor.start text.toList).skipBlanks
  match cur.rest with
  | '[' :: cs =>
    let (entries, cur) ← Cursor.entries size size true [] (cur.skip '[' cs)
    let cur := (cur.skip ']' (cur.rest.drop 1)).skipBlanks
    match cur.rest with
    | [] => return ⟨entries⟩
    | _ => throw ⟨.form .trailingCharacters, cur.ahead⟩
  | _ => throw (cur.notAList size)

end StimulusBench
