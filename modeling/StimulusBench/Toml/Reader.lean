import StimulusBench.Toml.Scalar
import StimulusBench.Toml.Table

/-!
# `StimulusBench.Toml.Reader` — TOML texts

Reading a whole text: its statements one after the other, and the values behind the equals signs.

## Contents
- **Keys.** `simpleKey`, `dottedKey`.
- **Values.** `value` reads one value, at most `depth` brackets and braces deep.
- **Texts.** `Entries.ofText`.
-/

namespace StimulusBench.Toml

/-! ## Keys -/

/-- A character of a key without quotes. -/
def isKeyChar (c : Char) : Bool :=
  ('A' ≤ c && c ≤ 'Z') || ('a' ≤ c && c ≤ 'z') || ('0' ≤ c && c ≤ '9') || c = '-' || c = '_'

/-- One name of a key. -/
def simpleKey (cur : Cursor) : Except SyntaxFault (Key × Cursor) :=
  match cur.rest with
  | '\x22' :: cs => do
    let (name, behind) ← basicString (cur.skip '\x22' cs)
    return (⟨name, behind.spanFrom cur⟩, behind)
  | '\'' :: cs => do
    let (name, behind) ← literalString (cur.skip '\'' cs)
    return (⟨name, behind.spanFrom cur⟩, behind)
  | _ =>
    let (name, behind) := cur.take isKeyChar
    if name.isEmpty then cur.fault .expectedKey
    else .ok (⟨String.ofList name, behind.spanFrom cur⟩, behind)

/-- The names of a dotted key with the blanks around them, the last one first, put in front of the
    names so far. The fuel counts characters. -/
def dottedNames : Nat → List Key → Cursor → Except SyntaxFault (List Key × Cursor)
  | 0, _, cur => cur.fault .expectedKey
  | fuel + 1, acc, cur => do
    let (key, behind) ← simpleKey cur.blanks
    let behind := behind.blanks
    match behind.rest with
    | '.' :: cs => dottedNames fuel (key :: acc) (behind.skip '.' cs)
    | _ => return (key :: acc, behind)

/-- Keys with this many names, and values this deep, are refused. -/
def depthLimit : Nat := 80

/-- A dotted key: the names that lead to it, its last name, and the cursor behind it. -/
def dottedKey (cur : Cursor) : Except SyntaxFault (List Key × Key × Cursor) := do
  let (names, behind) ← dottedNames (cur.rest.length + 1) [] cur
  if depthLimit ≤ names.length then throw ⟨.nestedTooDeep, cur.offset⟩
  match names with
  | [] => throw ⟨.expectedKey, cur.offset⟩
  | key :: path => return (path.reverse, key, behind)

/-! ## Values -/

/-- A reader of one value. -/
abbrev ReadsNode := Cursor → Except SyntaxFault (Node × Cursor)

/-- Behind an item of a list: past a comma, and whether there was one. -/
def comma (cur : Cursor) : Bool × Cursor :=
  match cur.rest with
  | ',' :: cs => (true, cur.skip ',' cs)
  | _ => (false, cur)

/-- The items of a list up to its closing bracket, which stays ahead. A comma may follow the last
    one. The fuel counts characters. -/
def arrayItems (read : ReadsNode) :
    Nat → List Node → Cursor → Except SyntaxFault (List Node × Cursor)
  | 0, _, cur => cur.fault .expectedBracket
  | fuel + 1, acc, cur => do
    let cur ← cur.gap
    match cur.rest with
    | ']' :: _ => return (acc.reverse, cur)
    | _ =>
      let (node, behind) ← read cur
      let behind ← behind.gap
      match comma behind with
      | (true, next) => arrayItems read fuel (node :: acc) next
      | (false, _) => return ((node :: acc).reverse, behind)

/-- A dotted key, the equals sign and the value, with the blanks around them. -/
def entry (read : ReadsNode) (cur : Cursor) : Except SyntaxFault (Entry × Cursor) := do
  let (path, key, behind) ← dottedKey cur
  match behind.rest with
  | '=' :: cs =>
    let (node, behind) ← read (behind.skip '=' cs).blanks
    return (⟨path, key, node⟩, behind.blanks)
  | _ => behind.fault .expectedEquals

/-- The entries of a table in braces, one at least. No comma may follow the last one. The fuel
    counts characters. -/
def inlineItems (read : ReadsNode) :
    Nat → List Entry → Cursor → Except SyntaxFault (List Entry × Cursor)
  | 0, _, cur => cur.fault .expectedBrace
  | fuel + 1, acc, cur => do
    let (e, behind) ← entry read cur
    match comma behind with
    | (true, next) => inlineItems read fuel (e :: acc) next
    | (false, _) => return ((e :: acc).reverse, behind)

/-- A value that holds no other values. -/
def scalar (cur : Cursor) : Except SyntaxFault (Node × Cursor) :=
  match cur.rest with
  | [] => cur.fault .expectedValue
  | c :: _ =>
    if c = '\x22' ∨ c = '\'' then do
      let (s, behind) ← string cur
      return (.string (behind.spanFrom cur) s, behind)
    else match dateTime? cur with
      | some behind => .ok (.dateTime (behind.spanFrom cur), behind)
      | none =>
        match cur.rest with
        | 't' :: 'r' :: 'u' :: 'e' :: cs =>
          .ok (.boolean ⟨cur.offset, cur.offset + 4⟩ true, ⟨cs, cur.offset + 4⟩)
        | 'f' :: 'a' :: 'l' :: 's' :: 'e' :: cs =>
          .ok (.boolean ⟨cur.offset, cur.offset + 5⟩ false, ⟨cs, cur.offset + 5⟩)
        | _ => do
          let (n, behind) ← number cur
          match n with
          | .whole n => return (.integer (behind.spanFrom cur) n, behind)
          | .float x => return (.float (behind.spanFrom cur) x, behind)

/-- A value with at most `depth` brackets and braces open at once. -/
def value : Nat → ReadsNode
  | 0, cur =>
    match cur.rest with
    | '[' :: _ => cur.fault .nestedTooDeep
    | '\x7b' :: _ => cur.fault .nestedTooDeep
    | _ => scalar cur
  | depth + 1, cur =>
    match cur.rest with
    | '[' :: cs => do
      let (items, behind) ← arrayItems (value depth) (cs.length + 1) [] (cur.skip '[' cs)
      match behind.rest with
      | ']' :: cs =>
        let behind := behind.skip ']' cs
        return (.array (behind.spanFrom cur) items, behind)
      | _ => behind.fault .expectedBracket
    | '\x7b' :: cs => do
      let inside := (cur.skip '\x7b' cs).blanks
      let (given, behind) ← match inside.rest with
        | '\x7d' :: _ => pure ([], inside)
        | _ => inlineItems (value depth) (cs.length + 1) [] inside
      match behind.rest with
      | '\x7d' :: cs =>
        let behind := behind.skip '\x7d' cs
        return (.table .inlined (some (behind.spanFrom cur)) (← inlineEntries given), behind)
      | _ => behind.fault .expectedBrace
    | _ => scalar cur

/-! ## Texts -/

/-- A header with one bracket on either side, the opening one ahead. -/
def header (cur : Cursor) (inside : Cursor) : Except SyntaxFault (Statement × Cursor) := do
  let (path, key, behind) ← dottedKey inside
  match behind.rest with
  | ']' :: cs =>
    let behind := behind.skip ']' cs
    return (.header path key (behind.spanFrom cur), behind)
  | _ => behind.fault .expectedBracket

/-- A header with two brackets on either side, the opening ones ahead. -/
def tablesHeader (cur : Cursor) (inside : Cursor) : Except SyntaxFault (Statement × Cursor) := do
  let (path, key, behind) ← dottedKey inside
  match behind.rest with
  | ']' :: ']' :: cs =>
    let behind : Cursor := ⟨cs, behind.offset + 2⟩
    return (.tablesHeader path key (behind.spanFrom cur), behind)
  | _ => behind.fault .expectedBracket

/-- A statement without the end of its line. -/
def statement (cur : Cursor) : Except SyntaxFault (Statement × Cursor) :=
  match cur.rest with
  | '[' :: '[' :: cs => tablesHeader cur ⟨cs, cur.offset + 2⟩
  | '[' :: cs => header cur (cur.skip '[' cs)
  | _ => do
    let (e, behind) ← entry (value (depthLimit - 1)) cur
    return (.entry e, behind)

/-- The statements of a text. The fuel counts characters. -/
def statements : Nat → List Statement → Cursor → Except SyntaxFault (List Statement)
  | 0, _, cur => cur.fault .expectedLineEnd
  | fuel + 1, acc, cur => do
    let cur := cur.blanks
    match cur.rest with
    | [] => return acc.reverse
    | '#' :: _ => statements fuel acc (← cur.lineEnd)
    | '\n' :: cs => statements fuel acc (cur.skip '\n' cs)
    | '\r' :: '\n' :: cs => statements fuel acc ⟨cs, cur.offset + 2⟩
    | _ =>
      let (s, behind) ← statement cur
      statements fuel (s :: acc) (← behind.lineEnd)

/-- The entries of a whole text. -/
def Entries.ofText (text : String) : Except SyntaxFault Entries := do
  let cs := text.toList
  Entries.ofStatements (← statements (cs.length + 1) [] (Cursor.start cs))

end StimulusBench.Toml
