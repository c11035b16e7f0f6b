import StimulusBench.Yaml.Cursor

/-!
# `StimulusBench.Yaml.Property` — anchors, tags and directives

What may stand in front of a node or of a document.

## Contents
- **Anchors.** `anchor`.
- **Tags.** `TagText`, a handle and the bytes behind it; `tag`, `uri`.
- **Directives.** `Directive`, `directive`.
-/

namespace StimulusBench.Yaml

/-! ## Anchors -/

/-- Past the word characters ahead. -/
def word (m : Mark) (cs : List Char) : List Char × Cursor :=
  let w := cs.takeWhile isWordChar
  (w, ⟨cs.dropWhile isWordChar, m.forward w.length⟩)

/-- What may stand behind an anchor. -/
def anchorEnds (cs : List Char) : Bool :=
  wordEnds cs || match cs with
    | c :: _ => c = '?' || c = ':' || c = ',' || c = ']' || c = '\x7d' || c = '%' || c = '@'
      || c = '\x60'
    | [] => true

/-- The name of an anchor, behind its indicator. -/
def anchor (m : Mark) (cs : List Char) : Except Fault (List Char × Cursor) :=
  let (name, behind) := word m cs
  if name.isEmpty || !anchorEnds behind.chars then .error ⟨.expectedAnchor, behind.mark⟩
  else .ok (name, behind)

/-! ## Tags -/

/-- A tag as it is written: a handle, and the bytes behind it. -/
structure TagText where
  handle : List Char
  suffix : List UInt8
  deriving Repr, DecidableEq

/-- The bytes of a text of ASCII characters. -/
def asciiBytes (cs : List Char) : List UInt8 := cs.map fun c => UInt8.ofNat c.toNat

/-- Characters of a tag, apart from escapes; some only between angle brackets. -/
def isUriChar (verbatim : Bool) (c : Char) : Bool :=
  isWordChar c || [';', '/', '?', ':', '@', '&', '=', '+', '$', '.', '!', '~', '*', '\'', '(',
    ')'].contains c || (verbatim && (c = ',' || c = '[' || c = ']'))

/-- How many bytes a character has whose first byte is given. -/
def byteWidth? (octet : Nat) : Option Nat :=
  if octet < 0x80 then some 1
  else if 0xC0 ≤ octet ∧ octet < 0xE0 then some 2
  else if 0xE0 ≤ octet ∧ octet < 0xF0 then some 3
  else if 0xF0 ≤ octet ∧ octet < 0xF8 then some 4
  else none

/-- Reads the bytes of a tag, the zero byte and what follows it included. `pending` counts the bytes
    still missing of an escaped character. -/
def uriBytes (verbatim : Bool) :
    List UInt8 → (pending : Nat) → Mark → List Char → Except Fault (List UInt8 × Cursor)
  | acc, pending, m, '%' :: a :: b :: cs =>
    match Numeral.ofDigits? 16 [a, b] with
    | none => .error ⟨.uriEscape, m⟩
    | some octet =>
      match pending with
      | 0 =>
        match byteWidth? octet with
        | none => .error ⟨.uriEscape, m⟩
        | some width => uriBytes verbatim (UInt8.ofNat octet :: acc) (width - 1) (m.forward 3) cs
      | pending + 1 =>
        if 0x80 ≤ octet ∧ octet < 0xC0 then
          uriBytes verbatim (UInt8.ofNat octet :: acc) pending (m.forward 3) cs
        else .error ⟨.uriEscape, m⟩
  | acc, pending, m, c :: cs =>
    if 0 < pending ∨ c = '%' then .error ⟨.uriEscape, m⟩
    else if isUriChar verbatim c then
      uriBytes verbatim (UInt8.ofNat c.toNat :: acc) 0 m.next cs
    else .ok (acc.reverse, ⟨c :: cs, m⟩)
  | acc, pending, m, [] =>
    if 0 < pending then .error ⟨.uriEscape, m⟩ else .ok (acc.reverse, ⟨[], m⟩)

/-- The bytes in front of the first zero byte, which ends a tag. -/
def untilZero (bytes : List UInt8) : List UInt8 := bytes.takeWhile (· ≠ 0)

/-- Reads the bytes of a tag up to the first zero byte. -/
def uri (verbatim : Bool) (m : Mark) (cs : List Char) : Except Fault (List UInt8 × Cursor) :=
  (uriBytes verbatim [] 0 m cs).map fun (bytes, behind) => (untilZero bytes, behind)

/-- Reads the bytes of a tag, of which there must be at least one; a zero byte counts. -/
def someUri (verbatim : Bool) (m : Mark) (cs : List Char) :
    Except Fault (List UInt8 × Cursor) := do
  let (bytes, behind) ← uriBytes verbatim [] 0 m cs
  if bytes.isEmpty then throw ⟨.expectedUri, behind.mark⟩
  return (untilZero bytes, behind)

/-- Reads a tag without angle brackets, from its first character on. -/
def shortTag (m : Mark) (cs : List Char) : Except Fault (TagText × Cursor) := do
  let (name, behind) := word m.next (cs.drop 1)
  match behind.chars with
  | '!' :: rest =>
    let (suffix, behind) ← someUri false behind.mark.next rest
    return (⟨'!' :: name ++ ['!'], suffix⟩, behind)
  | _ =>
    let (more, behind) ← uri false behind.mark behind.chars
    let suffix := asciiBytes name ++ more
    if suffix.isEmpty then return (⟨[], asciiBytes ['!']⟩, behind)
    else return (⟨['!'], suffix⟩, behind)

/-- Reads a tag between angle brackets, from its first character on. -/
def verbatimTag (m : Mark) (cs : List Char) : Except Fault (TagText × Cursor) := do
  let (suffix, behind) ← someUri true (m.forward 2) (cs.drop 2)
  match behind.chars with
  | '>' :: rest => return (⟨[], suffix⟩, ⟨rest, behind.mark.next⟩)
  | _ => throw ⟨.expectedAngle, behind.mark⟩

/-- Reads a tag from its first character on. Inside brackets a comma may follow directly. -/
def tag (inFlow : Bool) (m : Mark) (cs : List Char) : Except Fault (TagText × Cursor) := do
  let (text, behind) ← match cs with
    | '!' :: '<' :: _ => verbatimTag m cs
    | _ => shortTag m cs
  let commaFollows := match behind.chars with
    | ',' :: _ => inFlow
    | _ => false
  if commaFollows || wordEnds behind.chars then return (text, behind)
  else throw ⟨.expectedTagEnd, behind.mark⟩

/-! ## Directives -/

/-- A directive in front of a document. -/
inductive Directive
  | version (major minor : Nat)
  | tagHandle (handle : List Char) (expansion : List UInt8)
  deriving Repr, DecidableEq

/-- A part of a version number: one to nine digits. -/
def versionPart (m : Mark) (cs : List Char) : Except Fault (Nat × Cursor) :=
  let ds := cs.takeWhile fun c => '0' ≤ c && c ≤ '9'
  let behind : Cursor := ⟨cs.drop ds.length, m.forward ds.length⟩
  if 9 < ds.length then .error ⟨.longVersion, m⟩
  else match Numeral.ofDigits? 10 ds with
    | none => .error ⟨.expectedVersion, m⟩
    | some n => .ok (n, behind)

/-- Past the blanks ahead. -/
def pastBlanks (cur : Cursor) : Cursor :=
  let blanks := cur.chars.takeWhile isBlank
  ⟨cur.chars.dropWhile isBlank, cur.mark.forward blanks.length⟩

/-- The value of a version directive. -/
def versionValue (cur : Cursor) : Except Fault (Directive × Cursor) := do
  let cur := pastBlanks cur
  let (major, cur) ← versionPart cur.mark cur.chars
  match cur.chars with
  | '.' :: rest =>
    let (minor, cur) ← versionPart cur.mark.next rest
    return (.version major minor, cur)
  | _ => throw ⟨.expectedVersion, cur.mark⟩

/-- The value of a tag directive: a handle and what it stands for. -/
def tagHandleValue (cur : Cursor) : Except Fault (Directive × Cursor) := do
  let cur := pastBlanks cur
  match cur.chars with
  | '!' :: rest =>
    let (name, behind) := word cur.mark.next rest
    let (handle, behind) ← match behind.chars with
      | '!' :: rest => Except.ok ('!' :: name ++ ['!'], ⟨rest, behind.mark.next⟩)
      | _ =>
        if name.isEmpty then Except.ok (['!'], behind)
        else Except.error ⟨.expectedBang, behind.mark⟩
    let blankFollows := match behind.chars with
      | c :: _ => isBlank c
      | [] => false
    if !blankFollows then throw ⟨.expectedTagEnd, behind.mark⟩
    let cur := pastBlanks behind
    let (expansion, behind) ← someUri true cur.mark cur.chars
    if wordEnds behind.chars then return (.tagHandle handle expansion, behind)
    else throw ⟨.expectedTagEnd, behind.mark⟩
  | _ => throw ⟨.expectedBang, cur.mark⟩

/-- Reads a directive behind its percent sign, without the end of its line. -/
def directive (m : Mark) (cs : List Char) : Except Fault (Directive × Cursor) :=
  let (name, behind) := word m cs
  if name.isEmpty || !wordEnds behind.chars then .error ⟨.expectedDirectiveName, behind.mark⟩
  else if name = ['Y', 'A', 'M', 'L'] then versionValue behind
  else if name = ['T', 'A', 'G'] then tagHandleValue behind
  else .error ⟨.unknownDirective, behind.mark⟩

end StimulusBench.Yaml
