import StimulusBench.Yaml.Cursor

/-!
# `StimulusBench.Yaml.Scalar` — reading scalars

Plain, quoted and block scalars, each read in one pass over the characters. Blanks and line breaks
between two words are held back as a `Gap` until the next word shows what they stand for.

## Contents
- **Gaps.** `Gap` and its folding: one line break is a blank, further ones are kept.
- **Plain scalars.** `plain`.
- **Quoted scalars.** `quoted` and the escapes of double quotes.
- **Block scalars.** `blockHeader` and `block`.
-/

namespace StimulusBench.Yaml

/-! ## Gaps -/

/-- Blanks or line breaks between two words. The lists hold the newest character first. -/
inductive Gap
  | none
  | blanks (reversed : List Char)
  | breaks (first : List Char) (more : List Char)
  deriving Repr, DecidableEq

namespace Gap

/-- Whether a line break is part of the gap. -/
def hasBreak : Gap → Bool
  | .breaks .. => true
  | _ => false

/-- The gap with one more blank; blanks behind a line break are dropped. -/
def blank (c : Char) : Gap → Gap
  | .none => .blanks [c]
  | .blanks bs => .blanks (c :: bs)
  | .breaks first more => .breaks first more

/-- The gap with one more line break; blanks in front of it are dropped. -/
def lineBreak (c : Char) : Gap → Gap
  | .breaks first more => .breaks first (breakChar c :: more)
  | _ => .breaks [breakChar c] []

/-- What the gap stands for between two words. -/
def folded : Gap → List Char
  | .none => []
  | .blanks bs => bs.reverse
  | .breaks first more =>
    if first = ['\n'] then (if more.isEmpty then [' '] else more.reverse)
    else first ++ more.reverse

end Gap

/-- The text read so far, newest character first, with a gap put behind it. -/
def closeGap (acc : List Char) (gap : Gap) : List Char := gap.folded.reverseAux acc

/-! ## Plain scalars -/

/-- Whether a line starts with a document indicator. -/
def atDocumentIndicator (m : Mark) (cs : List Char) : Bool :=
  m.column = 0 && match cs with
    | '-' :: '-' :: '-' :: rest => wordEnds rest
    | '.' :: '.' :: '.' :: rest => wordEnds rest
    | _ => false

/-- Indicators that end a plain scalar inside brackets. -/
def isFlowIndicator (c : Char) : Bool :=
  c = ',' || c = '[' || c = ']' || c = '\x7b' || c = '\x7d'

/-- Whether the rest starts with a character that must not follow a colon inside brackets. -/
def colonClashes : List Char → Bool
  | [] => false
  | c :: _ => isFlowIndicator c || c = '?'

/-- A scalar that was read: its text, whether a line break follows it, and the cursor behind it. -/
structure ScalarRead where
  text : List Char
  brokeLine : Bool
  behind : Cursor
  deriving Repr, DecidableEq

/-- Reads a plain scalar. `indent` is the least column of its further lines. -/
def plain (inFlow : Bool) (indent : Int) :
    List Char → Gap → Mark → List Char → Except Fault ScalarRead
  | acc, gap, m, [] => .ok ⟨acc.reverse, gap.hasBreak, ⟨[], m⟩⟩
  | acc, gap, m, '\r' :: '\n' :: cs => plain inFlow indent acc (gap.lineBreak '\n') (m.newLine 2) cs
  | acc, gap, m, c :: cs =>
    if isBreak c then plain inFlow indent acc (gap.lineBreak c) (m.newLine 1) cs
    else if isBlank c then
      if gap.hasBreak && decide ((m.column : Int) < indent) && c = '\t' then
        .error ⟨.tabIndentation, m⟩
      else plain inFlow indent acc (gap.blank c) m.next cs
    else
      let dedented := !inFlow && decide ((m.column : Int) < indent)
      let stops := gap ≠ .none && (gap.hasBreak && dedented
        || atDocumentIndicator m (c :: cs) || c = '#')
      if stops then .ok ⟨acc.reverse, gap.hasBreak, ⟨c :: cs, m⟩⟩
      else if inFlow && c = ':' && colonClashes cs then .error ⟨.unexpectedColon, m⟩
      else if (c = ':' && wordEnds cs) || (inFlow && isFlowIndicator c) then
        .ok ⟨acc.reverse, gap.hasBreak, ⟨c :: cs, m⟩⟩
      else plain inFlow indent (c :: closeGap acc gap) .none m.next cs

/-! ## Quoted scalars -/

/-- What follows a backslash in double quotes. -/
inductive Escape
  | char (c : Char)
  | code (digits : Nat)
  deriving Repr, DecidableEq

/-- The escape that a character names. -/
def escape? (c : Char) : Option Escape :=
  match c with
  | '0' => some (.char '\x00')
  | 'a' => some (.char '\x07')
  | 'b' => some (.char '\x08')
  | 't' => some (.char '\t')
  | '\t' => some (.char '\t')
  | 'n' => some (.char '\n')
  | 'v' => some (.char '\x0b')
  | 'f' => some (.char '\x0c')
  | 'r' => some (.char '\r')
  | 'e' => some (.char '\x1b')
  | ' ' => some (.char ' ')
  | '\x22' => some (.char '\x22')
  | '/' => some (.char '/')
  | '\\' => some (.char '\\')
  | 'N' => some (.char '\u0085')
  | '_' => some (.char '\u00a0')
  | 'L' => some (.char '\u2028')
  | 'P' => some (.char '\u2029')
  | 'x' => some (.code 2)
  | 'u' => some (.code 4)
  | 'U' => some (.code 8)
  | _ => none

/-- The character of a code point; surrogates and numbers past the last one have none. -/
def charOf? (n : Nat) : Option Char :=
  if n.isValidChar then some (Char.ofNat n) else none

/-- Reads the rest of a quoted scalar behind its opening quote. `hex` holds the digits of an escape
    in progress: how many are missing and their value so far. -/
def quoted (single : Bool) (hex : Option (Nat × Nat)) :
    List Char → Gap → Mark → List Char → Except Fault ScalarRead
  | _, _, m, [] => .error ⟨if hex.isSome then .hexEscape else .endInQuotes, m⟩
  | acc, gap, m, '\r' :: '\n' :: cs =>
    if hex.isSome then .error ⟨.hexEscape, m⟩
    else quoted single none acc (gap.lineBreak '\n') (m.newLine 2) cs
  | acc, gap, m, c :: cs =>
    match hex with
    | some (missing, value) =>
      match Numeral.digitValue? 16 c with
      | none => .error ⟨.hexEscape, m⟩
      | some d =>
        let value := value * 16 + d
        if missing ≤ 1 then
          match charOf? value with
          | none => .error ⟨.escapedCodePoint, m⟩
          | some ch => quoted single none (ch :: acc) .none m.next cs
        else quoted single (some (missing - 1, value)) acc gap m.next cs
    | none =>
      if isBreak c then quoted single none acc (gap.lineBreak c) (m.newLine 1) cs
      else if isBlank c then quoted single none acc (gap.blank c) m.next cs
      else if atDocumentIndicator m (c :: cs) then .error ⟨.documentIndicator, m⟩
      else
        let acc := closeGap acc gap
        if single then
          if c = '\'' then
            match cs with
            | '\'' :: ds => quoted single none ('\'' :: acc) .none (m.forward 2) ds
            | _ => .ok ⟨acc.reverse, false, ⟨cs, m.next⟩⟩
          else quoted single none (c :: acc) .none m.next cs
        else if c = '\x22' then .ok ⟨acc.reverse, false, ⟨cs, m.next⟩⟩
        else if c = '\\' then
          match cs with
          | [] => .error ⟨.unknownEscape, m⟩
          | '\r' :: '\n' :: ds =>
            quoted single none acc (.breaks [] []) (m.next.newLine 2) ds
          | e :: ds =>
            if isBreak e then quoted single none acc (.breaks [] []) (m.next.newLine 1) ds
            else
              match escape? e with
              | none => .error ⟨.unknownEscape, m⟩
              | some (.char ch) => quoted single none (ch :: acc) .none (m.forward 2) ds
              | some (.code n) => quoted single (some (n, 0)) acc .none (m.forward 2) ds
        else quoted single none (c :: acc) .none m.next cs

/-! ## Block scalars -/

/-- What becomes of the line breaks at the end of a block scalar. -/
inductive Chomping
  | strip
  | clip
  | keep
  deriving Repr, DecidableEq

/-- The header of a block scalar: its chomping, its indentation if given, and the cursor behind. -/
structure BlockHeader where
  chomping : Chomping
  increment : Nat
  behind : Cursor
  deriving Repr, DecidableEq

/-- The chomping that a character names. -/
def chomping? (c : Char) : Option Chomping :=
  if c = '+' then some .keep else if c = '-' then some .strip else none

/-- Past blanks and a comment to the end of the line. -/
def toLineEnd (m : Mark) (cs : List Char) : Mark × List Char :=
  let blanks := cs.takeWhile isBlank
  let rest := cs.dropWhile isBlank
  let m := m.forward blanks.length
  match rest with
  | '#' :: _ =>
    let comment := rest.takeWhile (!isBreak ·)
    (m.forward comment.length, rest.dropWhile (!isBreak ·))
  | _ => (m, rest)

/-- Past a line break, if there is one. -/
def pastBreak (m : Mark) (cs : List Char) : Cursor :=
  match cs with
  | '\r' :: '\n' :: ds => ⟨ds, m.newLine 2⟩
  | c :: ds => if isBreak c then ⟨ds, m.newLine 1⟩ else ⟨c :: ds, m⟩
  | [] => ⟨[], m⟩

/-- An indentation digit, which must not be zero. -/
def indentDigit (m : Mark) : List Char → Except Fault (Nat × Mark × List Char)
  | c :: cs =>
    if '0' ≤ c ∧ c ≤ '9' then
      if c = '0' then .error ⟨.zeroIndentation, m⟩
      else .ok (c.toNat - '0'.toNat, m.next, cs)
    else .ok (0, m, c :: cs)
  | [] => .ok (0, m, [])

/-- Reads the header of a block scalar behind its indicator. -/
def blockHeader (m : Mark) (cs : List Char) : Except Fault BlockHeader := do
  let (chomping, increment, m, cs) ← match cs with
    | [] => Except.ok (Chomping.clip, 0, m, [])
    | c :: rest =>
      match chomping? c with
      | some chomping => do
        let (increment, m, rest) ← indentDigit m.next rest
        Except.ok (chomping, increment, m, rest)
      | none => do
        let (increment, m, rest) ← indentDigit m (c :: rest)
        match increment, rest with
        | _ + 1, d :: ds =>
          match chomping? d with
          | some chomping => Except.ok (chomping, increment, m.next, ds)
          | none => Except.ok (Chomping.clip, increment, m, d :: ds)
        | _, _ => Except.ok (Chomping.clip, increment, m, rest)
  let (m, cs) := toLineEnd m cs
  if lineEnds cs then return ⟨chomping, increment, pastBreak m cs⟩
  else throw ⟨.expectedHeaderEnd, m⟩

/-- A block scalar in progress. The lists hold the newest character first. -/
structure BlockState where
  /-- The indentation of its lines; 0 while it is not known. -/
  indent : Nat
  /-- The widest blank line so far. -/
  widest : Nat
  /-- The break behind the last line. -/
  lastBreak : List Char
  /-- The breaks of the blank lines behind that. -/
  blankLines : List Char
  /-- Whether the last line starts with a blank. -/
  startedBlank : Bool
  deriving Repr, DecidableEq

/-- The text of a block scalar that ends here. -/
def chomp (chomping : Chomping) (acc : List Char) (st : BlockState) : List Char :=
  match chomping with
  | .strip => acc.reverse
  | .clip => acc.reverse ++ st.lastBreak
  | .keep => acc.reverse ++ st.lastBreak ++ st.blankLines.reverse

/-- The text so far with the breaks in front of a line put behind it. A folded scalar joins two
    lines by a blank unless one of them starts with a blank or blank lines lie between. -/
def joinLines (literal : Bool) (acc : List Char) (st : BlockState) (startsBlank : Bool) :
    List Char :=
  let acc :=
    if !literal && st.lastBreak = ['\n'] && !st.startedBlank && !startsBlank then
      if st.blankLines.isEmpty then ' ' :: acc else acc
    else st.lastBreak.reverseAux acc
  st.blankLines ++ acc

/-- Reads the lines of a block scalar. `inLine` tells the inside of a line from its indentation;
    `parent` is the indentation of the surrounding block. -/
def block (literal : Bool) (chomping : Chomping) (parent : Int) :
    (inLine : Bool) → List Char → BlockState → Mark → List Char → Except Fault ScalarRead
  | _, acc, st, m, [] => .ok ⟨chomp chomping acc st, false, ⟨[], m⟩⟩
  | true, acc, st, m, '\r' :: '\n' :: cs =>
    block literal chomping parent false acc { st with lastBreak := ['\n'] } (m.newLine 2) cs
  | false, acc, st, m, '\r' :: '\n' :: cs =>
    block literal chomping parent false acc
      { st with blankLines := '\n' :: st.blankLines, widest := max st.widest m.column }
      (m.newLine 2) cs
  | true, acc, st, m, c :: cs =>
    if isBreak c then
      block literal chomping parent false acc { st with lastBreak := [breakChar c] }
        (m.newLine 1) cs
    else block literal chomping parent true (c :: acc) st m.next cs
  | false, acc, st, m, c :: cs =>
    let shallow := st.indent = 0 || decide (m.column < st.indent)
    if shallow && c = ' ' then block literal chomping parent false acc st m.next cs
    else if shallow && c = '\t' then .error ⟨.tabIndentation, m⟩
    else if isBreak c then
      block literal chomping parent false acc
        { st with blankLines := breakChar c :: st.blankLines, widest := max st.widest m.column }
        (m.newLine 1) cs
    else
      let indent :=
        if st.indent = 0 then max (max st.widest m.column) (max (parent + 1).toNat 1)
        else st.indent
      if m.column = indent then
        let startsBlank := isBlank c
        let acc := joinLines literal acc st startsBlank
        block literal chomping parent true (c :: acc)
          { st with indent, lastBreak := [], blankLines := [], startedBlank := startsBlank }
          m.next cs
      else .ok ⟨chomp chomping acc { st with indent }, false, ⟨c :: cs, m⟩⟩

end StimulusBench.Yaml
