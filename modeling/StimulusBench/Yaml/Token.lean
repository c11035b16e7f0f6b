import StimulusBench.Yaml.Property
import StimulusBench.Yaml.Scalar

/-!
# `StimulusBench.Yaml.Token` — the tokens of a YAML text

A text is cut into tokens in one pass. What makes YAML hard to cut is that a mapping key has no mark
of its own: only the colon behind it shows that it was one. The scanner therefore remembers where a
key may have started and puts the key token in when it meets the colon.

A token that may still turn out to follow a key token is held back. When the text is faulty, only
the tokens in front of the first one held back count as read.

## Contents
- **Tokens.** `TokenKind`, `Token`, `Tokens`.
- **Scanner.** `Scanner`, its open blocks (`rollIndent`, `unrollIndent`) and possible keys
  (`saveKey`, `dropKey`, `dropStaleKeys`).
- **Cutting.** `Scanner.next` cuts the next token; `Tokens.ofChars` cuts a whole text.
-/

namespace StimulusBench.Yaml

/-! ## Tokens -/

/-- How a scalar is written. -/
inductive ScalarStyle
  | plain
  | quoted
  deriving Repr, DecidableEq

/-- The kinds of tokens. -/
inductive TokenKind
  | streamEnd
  | directive (directive : Directive)
  | documentStart
  | documentEnd
  | blockListStart
  | blockMappingStart
  | blockEnd
  | flowListStart
  | flowListEnd
  | flowMappingStart
  | flowMappingEnd
  | blockEntry
  | flowEntry
  | key
  | value
  | alias (name : List Char)
  | anchor (name : List Char)
  | tag (text : TagText)
  | scalar (text : List Char) (style : ScalarStyle)
  deriving Repr, DecidableEq

/-- A token and where it starts. -/
structure Token where
  kind : TokenKind
  mark : Mark
  deriving Repr, DecidableEq

/-- The tokens of a text up to its end or its first fault. -/
structure Tokens where
  list : List Token
  fault : Option Fault
  deriving Repr, DecidableEq

/-! ## Scanner -/

/-- A place where a mapping key may have started. -/
structure PossibleKey where
  /-- The number of the token that the key token would stand in front of. -/
  number : Nat
  mark : Mark
  /-- Whether nothing but a key may stand there. -/
  required : Bool
  deriving Repr, DecidableEq

/-- The state of the scanner. -/
structure Scanner where
  cursor : Cursor
  /-- The tokens so far, the newest first. -/
  tokens : List Token
  /-- How many tokens there are so far. -/
  count : Nat
  /-- The column of the innermost open block, -1 if none is open. -/
  indent : Int
  /-- The columns of the blocks around it. -/
  outerIndents : List Int
  /-- Whether a key may start here. -/
  keyAllowed : Bool
  /-- The possible key of the innermost bracket, or of the block if no bracket is open. -/
  key : Option PossibleKey
  /-- The possible keys around it, one per open bracket. -/
  outerKeys : List (Option PossibleKey)
  /-- Whether the end of the text was reached. -/
  done : Bool
  deriving Repr

namespace Scanner

/-- The scanner in front of a text. -/
def start (cs : List Char) : Scanner where
  cursor := ⟨cs, .start⟩
  tokens := []
  count := 0
  indent := -1
  outerIndents := []
  keyAllowed := true
  key := none
  outerKeys := []
  done := false

/-- Whether a bracket is open. -/
def inFlow (s : Scanner) : Bool := !s.outerKeys.isEmpty

/-- The column of the cursor. -/
def column (s : Scanner) : Int := s.cursor.mark.column

/-- A fault at the cursor. -/
def fault {α : Type} (s : Scanner) (problem : Problem) : Except Fault α :=
  .error ⟨problem, s.cursor.mark⟩

/-- One more token. -/
def push (s : Scanner) (kind : TokenKind) (mark : Mark) : Scanner :=
  { s with tokens := ⟨kind, mark⟩ :: s.tokens, count := s.count + 1 }

/-- One more token in front of the token with the given number. -/
def insert (s : Scanner) (number : Nat) (kind : TokenKind) (mark : Mark) : Scanner :=
  let later := s.count - number
  { s with
    tokens := s.tokens.take later ++ ⟨kind, mark⟩ :: s.tokens.drop later
    count := s.count + 1 }

/-- Past so many characters of the line. -/
def skip (s : Scanner) (n : Nat) : Scanner :=
  { s with cursor := ⟨s.cursor.chars.drop n, s.cursor.mark.forward n⟩ }

/-! ### Open blocks -/

/-- Opens a block at a column if it lies deeper than the innermost one. Inside brackets there are no
    blocks. The token goes in front of the one with the given number, or to the end. -/
def rollIndent (s : Scanner) (column : Int) (number : Option Nat) (kind : TokenKind)
    (mark : Mark) : Scanner :=
  if s.inFlow then s
  else if s.indent < column then
    let s := { s with outerIndents := s.indent :: s.outerIndents, indent := column }
    match number with
    | none => s.push kind mark
    | some n => s.insert n kind mark
  else s

/-- The blocks that stay open at a column, and how many are closed. -/
def openAt (column : Int) : Nat → Int → List Int → Nat × Int × List Int
  | closed, indent, [] => (closed, indent, [])
  | closed, indent, outer :: rest =>
    if column < indent then openAt column (closed + 1) outer rest
    else (closed, indent, outer :: rest)

/-- Closes the blocks that lie deeper than a column. -/
def unrollIndent (s : Scanner) (column : Int) : Scanner :=
  if s.inFlow then s
  else
    let (closed, indent, outerIndents) := openAt column 0 s.indent s.outerIndents
    { s with
      indent, outerIndents
      tokens := List.replicate closed ⟨.blockEnd, s.cursor.mark⟩ ++ s.tokens
      count := s.count + closed }

/-! ### Possible keys -/

/-- Gives up the innermost possible key. -/
def dropKey (s : Scanner) : Except Fault Scanner :=
  match s.key with
  | some k => if k.required then .error ⟨.expectedColon, k.mark⟩ else .ok { s with key := none }
  | none => .ok s

/-- Notes that a key may start with the next token. -/
def saveKey (s : Scanner) : Except Fault Scanner :=
  if s.keyAllowed then do
    let s ← s.dropKey
    let required := !s.inFlow && s.indent = s.column
    return { s with key := some ⟨s.count, s.cursor.mark, required⟩ }
  else .ok s

/-- A key is given up when the line ends or after 1024 characters. -/
def fresh? (m : Mark) : Option PossibleKey → Except Fault (Option PossibleKey)
  | some k =>
    if k.mark.line < m.line ∨ k.mark.index + 1024 < m.index then
      if k.required then .error ⟨.expectedColon, k.mark⟩ else .ok none
    else .ok (some k)
  | none => .ok none

/-- Gives up the keys whose colon would come too late. -/
def dropStaleKeys (s : Scanner) : Except Fault Scanner := do
  let outerKeys ← s.outerKeys.mapM (fresh? s.cursor.mark)
  let key ← fresh? s.cursor.mark s.key
  return { s with key, outerKeys }

/-- The tokens in front of the first one that may still turn out to follow a key token. -/
def settled (s : Scanner) : List Token :=
  let first := ((s.key :: s.outerKeys).filterMap fun k => k.map (·.number)).foldl min s.count
  (s.tokens.drop (s.count - first)).reverse

/-! ## Cutting -/

/-- Past blanks, comments and line breaks. A tab is no blank where a key may start outside brackets.
    A new line allows a key there. A byte order mark counts as a blank at the start of a line. -/
def skipBlanks (inFlow : Bool) : (comment keyAllowed : Bool) → Mark → List Char → Bool × Cursor
  | _, keyAllowed, m, [] => (keyAllowed, ⟨[], m⟩)
  | _, keyAllowed, m, '\r' :: '\n' :: cs =>
    skipBlanks inFlow false (keyAllowed || !inFlow) (m.newLine 2) cs
  | comment, keyAllowed, m, c :: cs =>
    if isBreak c then skipBlanks inFlow false (keyAllowed || !inFlow) (m.newLine 1) cs
    else if comment || c = ' ' || (c = '\t' && (inFlow || !keyAllowed))
        || (c = byteOrderMark && m.column = 0) then
      skipBlanks inFlow comment keyAllowed m.next cs
    else if c = '#' then skipBlanks inFlow true keyAllowed m.next cs
    else (keyAllowed, ⟨c :: cs, m⟩)

/-- The end of the text. -/
def cutEnd (s : Scanner) : Except Fault Scanner := do
  let m := s.cursor.mark
  let m := if m.column = 0 then m else ⟨m.index, m.line + 1, 0⟩
  let s := { s with cursor := ⟨[], m⟩ }
  let s ← (s.unrollIndent (-1)).dropKey
  return { s.push .streamEnd m with keyAllowed := false, done := true }

/-- A directive with the end of its line. -/
def cutDirective (s : Scanner) : Except Fault Scanner := do
  let m := s.cursor.mark
  let s ← (s.unrollIndent (-1)).dropKey
  let (d, behind) ← directive m.next (s.cursor.chars.drop 1)
  let (m', rest) := toLineEnd behind.mark behind.chars
  if lineEnds rest then
    return { s.push (.directive d) m with keyAllowed := false, cursor := pastBreak m' rest }
  else throw ⟨.expectedDirectiveEnd, m'⟩

/-- A document indicator. -/
def cutDocument (s : Scanner) (kind : TokenKind) : Except Fault Scanner := do
  let m := s.cursor.mark
  let s ← (s.unrollIndent (-1)).dropKey
  return { (s.push kind m).skip 3 with keyAllowed := false }

/-- An opening bracket. -/
def cutFlowStart (s : Scanner) (kind : TokenKind) : Except Fault Scanner := do
  let s ← s.saveKey
  return { (s.push kind s.cursor.mark).skip 1 with
    key := none, outerKeys := s.key :: s.outerKeys, keyAllowed := true }

/-- A closing bracket. -/
def cutFlowEnd (s : Scanner) (kind : TokenKind) : Except Fault Scanner := do
  let s ← s.dropKey
  let s := match s.outerKeys with
    | k :: rest => { s with key := k, outerKeys := rest }
    | [] => s
  return { (s.push kind s.cursor.mark).skip 1 with keyAllowed := false }

/-- A comma inside brackets. -/
def cutFlowEntry (s : Scanner) : Except Fault Scanner := do
  let s ← s.dropKey
  return { (s.push .flowEntry s.cursor.mark).skip 1 with keyAllowed := true }

/-- A dash. -/
def cutBlockEntry (s : Scanner) : Except Fault Scanner := do
  if !s.inFlow && !s.keyAllowed then s.fault .entriesNotAllowed
  else
    let s ← (s.rollIndent s.column none .blockListStart s.cursor.mark).dropKey
    return { (s.push .blockEntry s.cursor.mark).skip 1 with keyAllowed := true }

/-- A question mark in front of a key. -/
def cutKey (s : Scanner) : Except Fault Scanner := do
  if !s.inFlow && !s.keyAllowed then s.fault .keysNotAllowed
  else
    let s ← (s.rollIndent s.column none .blockMappingStart s.cursor.mark).dropKey
    return { (s.push .key s.cursor.mark).skip 1 with keyAllowed := !s.inFlow }

/-- A colon. Behind a possible key, the key token is put in front of it. -/
def cutValue (s : Scanner) : Except Fault Scanner := do
  let s ← match s.key with
    | some k =>
      let s := { s.insert k.number .key k.mark with key := none }
      let s := s.rollIndent k.mark.column (some k.number) .blockMappingStart k.mark
      Except.ok { s with keyAllowed := false }
    | none =>
      if !s.inFlow && !s.keyAllowed then s.fault .valuesNotAllowed
      else
        let s := s.rollIndent s.column none .blockMappingStart s.cursor.mark
        Except.ok { s with keyAllowed := !s.inFlow }
  return (s.push .value s.cursor.mark).skip 1

/-- An anchor or an alias. -/
def cutAnchor (s : Scanner) (kind : List Char → TokenKind) : Except Fault Scanner := do
  let s ← s.saveKey
  let m := s.cursor.mark
  let (name, behind) ← anchor m.next (s.cursor.chars.drop 1)
  return { s.push (kind name) m with keyAllowed := false, cursor := behind }

/-- A tag. -/
def cutTag (s : Scanner) : Except Fault Scanner := do
  let s ← s.saveKey
  let m := s.cursor.mark
  let (text, behind) ← tag s.inFlow m s.cursor.chars
  return { s.push (.tag text) m with keyAllowed := false, cursor := behind }

/-- A block scalar. -/
def cutBlockScalar (s : Scanner) (literal : Bool) : Except Fault Scanner := do
  let s ← s.dropKey
  let m := s.cursor.mark
  let header ← blockHeader m.next (s.cursor.chars.drop 1)
  let indent := if header.increment = 0 then 0 else (max s.indent 0).toNat + header.increment
  let read ← block literal header.chomping s.indent false [] ⟨indent, 0, [], [], false⟩
    header.behind.mark header.behind.chars
  return { s.push (.scalar read.text .quoted) m with keyAllowed := true, cursor := read.behind }

/-- A quoted scalar. -/
def cutQuoted (s : Scanner) (single : Bool) : Except Fault Scanner := do
  let s ← s.saveKey
  let m := s.cursor.mark
  let read ← quoted single none [] .none m.next (s.cursor.chars.drop 1)
  return { s.push (.scalar read.text .quoted) m with keyAllowed := false, cursor := read.behind }

/-- A plain scalar. One that spans lines may be followed by a key. -/
def cutPlain (s : Scanner) : Except Fault Scanner := do
  let s ← s.saveKey
  let m := s.cursor.mark
  let read ← plain s.inFlow (s.indent + 1) [] .none m s.cursor.chars
  return { s.push (.scalar read.text .plain) m with
    keyAllowed := read.brokeLine, cursor := read.behind }

/-- Characters that start something else than a plain scalar. -/
def isIndicator (c : Char) : Bool :=
  ['-', '?', ':', ',', '[', ']', '\x7b', '\x7d', '#', '&', '*', '!', '|', '>', '\'', '\x22', '%',
    '@', '\x60'].contains c

/-- Whether a plain scalar may start here. -/
def startsPlain (inFlow : Bool) (c : Char) (cs : List Char) : Bool :=
  let blankFollows := match cs with
    | d :: _ => isBlank d
    | [] => false
  !(isBlank c || isBreak c || isIndicator c) || (c = '-' && !blankFollows)
    || (!inFlow && (c = '?' || c = ':') && !wordEnds cs)

/-- Cuts the next token, behind blanks. -/
def cut (s : Scanner) : Except Fault Scanner :=
  match s.cursor.chars with
  | [] => s.cutEnd
  | c :: cs =>
    let inFlow := s.inFlow
    if s.cursor.mark.column = 0 ∧ c = '%' then s.cutDirective
    else if atDocumentIndicator s.cursor.mark (c :: cs) then
      s.cutDocument (if c = '-' then .documentStart else .documentEnd)
    else if c = '[' then s.cutFlowStart .flowListStart
    else if c = '\x7b' then s.cutFlowStart .flowMappingStart
    else if c = ']' then s.cutFlowEnd .flowListEnd
    else if c = '\x7d' then s.cutFlowEnd .flowMappingEnd
    else if c = ',' then s.cutFlowEntry
    else if c = '-' ∧ wordEnds cs then s.cutBlockEntry
    else if c = '?' ∧ (inFlow ∨ wordEnds cs) then s.cutKey
    else if c = ':' ∧ (inFlow ∨ wordEnds cs) then s.cutValue
    else if c = '*' then s.cutAnchor .alias
    else if c = '&' then s.cutAnchor .anchor
    else if c = '!' then s.cutTag
    else if c = '|' ∧ ¬ inFlow then s.cutBlockScalar true
    else if c = '>' ∧ ¬ inFlow then s.cutBlockScalar false
    else if c = '\'' then s.cutQuoted true
    else if c = '\x22' then s.cutQuoted false
    else if startsPlain inFlow c cs then s.cutPlain
    else s.fault .cannotStartToken

/-- Skips to the next token and cuts it, closing the blocks that end in front of it. -/
def next (s : Scanner) : Except Fault Scanner := do
  let (keyAllowed, cursor) := skipBlanks s.inFlow false s.keyAllowed s.cursor.mark s.cursor.chars
  let s ← { s with keyAllowed, cursor }.dropStaleKeys
  let s ← (s.unrollIndent s.column).cut
  s.dropStaleKeys

/-- Cuts the rest of a text. Every token but the last takes a character at least. -/
def cutAll : Nat → Scanner → Tokens
  | 0, s => ⟨s.settled, some ⟨.truncated, s.cursor.mark⟩⟩
  | fuel + 1, s =>
    match s.next with
    | .error f => ⟨s.settled, some f⟩
    | .ok s' => if s'.done then ⟨s'.settled, none⟩ else cutAll fuel s'

end Scanner

/-- The tokens of a text. A character that may not stand in a text spoils all of it. -/
def Tokens.ofChars (cs : List Char) : Tokens :=
  if cs.all isAllowed then (Scanner.start cs).cutAll (cs.length + 2)
  else ⟨[], some ⟨.controlCharacter, .start⟩⟩

end StimulusBench.Yaml
