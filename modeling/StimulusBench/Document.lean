import StimulusBench.Stimulus

/-!
# `StimulusBench.Document` — records and stimuli found in content

What the content of a document has to look like to be a record, a stimulus tree or a stimulus
document. A list is a record if it can be one, else a group, and nothing else is a stimulus; a
stimulus document is a corpus or, written by hand, a mapping with the stimuli under `arr`.

## Contents
- **Faults.** `DocumentFault` and its wording.
- **Records and trees.** `Record.ofContent`, `Stimulus.ofContent`, `Corpus.ofContent`.
- **Documents.** `Document`, `Document.ofContent`.
- **JSON trees.** `Content.ofJson`, `Record.ofJson`, `Corpus.ofJson`.
-/

namespace StimulusBench

/-! ## Faults -/

/-- What content was expected to be. -/
inductive DocumentPart
  | record
  | stimulus
  | document
  deriving Repr, DecidableEq

/-- The name of a part in a message. -/
def DocumentPart.name : DocumentPart → String
  | .record => "RawRecord"
  | .stimulus => "Stimulus"
  | .document => "StimulusDocument"

/-- Why content is refused. -/
inductive DocumentFault
  /-- The content has none of the shapes of a part. -/
  | shape (expected : DocumentPart)
  /-- The shape is that of a record, but not its fields. -/
  | fields (fault : RecordFault)
  deriving Repr, DecidableEq

/-- The wording of refused content. -/
def DocumentFault.message : DocumentFault → String
  | .shape expected => "data did not match any variant of untagged enum " ++ expected.name
  | .fields fault => fault.message

/-! ## Records and trees -/

/-- The fields of a list that has the shape of a record. -/
def recordFields? : List Content → Option (UInt8 × UInt8 × UInt8 × Option (UInt8 × UInt8))
  | [c, v, s] => do
    return (← c.byte?, ← v.byte?, ← s.byte?, none)
  | [c, v, s, .list [u, w]] => do
    return (← c.byte?, ← v.byte?, ← s.byte?, some (← u.byte?, ← w.byte?))
  | _ => none

/-- The record of a list of fields. -/
def Record.ofItems (items : List Content) : Except DocumentFault Record :=
  match recordFields? items with
  | none => .error (.shape .record)
  | some (c, v, s, extra) => (Record.ofFields c v s extra).mapError .fields

/-- The record that content stands for. -/
def Record.ofContent : Content → Except DocumentFault Record
  | .list items => Record.ofItems items
  | _ => .error (.shape .record)

namespace Stimulus

mutual

/-- The stimulus that content stands for: a record if that is possible, else a group. -/
def ofContent : Content → Option Stimulus
  | .list items =>
    match Record.ofItems items with
    | .ok r => some (.record r)
    | .error _ => (ofContents items).map .group
  | _ => none

/-- The stimuli that several pieces of content stand for. -/
def ofContents : List Content → Option (List Stimulus)
  | [] => some []
  | c :: rest =>
    match ofContent c with
    | none => none
    | some s => (ofContents rest).map (s :: ·)

end

end Stimulus

/-- The corpus that content stands for: a list of stimuli. -/
def Corpus.ofContent : Content → Option Corpus
  | .list items => (Stimulus.ofContents items).map .mk
  | _ => none

/-! ## Documents -/

/-- A stimulus document. -/
inductive Document
  | corpus (corpus : Corpus)
  /-- Stimuli under a key, as written by hand. -/
  | keyed (entries : List Stimulus)
  deriving Repr

namespace Document

/-- The entries at the top of a document. -/
def entries : Document → List Stimulus
  | .corpus c => c.entries
  | .keyed entries => entries

/-- The records of a document in replay order. -/
def records (d : Document) : List Record := (Corpus.mk d.entries).flatten

/-- Whether a key names the stimuli of a document; no answer if it is no key at all. -/
def namesStimuli? : Content → Option Bool
  | .text s => some (s = "arr")
  | .natural n => some (n = 0)
  | _ => none

/-- The values under the key of the stimuli, if every key is one. -/
def stimuliValues? : List (Content × Content) → Option (List Content)
  | [] => some []
  | (key, value) :: rest => do
    let isIt ← namesStimuli? key
    let values ← stimuliValues? rest
    return if isIt then value :: values else values

/-- The stimuli of a mapping, whose key for them has to be there exactly once. -/
def keyed? (entries : List (Content × Content)) : Option Document :=
  match stimuliValues? entries with
  | some [.list items] => (Stimulus.ofContents items).map .keyed
  | _ => none

/-- The stimulus document that content stands for. -/
def ofContent (c : Content) : Except DocumentFault Document :=
  match Corpus.ofContent c with
  | some found => .ok (.corpus found)
  | none =>
    let keyed := match c with
      | .mapping entries => keyed? entries
      | _ => none
    match keyed with
    | some d => .ok d
    | none => .error (.shape .document)

end Document

/-! ## JSON trees -/

namespace Content

mutual

/-- A JSON value as content. -/
def ofJson : Json → Content
  | .null => .unit
  | .bool b => .bool b
  | .int n => if 0 ≤ n then .natural n.toNat else .negative n.natAbs
  | .float x => .float x
  | .string s => .text s
  | .array items => .list (ofJsonItems items)
  | .object members => .mapping (ofJsonMembers members)

/-- The items of a JSON list as content. -/
def ofJsonItems : List Json → List Content
  | [] => []
  | v :: rest => ofJson v :: ofJsonItems rest

/-- The members of a JSON object as content. -/
def ofJsonMembers : List (String × Json) → List (Content × Content)
  | [] => []
  | (name, v) :: rest => (.text name, ofJson v) :: ofJsonMembers rest

end

end Content

/-- Why a JSON tree is refused. -/
inductive JsonTreeFault
  /-- The tree is no list. -/
  | notAList (tree : Json)
  | content (fault : DocumentFault)

/-- The wording of a refused JSON tree. -/
def JsonTreeFault.message : JsonTreeFault → String
  | .notAList tree => "invalid type: " ++ tree.described ++ ", expected a sequence"
  | .content fault => fault.message

/-- The record that a JSON tree stands for. -/
def Record.ofJson (tree : Json) : Except JsonTreeFault Record :=
  (Record.ofContent (.ofJson tree)).mapError .content

/-- The corpus that a JSON tree stands for. -/
def Corpus.ofJson (tree : Json) : Except JsonTreeFault Corpus :=
  match tree with
  | .array items =>
    match Stimulus.ofContents (Content.ofJsonItems items) with
    | some entries => .ok ⟨entries⟩
    | none => .error (.content (.shape .stimulus))
  | _ => .error (.notAList tree)

end StimulusBench
