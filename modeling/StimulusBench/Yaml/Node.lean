import StimulusBench.Document
import StimulusBench.Yaml.Resolution

/-!
# `StimulusBench.Yaml.Node` — aliases and the nodes they stand for

An anchor gives a node a number, and an alias stands for the node that its number leads to. The
number of an anchor is how many different names were known before it; a name that is given again
keeps its place in that count, so two anchors may end up with one number, and then the later node
counts for both.

## Contents
- **Faults.** `ContentProblem`, why content is refused, and `ReadFault`, all that can end the
  reading of a document; their wording.
- **Node events.** `NodeEvent`: events whose aliases carry a number instead of a name.
- **Documents.** `NodeDocument.ofText` numbers the aliases of the first document of a text.
-/

namespace StimulusBench.Yaml

/-! ## Faults -/

/-- A step from a node to one of its parts. -/
inductive PathStep
  | index (n : Nat)
  | key (text : List Char)
  /-- The value of a key that is no scalar. -/
  | unnamed
  deriving Repr, DecidableEq

/-- The steps from the root to a node, the last one first. -/
abbrev Path := List PathStep

/-- A path in words. The root is a point. -/
def Path.text : Path → String
  | [] => "."
  | .index n :: outer => Path.text outer ++ "[" ++ Numeral.decimalText n ++ "]"
  | .key s :: [] => String.ofList s
  | .key s :: outer => Path.text outer ++ "." ++ String.ofList s
  | .unnamed :: [] => "?"
  | .unnamed :: outer => Path.text outer ++ ".?"

/-- A node by its path and its mark. -/
structure Place where
  path : Path
  mark : Mark
  deriving Repr, DecidableEq

/-- Puts the position behind a message, unless it is the very start of the text. -/
def Mark.locate (m : Mark) (message : String) : String :=
  if m.line = 0 ∧ m.column = 0 then message else message ++ " at " ++ m.text

/-- Puts a message about a node behind its path, and the position behind the message. -/
def Place.locate (p : Place) (message : String) : String :=
  p.mark.locate (if p.path = [] then message else p.path.text ++ ": " ++ message)

/-- What a node was expected to be. -/
inductive Expected
  | anyValue
  | list
  deriving Repr, DecidableEq

/-- The name of an expectation in a message. -/
def Expected.name : Expected → String
  | .anyValue => "any value"
  | .list => "a sequence"

/-- Why the content of a node is refused. -/
inductive ContentProblem
  /-- A scalar stands for nothing. -/
  | scalar (fault : ScalarFault) (expected : Expected)
  /-- The node is something else than the list that was expected. -/
  | notAList (found : String)
  /-- The node has a tag that is local to its application. -/
  | localTag
  /-- The content is no record, stimulus or document. -/
  | document (fault : DocumentFault)
  deriving Repr, DecidableEq

/-- The wording of refused content. -/
def ContentProblem.message : ContentProblem → String
  | .scalar fault expected => fault.message expected.name
  | .notAList found => "invalid type: " ++ found ++ ", expected " ++ Expected.list.name
  | .localTag => "untagged and internally tagged enums do not support enum input"
  | .document fault => fault.message

/-- What can end the reading of a document. -/
inductive ReadFault
  /-- The text has no proper form. -/
  | form (fault : Fault)
  | unknownAnchor (mark : Mark)
  /-- Lists and mappings lie too deep. -/
  | depth (mark : Mark)
  /-- Aliases are followed too often. -/
  | repetition
  | endOfText
  /-- Another document follows. -/
  | moreDocuments
  /-- The content is not what was expected. The content of the whole document has no place. -/
  | content (problem : ContentProblem) (place : Option Place)
  deriving Repr, DecidableEq

namespace ReadFault

/-- The wording of a fault. -/
def message : ReadFault → String
  | .form f => f.message
  | .unknownAnchor mark => mark.locate "unknown anchor"
  | .depth mark => mark.locate "recursion limit exceeded"
  | .repetition => "repetition limit exceeded"
  | .endOfText => "EOF while parsing a value"
  | .moreDocuments => "deserializing from YAML containing more than one document is not supported"
  | .content problem none => problem.message
  | .content problem (some place) => place.locate problem.message

/-- Whether the text itself is at fault, not what it says. -/
def isForm : ReadFault → Bool
  | .form _ => true
  | _ => false

end ReadFault

/-! ## Node events -/

/-- The start or end of a node. -/
inductive NodeEvent
  | alias (number : Nat)
  | scalar (tag : Option Tag) (text : List Char) (style : ScalarStyle)
  | listStart (tag : Option Tag)
  | listEnd
  | mappingStart (tag : Option Tag)
  | mappingEnd
  /-- The node of a text without a document. -/
  | absent
  deriving Repr, DecidableEq

/-- A node event and the mark of its node. -/
abbrev MarkedNode := NodeEvent × Mark

/-- The first document of a text. -/
structure NodeDocument where
  nodes : List MarkedNode
  /-- Where the node of a number starts; of several places the first one in the list counts. -/
  targets : List (Nat × Nat)
  /-- The fault that ends the nodes. -/
  fault : Option ReadFault
  /-- Whether nothing but the end of the text follows. -/
  alone : Bool
  deriving Repr

/-! ## Documents -/

/-- The anchors known so far. -/
structure Anchors where
  /-- The numbers of the names; of several numbers the first one in the list counts. -/
  numbers : List (List Char × Nat)
  /-- How many different names there are. -/
  count : Nat
  targets : List (Nat × Nat)

namespace Anchors

/-- No anchors. -/
def none : Anchors := ⟨[], 0, []⟩

/-- The anchors with that of a node at a position, if it has one. -/
def note (known : Anchors) (anchor : Option (List Char)) (position : Nat) : Anchors :=
  match anchor with
  | Option.none => known
  | some name =>
    { numbers := (name, known.count) :: known.numbers
      count := if (known.numbers.lookup name).isSome then known.count else known.count + 1
      targets := (known.count, position) :: known.targets }

end Anchors

/-- Numbers the aliases among some events, the first of them at a position. The nodes so far stand
    in reverse order. An alias without an anchor in front of it ends the nodes. -/
def number (known : Anchors) (position : Nat) (acc : List MarkedNode) :
    List MarkedEvent → List MarkedNode × Anchors × Option ReadFault
  | [] => (acc.reverse, known, none)
  | (event, mark) :: rest =>
    match event with
    | .alias name =>
      match known.numbers.lookup name with
      | some n => number known (position + 1) ((.alias n, mark) :: acc) rest
      | none => (acc.reverse, known, some (.unknownAnchor mark))
    | .scalar props text style =>
      number (known.note props.anchor position) (position + 1)
        ((.scalar props.tag text style, mark) :: acc) rest
    | .listStart props =>
      number (known.note props.anchor position) (position + 1)
        ((.listStart props.tag, mark) :: acc) rest
    | .mappingStart props =>
      number (known.note props.anchor position) (position + 1)
        ((.mappingStart props.tag, mark) :: acc) rest
    | .listEnd => number known (position + 1) ((.listEnd, mark) :: acc) rest
    | .mappingEnd => number known (position + 1) ((.mappingEnd, mark) :: acc) rest

namespace NodeDocument

/-- The document of some events. -/
def ofEvents (d : DocumentEvents) : NodeDocument :=
  if d.events.isEmpty && d.fault.isNone then ⟨[(.absent, .start)], [], none, d.alone⟩
  else
    let (nodes, anchors, unknown) := number .none 0 [] d.events
    match unknown with
    | some fault => ⟨nodes, anchors.targets, some fault, false⟩
    | none => ⟨nodes, anchors.targets, d.fault.map .form, d.alone⟩

/-- The first document of a text. -/
def ofText (text : String) : NodeDocument :=
  ofEvents (.ofTokens (.ofChars text.toList))

/-- The fault at the end of the nodes. -/
def endFault (d : NodeDocument) : ReadFault := d.fault.getD .endOfText

/-- What follows the node of the document: a fault, another document, or nothing. -/
def finish (d : NodeDocument) : Except ReadFault Unit :=
  match d.fault with
  | some fault => .error fault
  | none => if d.alone then .ok () else .error .moreDocuments

/-- The nodes from the one that a number leads to. -/
def target (d : NodeDocument) (n : Nat) : List MarkedNode :=
  match d.targets.lookup n with
  | some position => d.nodes.drop position
  | none => []

end NodeDocument

end StimulusBench.Yaml
