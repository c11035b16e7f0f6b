import StimulusBench.Yaml.Node

/-!
# `StimulusBench.Yaml.Reading` — records and stimuli in YAML texts

The nodes of a document are gathered into content, and content is read as a record, a corpus or a
stimulus document. A corpus is read item by item, so that the first item that is no stimulus is
reported even if the text goes wrong behind it. A record or a stimulus document is looked at only
when all of the text was read.

## Contents
- **Gathering.** `NodeDocument.contentOf` gathers one node, `gatherItems` and `gatherEntries` the
  parts of a list and of a mapping.
- **Entry points.** `Record.ofYaml`, `Corpus.ofYaml`, `Document.ofYaml`.
-/

namespace StimulusBench.Yaml

/-! ## Gathering -/

/-- How deep lists and mappings may lie in each other. -/
def maxDepth : Nat := 128

/-- The nodes ahead, and how often an alias was followed so far. -/
structure Ahead where
  nodes : List MarkedNode
  jumps : Nat
  deriving Repr

/-- A reader of one node at a path. -/
abbrev Reads (α : Type) := Path → Ahead → Except ReadFault (α × Ahead)

namespace NodeDocument

/-- Reads the items of a list up to its end, which is taken too. The fuel counts nodes. -/
def gatherItems {α : Type} (d : NodeDocument) (item : Reads α) (path : Path) :
    (fuel index : Nat) → Ahead → Except ReadFault (List α × Ahead)
  | 0, _, _ => .error d.endFault
  | fuel + 1, index, ahead =>
    match ahead.nodes with
    | [] => .error d.endFault
    | (.listEnd, _) :: rest => .ok ([], ⟨rest, ahead.jumps⟩)
    | _ :: _ => do
      let (v, ahead) ← item (.index index :: path) ahead
      let (vs, ahead) ← gatherItems d item path fuel (index + 1) ahead
      return (v :: vs, ahead)

/-- The step from a mapping to the value behind the node ahead. -/
def keyStep : List MarkedNode → PathStep
  | (.scalar _ text _, _) :: _ => .key text
  | _ => .unnamed

/-- Reads the entries of a mapping up to its end, which is taken too. A key is read at the path of
    the mapping itself. The fuel counts nodes. -/
def gatherEntries {α : Type} (d : NodeDocument) (part : Reads α) (path : Path) :
    (fuel : Nat) → Ahead → Except ReadFault (List (α × α) × Ahead)
  | 0, _ => .error d.endFault
  | fuel + 1, ahead =>
    match ahead.nodes with
    | [] => .error d.endFault
    | (.mappingEnd, _) :: rest => .ok ([], ⟨rest, ahead.jumps⟩)
    | _ :: _ => do
      let step := keyStep ahead.nodes
      let (key, ahead) ← part path ahead
      let (value, ahead) ← part (step :: path) ahead
      let (entries, ahead) ← gatherEntries d part path fuel ahead
      return ((key, value) :: entries, ahead)

/-- Follows the alias ahead, if there is one, and reads the node it stands for. Aliases may be
    followed a hundred times for every node of the document. -/
def throughAlias {α : Type} (d : NodeDocument) (read : Reads α) : Reads α := fun path ahead =>
  match ahead.nodes with
  | (.alias n, _) :: rest =>
    if ahead.jumps + 1 > d.nodes.length * 100 then .error .repetition
    else do
      let (v, behind) ← read path ⟨d.target n, ahead.jumps + 1⟩
      return (v, ⟨rest, behind.jumps⟩)
  | _ => read path ahead

/-- Refuses a node with a local tag. -/
def refuseLocal (tag : Option Tag) (place : Place) : Except ReadFault Unit :=
  match tag with
  | some t => if hasLocalName t then .error (.content .localTag (some place)) else .ok ()
  | none => .ok ()

/-- The content of the node ahead, which is no alias. At most `depth` lists and mappings may lie in
    each other. -/
def contentOf (d : NodeDocument) (depth : Nat) : Reads Content := fun path ahead =>
  match ahead.nodes with
  | [] => .error d.endFault
  | (node, mark) :: rest =>
    match node with
    | .scalar tag text style => do
      refuseLocal tag ⟨path, mark⟩
      match resolve tag text style with
      | .ok c => return (c, ⟨rest, ahead.jumps⟩)
      | .error fault => throw (.content (.scalar fault .anyValue) (some ⟨path, mark⟩))
    | .listStart tag => do
      refuseLocal tag ⟨path, mark⟩
      match depth with
      | 0 => throw (.depth mark)
      | depth + 1 =>
        let (items, behind) ← d.gatherItems (d.throughAlias (contentOf d depth)) path
          (rest.length + 1) 0 ⟨rest, ahead.jumps⟩
        return (.list items, behind)
    | .mappingStart tag => do
      refuseLocal tag ⟨path, mark⟩
      match depth with
      | 0 => throw (.depth mark)
      | depth + 1 =>
        let (entries, behind) ← d.gatherEntries (d.throughAlias (contentOf d depth)) path
          (rest.length + 1) ⟨rest, ahead.jumps⟩
        return (.mapping entries, behind)
    | .absent => .ok (.unit, ⟨rest, ahead.jumps⟩)
    | .alias _ => .error d.endFault
    | .listEnd => .error d.endFault
    | .mappingEnd => .error d.endFault

/-- The content of the whole document. -/
def content (d : NodeDocument) : Except ReadFault Content :=
  (d.throughAlias (d.contentOf maxDepth) [] ⟨d.nodes, 0⟩).map (·.1)

/-- Reads a stimulus inside the list that starts at a mark. -/
def stimulus (d : NodeDocument) (listMark : Mark) : Reads Stimulus := fun path ahead => do
  let (c, behind) ← d.throughAlias (d.contentOf (maxDepth - 1)) path ahead
  match Stimulus.ofContent c with
  | some s => return (s, behind)
  | none =>
    throw (.content (.document (.shape .stimulus)) (some ⟨[], listMark⟩))

/-- A node in place of a list. -/
def notAList (found : String) (mark : Mark) : Except ReadFault (List Stimulus) :=
  .error (.content (.notAList found) (some ⟨[], mark⟩))

/-- The stimuli of the list that the document is. An absent or empty node is an empty list. -/
def stimuli (d : NodeDocument) : Except ReadFault (List Stimulus) :=
  match d.nodes with
  | [] => .error d.endFault
  | (node, mark) :: rest =>
    match node with
    | .listStart _ =>
      (d.gatherItems (d.stimulus mark) [] (rest.length + 1) 0 ⟨rest, 0⟩).map (·.1)
    | .absent => .ok []
    | .scalar tag text style =>
      if text.isEmpty && style = .plain then .ok []
      else match resolve tag text style with
        | .ok c => notAList c.described mark
        | .error fault => .error (.content (.scalar fault .list) (some ⟨[], mark⟩))
    | .mappingStart _ => notAList "map" mark
    | .alias _ => .error d.endFault
    | .listEnd => .error d.endFault
    | .mappingEnd => .error d.endFault

end NodeDocument

end StimulusBench.Yaml

/-! ## Entry points -/

namespace StimulusBench

open Yaml (NodeDocument ReadFault)

/-- The record that a YAML text holds. -/
def Record.ofYaml (text : String) : Except ReadFault Record := do
  let d := NodeDocument.ofText text
  let c ← d.content
  d.finish
  (Record.ofContent c).mapError fun fault => .content (.document fault) none

/-- The corpus that a YAML text holds. -/
def Corpus.ofYaml (text : String) : Except ReadFault Corpus := do
  let d := NodeDocument.ofText text
  let entries ← d.stimuli
  d.finish
  return ⟨entries⟩

/-- The stimulus document that a YAML text holds. -/
def Document.ofYaml (text : String) : Except ReadFault Document := do
  let d := NodeDocument.ofText text
  let c ← d.content
  d.finish
  (Document.ofContent c).mapError fun fault => .content (.document fault) none

end StimulusBench
