import StimulusBench.Proofs.Yaml.Following
import StimulusBench.Proofs.Yaml.Resolution
import StimulusBench.Yaml.Reading

/-!
# `StimulusBench.Proofs.Yaml.Gathering` — the content of nested lists

The nodes of a nest carry neither anchors nor tags and no aliases stand among them, so that reading them
never jumps and never refuses a tag. What can go wrong is depth and the size of a number; with both in
bounds, both written forms of a nest are read as its content.

## Contents
- **Nodes.** `Listing.nodes`; `number_bare` numbers nothing where there are no anchors.
- **Documents.** `NodeDocument.Holds`: a document that is a nest and nothing else. `holds_block` and
  `holds_bracketed` say so of the written forms.
- **Gathering.** `ReadsAs`, what a reader makes of a nest wherever it stands; `gatherItems_reads` for a
  list item by item, `contentOf_reads` for the content.
- **Results.** `Holds.finish`, `Holds.content` and `Holds.gatherItems`.
-/

namespace StimulusBench

namespace Yaml

/-! ## Nodes -/

namespace Event

/-- Whether an event neither refers to another node nor may be referred to. -/
def isBare : Event → Bool
  | .alias _ => false
  | .scalar props _ _ => props.anchor.isNone
  | .listStart props => props.anchor.isNone
  | .mappingStart props => props.anchor.isNone
  | .listEnd => true
  | .mappingEnd => true

/-- The node event that an event becomes if it is bare. -/
def node : Event → NodeEvent
  | .alias _ => .absent
  | .scalar props text style => .scalar props.tag text style
  | .listStart props => .listStart props.tag
  | .mappingStart props => .mappingStart props.tag
  | .listEnd => .listEnd
  | .mappingEnd => .mappingEnd

end Event

/-- Whether a node event is a scalar or starts a list. -/
def NodeEvent.opens : NodeEvent → Bool
  | .scalar _ _ _ => true
  | .listStart _ => true
  | _ => false

/-- A bare event is taken over as it is. -/
theorem number_cons_bare (known : Anchors) (position : Nat) (acc : List MarkedNode) {event : Event}
    (hbare : event.isBare = true) (mark : Mark) (rest : List MarkedEvent) :
    number known position acc ((event, mark) :: rest) =
      number known (position + 1) ((event.node, mark) :: acc) rest := by
  match event, hbare with
  | .scalar ⟨none, tag⟩ text style, _ => rfl
  | .listStart ⟨none, tag⟩, _ => rfl
  | .mappingStart ⟨none, tag⟩, _ => rfl
  | .listEnd, _ => rfl
  | .mappingEnd, _ => rfl

/-- **Events without anchors and aliases** leave nothing to number. -/
theorem number_bare {marked : List MarkedEvent} (h : ∀ e ∈ marked, e.1.isBare = true) (known : Anchors)
    (position : Nat) (acc : List MarkedNode) :
    number known position acc marked =
      (acc.reverse ++ marked.map fun e => (e.1.node, e.2), known, none) := by
  induction marked generalizing position acc with
  | nil => rw [List.map_nil, List.append_nil]; rfl
  | cons e rest ih =>
      rw [number_cons_bare known position acc (h e List.mem_cons_self),
        ih fun e he => h e (List.mem_cons_of_mem _ he), List.reverse_cons, List.append_assoc]
      rfl

end Yaml

namespace Listing

open Yaml (Event NodeEvent)

theorem eventsOfItems_eq (items : List Listing) : eventsOfItems items = items.flatMap events := by
  induction items with
  | nil => rfl
  | cons item rest ih => rw [eventsOfItems, ih, List.flatMap_cons]

theorem isBare_of_mem_events {l : Listing} {e : Event} (h : e ∈ l.events) : e.isBare = true := by
  induction l generalizing e with
  | number n =>
      rw [List.mem_singleton.mp h]
      rfl
  | list items ih =>
      rw [events, eventsOfItems_eq] at h
      rcases List.mem_cons.mp h with rfl | h
      · rfl
      · rcases List.mem_append.mp h with h | h
        · obtain ⟨item, hitem, he⟩ := List.mem_flatMap.mp h
          exact ih item hitem he
        · rw [List.mem_singleton.mp h]
          rfl

/-- The nodes of a nest. -/
def nodes (l : Listing) : List NodeEvent := l.events.map Event.node

theorem nodes_list (items : List Listing) :
    (list items).nodes = .listStart none :: (items.flatMap nodes ++ [.listEnd]) := by
  rw [nodes, events, eventsOfItems_eq, List.map_cons, List.map_append, List.map_flatMap]
  rfl

theorem nodes_eq_cons (l : Listing) :
    ∃ node nodes, l.nodes = node :: nodes ∧ node.opens = true := by
  cases l with
  | number n => exact ⟨_, _, rfl, rfl⟩
  | list items => exact ⟨_, _, nodes_list items, rfl⟩

end Listing

namespace Yaml

open Listing

/-! ## Documents -/

namespace NodeDocument

/-- **A document that is a nest** and nothing else. -/
structure Holds (d : NodeDocument) (l : Listing) : Prop where
  nodes : d.nodes.map (·.1) = l.nodes
  fault : d.fault = none
  alone : d.alone = true

theorem holds_ofEvents {l : Listing} {marked : List MarkedEvent} (h : marked.map (·.1) = l.events) :
    (ofEvents ⟨marked, none, true⟩).Holds l := by
  have hbare : ∀ e ∈ marked, e.1.isBare = true := fun e he =>
    isBare_of_mem_events (h ▸ List.mem_map_of_mem he)
  have hsome : marked.isEmpty = false := by
    cases marked with
    | nil =>
        obtain ⟨node, nodes, hnodes, -⟩ := l.nodes_eq_cons
        rw [Listing.nodes, ← h] at hnodes
        cases hnodes
    | cons e rest => rfl
  have hdocument : ofEvents ⟨marked, none, true⟩ =
      ⟨marked.map fun e => (e.1.node, e.2), [], none, true⟩ := by
    unfold ofEvents
    dsimp only
    rw [hsome, number_bare hbare]
    rfl
  rw [hdocument]
  refine ⟨?_, rfl, rfl⟩
  rw [Listing.nodes, ← h, List.map_map, List.map_map]
  rfl

/-- A nest in lines is the document it is written as. -/
theorem holds_block (l : Listing) : (ofText l.block).Holds l := by
  obtain ⟨marked, hevents, hmarked⟩ := events_of_block l
  rw [ofText, Listing.block, String.toList_ofList, hevents]
  exact holds_ofEvents hmarked

/-- A list in brackets is the document it is written as. -/
theorem holds_bracketed (items : List Listing) :
    (ofText (String.ofList (Listing.list items).bracketed)).Holds (.list items) := by
  obtain ⟨marked, hevents, hmarked⟩ := events_of_bracketed items
  rw [ofText, String.toList_ofList, hevents]
  exact holds_ofEvents hmarked

theorem Holds.finish {d : NodeDocument} {l : Listing} (h : d.Holds l) : d.finish = .ok () := by
  unfold NodeDocument.finish
  rw [h.fault, h.alone]
  rfl

/-! ## Gathering -/

variable {α : Type} {read : Reads α} {l : Listing} {v : α}

/-- **A reader makes a value of a nest**, at whatever path it stands and whatever follows it, without
    following any alias. -/
def ReadsAs (read : Reads α) (l : Listing) (v : α) : Prop :=
  ∀ (path : Path) (nodes rest : List MarkedNode) (jumps : Nat), nodes.map (·.1) = l.nodes →
    read path ⟨nodes ++ rest, jumps⟩ = .ok (v, ⟨rest, jumps⟩)

theorem ReadsAs.throughAlias (h : ReadsAs read l v) (d : NodeDocument) :
    ReadsAs (d.throughAlias read) l v := by
  intro path nodes rest jumps hnodes
  rw [← h path nodes rest jumps hnodes]
  obtain ⟨node, inner, hfirst, hopens⟩ := l.nodes_eq_cons
  rw [hfirst] at hnodes
  obtain ⟨⟨node, mark⟩, nodes, rfl, rfl, -⟩ := List.map_eq_cons_iff.mp hnodes
  cases node with
  | scalar tag text style => rfl
  | listStart tag => rfl
  | _ => cases hopens

theorem gatherItems_item (d : NodeDocument) (read : Reads α) (path : Path) (fuel index : Nat)
    {node : NodeEvent} (hnode : node ≠ .listEnd) (mark : Mark) (nodes : List MarkedNode) (jumps : Nat) :
    d.gatherItems read path (fuel + 1) index ⟨(node, mark) :: nodes, jumps⟩ = (do
      let (v, ahead) ← read (.index index :: path) ⟨(node, mark) :: nodes, jumps⟩
      let (vs, ahead) ← d.gatherItems read path fuel (index + 1) ahead
      return (v :: vs, ahead)) := by
  cases node with
  | listEnd => exact absurd rfl hnode
  | _ => rfl

/-- **The items of a list** are read one after the other up to its end. -/
theorem gatherItems_reads {β : Type} {xs : List β} {form : β → Listing} {value : β → α}
    (hitems : ∀ x ∈ xs, ReadsAs read (form x) (value x)) (d : NodeDocument) (path : Path)
    {nodes : List MarkedNode}
    (hnodes : nodes.map (·.1) = (xs.flatMap fun x => (form x).nodes) ++ [.listEnd]) {fuel : Nat}
    (hfuel : nodes.length ≤ fuel) (index : Nat) (rest : List MarkedNode) (jumps : Nat) :
    d.gatherItems read path fuel index ⟨nodes ++ rest, jumps⟩ = .ok (xs.map value, ⟨rest, jumps⟩) := by
  induction xs generalizing fuel index nodes with
  | nil =>
      obtain ⟨⟨node, mark⟩, nodes, rfl, rfl, hend⟩ := List.map_eq_cons_iff.mp hnodes
      obtain ⟨fuel, rfl⟩ := Nat.exists_eq_add_one_of_ne_zero (Nat.ne_of_gt (Nat.zero_lt_of_lt hfuel))
      rw [List.map_eq_nil_iff.mp hend]
      rfl
  | cons x xs ih =>
      rw [List.flatMap_cons, List.append_assoc] at hnodes
      obtain ⟨first, more, rfl, hfirst, hmore⟩ := List.map_eq_append_iff.mp hnodes
      -- for one item, the items behind it are part of what follows
      have hread := hitems x List.mem_cons_self (.index index :: path) first (more ++ rest) jumps hfirst
      obtain ⟨node, inner, hnode, hopens⟩ := (form x).nodes_eq_cons
      rw [hnode] at hfirst
      obtain ⟨⟨node, mark⟩, behind, rfl, rfl, -⟩ := List.map_eq_cons_iff.mp hfirst
      rw [List.length_append, List.length_cons] at hfuel
      obtain ⟨fuel, rfl⟩ := Nat.exists_eq_add_one_of_ne_zero (show fuel ≠ 0 by omega)
      have hend : node ≠ .listEnd := by
        rintro rfl
        cases hopens
      have hgather := ih (fun y hy => hitems y (List.mem_cons_of_mem _ hy)) hmore
        (show more.length ≤ fuel by omega) (index + 1)
      rw [List.append_assoc, List.cons_append, gatherItems_item d read path fuel index hend,
        ← List.cons_append, hread]
      show (d.gatherItems read path fuel (index + 1) ⟨more ++ rest, jumps⟩ >>= _) = _
      rw [hgather]
      rfl

theorem contentOf_scalar (d : NodeDocument) (depth : Nat) (path : Path) (text : List Char)
    (style : ScalarStyle) (mark : Mark) (nodes : List MarkedNode) (jumps : Nat) {c : Content}
    (h : resolve none text style = .ok c) :
    d.contentOf depth path ⟨(.scalar none text style, mark) :: nodes, jumps⟩ =
      .ok (c, ⟨nodes, jumps⟩) := by
  rw [contentOf.eq_def]
  dsimp only [refuseLocal]
  rw [h]
  rfl

theorem contentOf_list (d : NodeDocument) (depth : Nat) (path : Path) (mark : Mark)
    (nodes : List MarkedNode) (jumps : Nat) :
    d.contentOf (depth + 1) path ⟨(.listStart none, mark) :: nodes, jumps⟩ = (do
      let (items, behind) ← d.gatherItems (d.throughAlias (d.contentOf depth)) path (nodes.length + 1) 0
        ⟨nodes, jumps⟩
      return (.list items, behind)) := by
  rw [contentOf.eq_def]
  rfl

/-- **The content of a nest** no deeper than allowed, whose numbers fit into 64 bits. -/
theorem contentOf_reads (d : NodeDocument) {depth : Nat} (hdepth : l.depth ≤ depth)
    (hnumbers : ∀ n ∈ l.numbers, n < 1 <<< 64) : ReadsAs (d.contentOf depth) l l.content := by
  induction l generalizing depth with
  | number n =>
      intro path nodes rest jumps hnodes
      obtain ⟨⟨node, mark⟩, nodes, rfl, rfl, hend⟩ := List.map_eq_cons_iff.mp hnodes
      rw [List.map_eq_nil_iff.mp hend, List.singleton_append]
      exact contentOf_scalar d depth path _ _ mark rest jumps
        (resolve_decimal (hnumbers n (List.mem_singleton.mpr rfl)))
  | list items ih =>
      intro path nodes rest jumps hnodes
      rw [nodes_list] at hnodes
      obtain ⟨⟨node, mark⟩, nodes, rfl, rfl, hitems⟩ := List.map_eq_cons_iff.mp hnodes
      rw [Listing.depth] at hdepth
      obtain ⟨depth, rfl⟩ := Nat.exists_eq_add_of_le' (Nat.le_trans (Nat.le_add_left 1 _) hdepth)
      -- a list takes one level, and its items are read with the levels left
      have hread : ∀ item ∈ items, ReadsAs (d.throughAlias (d.contentOf depth)) item item.content := by
        intro item hitem
        have hle : item.depth ≤ depth :=
          Nat.le_trans (depth_le_depthItems hitem) (Nat.le_of_succ_le_succ hdepth)
        exact (ih item hitem hle fun n hn => hnumbers n (mem_numbers_list hitem hn)).throughAlias d
      have hfuel : nodes.length ≤ (nodes ++ rest).length + 1 := by
        rw [List.length_append]
        omega
      have hgather := gatherItems_reads hread d path hitems hfuel 0 rest jumps
      rw [List.cons_append, contentOf_list, hgather, Listing.content, contentItems_eq]
      rfl

/-! ## Results -/

variable {d : NodeDocument}

/-- **The content of a document** that is a nest. -/
theorem Holds.content (h : d.Holds l) (hdepth : l.depth ≤ maxDepth)
    (hnumbers : ∀ n ∈ l.numbers, n < 1 <<< 64) : d.content = .ok l.content := by
  have hread := (contentOf_reads d hdepth hnumbers).throughAlias d [] d.nodes [] 0 h.nodes
  rw [List.append_nil] at hread
  rw [NodeDocument.content, hread]
  rfl

/-- **The items of a document** that is a list, read one after the other. -/
theorem Holds.gatherItems {β : Type} {xs : List β} {form : β → Listing}
    (h : d.Holds (.list (xs.map form))) :
    ∃ mark nodes, d.nodes = (.listStart none, mark) :: nodes ∧
      ∀ (read : Reads α) (value : β → α), (∀ x ∈ xs, ReadsAs read (form x) (value x)) →
        d.gatherItems read [] (nodes.length + 1) 0 ⟨nodes, 0⟩ = .ok (xs.map value, ⟨[], 0⟩) := by
  have hnodes := h.nodes
  rw [nodes_list, List.flatMap_map] at hnodes
  obtain ⟨⟨node, mark⟩, nodes, hd, rfl, hitems⟩ := List.map_eq_cons_iff.mp hnodes
  refine ⟨mark, nodes, hd, fun read value hread => ?_⟩
  have hgather := gatherItems_reads hread d [] hitems (Nat.le_succ _) 0 [] 0
  rw [List.append_nil] at hgather
  exact hgather

end NodeDocument

end Yaml

end StimulusBench
