import StimulusBench.Proofs.Yaml.BlockText
import StimulusBench.Yaml.Event

/-!
# `StimulusBench.Proofs.Yaml.Following` — the events of nested lists

The two written forms of a nest have different tokens but the same events. What the reader of events does
with the tokens of a node does not depend on the goals below the node or on the tokens behind it, so that
a list is followed item by item: `Follows` is a run of the reader from some goals and tokens to others,
and `NodeOf` says that tokens of some kinds are a node with some events wherever they stand.

## Contents
- **Events.** `Listing.events`.
- **Runs.** `Follows`, its composition, and its steps, each of which lowers `remaining`.
- **Nodes.** `NodeOf`, for scalars, for lists in brackets (`nodeOf_flowKinds`) and for lists in lines
  (`nodeOf_blockKinds`).
- **Documents.** `ofTokens_of_nodeOf`: a text that is a node has its events and nothing else;
  `events_of_block` and `events_of_bracketed` for the written forms.
-/

namespace StimulusBench

namespace Listing

open Yaml (Event TokenKind)

/-! ## Events -/

mutual

/-- The events of a nest. -/
def events : Listing → List Event
  | .number n => [.scalar .none (Numeral.decimal n) .plain]
  | .list items => .listStart .none :: (eventsOfItems items ++ [.listEnd])

/-- The events of the items of a list. -/
def eventsOfItems : List Listing → List Event
  | [] => []
  | item :: rest => events item ++ eventsOfItems rest

end

end Listing

namespace Yaml

open Listing

variable {handles : Handles} {goals goals' goals'' : List Goal} {ts ts' ts'' : List Token}
  {es es' : List Event}

/-! ## Runs -/

/-- Whether a goal is a node. -/
def Goal.isNode : Goal → Bool
  | .node _ _ => true
  | _ => false

/-- A bound on the steps that some goals and tokens still admit: every step takes a token, apart from
    the one that enters a node, and every token leads to one node at most. -/
def remaining (goals : List Goal) (ts : List Token) : Nat := 2 * ts.length + goals.countP (·.isNode)

theorem remaining_append (goals goals' : List Goal) (ts : List Token) :
    remaining (goals ++ goals') ts = remaining goals ts + goals'.countP (·.isNode) := by
  rw [remaining, remaining, List.countP_append, Nat.add_assoc]

/-- **A run** of the reader from some goals and tokens to others, and the events on the way. It does not
    depend on the events before it. -/
def Follows (handles : Handles) (goals : List Goal) (ts : List Token) (es : List Event)
    (goals' : List Goal) (ts' : List Token) : Prop :=
  ∃ (n : Nat) (marked : List MarkedEvent), n + remaining goals' ts' ≤ remaining goals ts ∧
    marked.map (·.1) = es ∧
    ∀ fuel acc, follow handles (n + fuel) goals acc ts =
      follow handles fuel goals' (marked.reverse ++ acc) ts'

theorem Follows.trans (h : Follows handles goals ts es goals' ts')
    (h' : Follows handles goals' ts' es' goals'' ts'') :
    Follows handles goals ts (es ++ es') goals'' ts'' := by
  obtain ⟨n, marked, hn, hes, hfirst⟩ := h
  obtain ⟨k, marked', hk, hes', hsecond⟩ := h'
  refine ⟨n + k, marked ++ marked', by omega, by rw [List.map_append, hes, hes'], ?_⟩
  intro fuel acc
  rw [Nat.add_assoc, hfirst, hsecond, List.reverse_append, List.append_assoc]

/-- One step that leaves less to do. -/
theorem Follows.step {goal : Goal} {event : Option MarkedEvent}
    (h : goal.step handles ts = .ok ⟨goals', event, ts'⟩)
    (hlt : remaining goals' ts' < remaining [goal] ts) (goals : List Goal) :
    Follows handles (goal :: goals) ts (event.toList.map (·.1)) (goals' ++ goals) ts' := by
  refine ⟨1, event.toList, ?_, rfl, ?_⟩
  · have hgoal := remaining_append [goal] goals ts
    rw [List.singleton_append] at hgoal
    rw [hgoal, remaining_append]
    omega
  · intro fuel acc
    rw [Nat.add_comm, follow, h]
    cases event <;> rfl

/-- **A step that takes a token**, for at most one node. -/
theorem Follows.take {goal : Goal} {event : Option MarkedEvent}
    (h : goal.step handles ts = .ok ⟨goals', event, ts'⟩) (hlt : ts'.length < ts.length)
    (hnodes : goals'.countP (·.isNode) ≤ 1) (goals : List Goal) :
    Follows handles (goal :: goals) ts (event.toList.map (·.1)) (goals' ++ goals) ts' := by
  apply Follows.step h
  unfold remaining
  omega

/-- **A step into a list** takes no token yet. -/
theorem Follows.enter {block unindented : Bool} {goal : Goal} {event : Option MarkedEvent}
    (h : Goal.step handles (.node block unindented) ts = .ok ⟨[goal], event, ts⟩)
    (hgoal : goal.isNode = false) (goals : List Goal) :
    Follows handles (.node block unindented :: goals) ts (event.toList.map (·.1)) (goal :: goals) ts := by
  apply Follows.step h
  have hnode : (Goal.node block unindented).isNode = true := rfl
  simp [remaining, hgoal, hnode]

/-! ## Nodes -/

/-- Tokens of these kinds, wherever they stand, are a node with these events. -/
def NodeOf (block : Bool) (kinds : List TokenKind) (es : List Event) : Prop :=
  ∀ (handles : Handles) (goals : List Goal) (ts : List Token) (more : List TokenKind),
    ts.map (·.kind) = kinds ++ more →
    ∃ ts', Follows handles (.node block false :: goals) ts es goals ts' ∧ ts'.map (·.kind) = more

theorem nodeOf_scalar (block : Bool) (text : List Char) (style : ScalarStyle) :
    NodeOf block [.scalar text style] [.scalar .none text style] := by
  intro handles goals ts more hkinds
  obtain ⟨⟨kind, mark⟩, ts, rfl, rfl, hmore⟩ := List.map_eq_cons_iff.mp hkinds
  have hscalar : Goal.step handles (.node block false) (⟨.scalar text style, mark⟩ :: ts) =
      .ok ⟨[], some (.scalar .none text style, mark), ts⟩ := rfl
  exact ⟨ts, .take hscalar (Nat.lt_succ_self _) (by decide) goals, hmore⟩

/-- The tokens that a node without properties starts with, mappings aside. -/
def startsNode : TokenKind → Bool
  | .scalar _ _ => true
  | .flowListStart => true
  | .blockListStart => true
  | _ => false

/-! ### In brackets -/

theorem startsNode_flowKindsOfItems (item : Listing) (rest : List Listing) :
    ∃ kind kinds, flowKindsOfItems (item :: rest) = kind :: kinds ∧ startsNode kind = true := by
  cases item <;> cases rest <;> exact ⟨_, _, rfl, rfl⟩

/-- The reader of a list in brackets goes on with an item where one stands. -/
theorem flowItem_eq {item : Listing} {rest : List Listing} {more : List TokenKind}
    (hkinds : ts.map (·.kind) = flowKindsOfItems (item :: rest) ++ more) :
    flowItem ts = .ok ⟨[.node false false, .flowItems false], none, ts⟩ := by
  obtain ⟨kind, kinds, hstart, hstarts⟩ := startsNode_flowKindsOfItems item rest
  rw [hstart] at hkinds
  obtain ⟨⟨kind, mark⟩, ts, rfl, rfl, -⟩ := List.map_eq_cons_iff.mp hkinds
  cases kind with
  | scalar text style => rfl
  | flowListStart => rfl
  | blockListStart => rfl
  | _ => cases hstarts

/-- **The items of a list in brackets**, seen behind the token in front of the first. -/
theorem follows_flowItems {item : Listing} {rest : List Listing}
    (hitems : ∀ l ∈ item :: rest, NodeOf false l.flowKinds l.events) {more : List TokenKind}
    (hkinds : ts.map (·.kind) = flowKindsOfItems (item :: rest) ++ .flowListEnd :: more) :
    ∃ ts', Follows handles (.node false false :: .flowItems false :: goals) ts
        (eventsOfItems (item :: rest) ++ [.listEnd]) goals ts' ∧
      ts'.map (·.kind) = more := by
  have hitem := hitems item List.mem_cons_self
  induction rest generalizing item ts with
  | nil =>
      obtain ⟨ts₁, hnode, hbehind⟩ := hitem handles (.flowItems false :: goals) ts _ hkinds
      obtain ⟨⟨kind, mark⟩, ts₂, rfl, rfl, hmore⟩ := List.map_eq_cons_iff.mp hbehind
      have hend : Goal.step handles (.flowItems false) (⟨.flowListEnd, mark⟩ :: ts₂) =
          .ok ⟨[], some (.listEnd, mark), ts₂⟩ := rfl
      rw [eventsOfItems, eventsOfItems, List.append_nil]
      exact ⟨ts₂, hnode.trans (.take hend (Nat.lt_succ_self _) (by decide) goals), hmore⟩
  | cons next rest ih =>
      rw [flowKindsOfItems_cons_cons, List.append_assoc] at hkinds
      obtain ⟨ts₁, hnode, hbehind⟩ := hitem handles (.flowItems false :: goals) ts _ hkinds
      obtain ⟨⟨kind, mark⟩, ts₂, rfl, rfl, hnext⟩ := List.map_eq_cons_iff.mp hbehind
      -- a comma and the start of the item behind it are one step
      have hcomma : Goal.step handles (.flowItems false) (⟨.flowEntry, mark⟩ :: ts₂) =
          .ok ⟨[.node false false, .flowItems false], none, ts₂⟩ := flowItem_eq hnext
      have hmore := fun l hl => hitems l (List.mem_cons_of_mem _ hl)
      obtain ⟨ts', hrest, hkinds'⟩ := ih hmore hnext (hmore next List.mem_cons_self)
      rw [eventsOfItems, List.append_assoc]
      exact ⟨ts', hnode.trans
        ((Follows.take hcomma (Nat.lt_succ_self _) (by decide) goals).trans hrest), hkinds'⟩

/-- **A list in brackets**, if its items are nodes. -/
theorem nodeOf_flowList (block : Bool) {items : List Listing}
    (hitems : ∀ l ∈ items, NodeOf false l.flowKinds l.events) :
    NodeOf block (flowKinds (.list items)) (events (.list items)) := by
  intro handles goals ts more hkinds
  rw [flowKinds, List.cons_append, List.cons_append, List.append_assoc] at hkinds
  obtain ⟨⟨kind, mark⟩, ts₁, rfl, rfl, hbehind⟩ := List.map_eq_cons_iff.mp hkinds
  have hstart : Goal.step handles (.node block false) (⟨.flowListStart, mark⟩ :: ts₁) =
      .ok ⟨[.flowItems true], some (.listStart .none, mark), ⟨.flowListStart, mark⟩ :: ts₁⟩ := rfl
  have hlist := Follows.enter hstart rfl goals
  -- an empty list ends in the step that would start its first item
  cases items with
  | nil =>
      obtain ⟨⟨kind, mark'⟩, ts₂, rfl, rfl, hmore⟩ := List.map_eq_cons_iff.mp hbehind
      have hend : Goal.step handles (.flowItems true)
          (⟨.flowListStart, mark⟩ :: ⟨.flowListEnd, mark'⟩ :: ts₂) =
          .ok ⟨[], some (.listEnd, mark'), ts₂⟩ := rfl
      have hlt : ts₂.length < ts₂.length + 1 + 1 := Nat.lt_succ_of_lt (Nat.lt_succ_self _)
      exact ⟨ts₂, hlist.trans (.take hend hlt (by decide) goals), hmore⟩
  | cons item rest =>
      have hfirst : Goal.step handles (.flowItems true) (⟨.flowListStart, mark⟩ :: ts₁) =
          .ok ⟨[.node false false, .flowItems false], none, ts₁⟩ := flowItem_eq hbehind
      obtain ⟨ts', hrest, hmore⟩ := follows_flowItems hitems hbehind
      exact ⟨ts', hlist.trans
        ((Follows.take hfirst (Nat.lt_succ_self _) (by decide) goals).trans hrest), hmore⟩

/-- **A nest in brackets** is a node. -/
theorem nodeOf_flowKinds (block : Bool) (l : Listing) : NodeOf block l.flowKinds l.events := by
  induction l generalizing block with
  | number n => exact nodeOf_scalar block _ _
  | list items ih => exact nodeOf_flowList block fun l hl => ih l hl false

/-! ### In lines -/

theorem startsNode_blockKinds (l : Listing) :
    ∃ kind kinds, l.blockKinds = kind :: kinds ∧ startsNode kind = true := by
  match l with
  | .number n => exact ⟨_, _, rfl, rfl⟩
  | .list [] => exact ⟨_, _, rfl, rfl⟩
  | .list (item :: rest) => exact ⟨_, _, rfl, rfl⟩

/-- The reader of a list in lines goes on with an item where one stands behind the dash. -/
theorem blockItemsStep_dash {l : Listing} {mark : Mark} {more : List TokenKind}
    (hkinds : ts.map (·.kind) = l.blockKinds ++ more) :
    blockItemsStep false (⟨.blockEntry, mark⟩ :: ts) =
      .ok ⟨[.node true false, .blockItems false], none, ts⟩ := by
  obtain ⟨kind, kinds, hstart, hstarts⟩ := startsNode_blockKinds l
  rw [hstart] at hkinds
  obtain ⟨⟨kind, mark⟩, ts, rfl, rfl, -⟩ := List.map_eq_cons_iff.mp hkinds
  cases kind with
  | scalar text style => rfl
  | flowListStart => rfl
  | blockListStart => rfl
  | _ => cases hstarts

/-- **The items of a list in lines** up to the end of its block. -/
theorem follows_blockItems {items : List Listing}
    (hitems : ∀ l ∈ items, NodeOf true l.blockKinds l.events) {more : List TokenKind}
    (hkinds : ts.map (·.kind) = blockKindsOfRest items ++ .blockEnd :: more) :
    ∃ ts', Follows handles (.blockItems false :: goals) ts (eventsOfItems items ++ [.listEnd]) goals ts' ∧
      ts'.map (·.kind) = more := by
  induction items generalizing ts with
  | nil =>
      obtain ⟨⟨kind, mark⟩, ts₁, rfl, rfl, hmore⟩ := List.map_eq_cons_iff.mp hkinds
      have hend : Goal.step handles (.blockItems false) (⟨.blockEnd, mark⟩ :: ts₁) =
          .ok ⟨[], some (.listEnd, mark), ts₁⟩ := rfl
      exact ⟨ts₁, .take hend (Nat.lt_succ_self _) (by decide) goals, hmore⟩
  | cons item rest ih =>
      rw [blockKindsOfRest, List.cons_append, List.append_assoc] at hkinds
      obtain ⟨⟨kind, mark⟩, ts₁, rfl, rfl, hbehind⟩ := List.map_eq_cons_iff.mp hkinds
      have hdash : Goal.step handles (.blockItems false) (⟨.blockEntry, mark⟩ :: ts₁) =
          .ok ⟨[.node true false, .blockItems false], none, ts₁⟩ := blockItemsStep_dash hbehind
      obtain ⟨ts₂, hnode, hrest⟩ :=
        hitems item List.mem_cons_self handles (.blockItems false :: goals) ts₁ _ hbehind
      obtain ⟨ts', hmore, hkinds'⟩ := ih (fun l hl => hitems l (List.mem_cons_of_mem _ hl)) hrest
      rw [eventsOfItems, List.append_assoc]
      exact ⟨ts', (Follows.take hdash (Nat.lt_succ_self _) (by decide) goals).trans
        (hnode.trans hmore), hkinds'⟩

/-- **A nest in lines** is a node. -/
theorem nodeOf_blockKinds (l : Listing) : NodeOf true l.blockKinds l.events := by
  induction l with
  | number n => exact nodeOf_scalar true _ _
  | list items ih =>
      cases items with
      | nil => exact nodeOf_flowKinds true (.list [])
      | cons item rest =>
          intro handles goals ts more hkinds
          -- the token that starts the block is taken by itself, and then every item has its dash
          rw [blockKinds, List.cons_append] at hkinds
          obtain ⟨⟨kind, mark⟩, ts₁, rfl, rfl, hbehind⟩ := List.map_eq_cons_iff.mp hkinds
          have hstart : Goal.step handles (.node true false) (⟨.blockListStart, mark⟩ :: ts₁) =
              .ok ⟨[.blockItems true], some (.listStart .none, mark), ⟨.blockListStart, mark⟩ :: ts₁⟩ :=
            rfl
          have hfirst : Goal.step handles (.blockItems true) (⟨.blockListStart, mark⟩ :: ts₁) =
              .ok ⟨[.blockItems false], none, ts₁⟩ := rfl
          have hitems : ts₁.map (·.kind) = blockKindsOfRest (item :: rest) ++ .blockEnd :: more := by
            rw [hbehind]
            simp [blockKindsOfRest]
          obtain ⟨ts', hrest, hmore⟩ := follows_blockItems ih hitems
          exact ⟨ts', (Follows.enter hstart rfl goals).trans
            ((Follows.take hfirst (Nat.lt_succ_self _) (by decide) goals).trans hrest), hmore⟩

/-! ## Documents -/

/-- A text that starts with a node needs no directives in front of it. -/
theorem startsBare_of_startsNode {t : Token} (h : startsNode t.kind = true) :
    startsBare t = true ∧ t.kind ≠ .streamEnd := by
  obtain ⟨kind, mark⟩ := t
  cases kind with
  | scalar text style => exact ⟨rfl, TokenKind.noConfusion⟩
  | flowListStart => exact ⟨rfl, TokenKind.noConfusion⟩
  | blockListStart => exact ⟨rfl, TokenKind.noConfusion⟩
  | _ => cases h

/-- **A text that is a node** has its events and nothing else. -/
theorem ofTokens_of_nodeOf {kind : TokenKind} {kinds : List TokenKind} {list : List Token}
    (hstarts : startsNode kind = true) (hnode : NodeOf true (kind :: kinds) es)
    (hlist : list.map (·.kind) = kind :: kinds ++ [.streamEnd]) :
    ∃ marked : List MarkedEvent, DocumentEvents.ofTokens ⟨list, none⟩ = ⟨marked, none, true⟩ ∧
      marked.map (·.1) = es := by
  obtain ⟨ts', ⟨n, marked, hn, hes, hrun⟩, hend⟩ := hnode defaultHandles [] list _ hlist
  obtain ⟨t, ts, rfl, rfl, hbehind⟩ := List.map_eq_cons_iff.mp hlist
  obtain ⟨⟨kind, mark⟩, rest, rfl, rfl, hrest⟩ := List.map_eq_cons_iff.mp hend
  -- the steps are at most two for a token and one more, well inside the bound
  have hbound : n ≤ stepBound (t :: ts) := by
    have hbudget : remaining [.node true false] (t :: ts) = 2 * (t :: ts).length + 1 := rfl
    unfold stepBound
    omega
  have hfollow : follow defaultHandles (stepBound (t :: ts)) [.node true false] [] (t :: ts) =
      ⟨marked, .ok (⟨.streamEnd, mark⟩ :: rest)⟩ := by
    rw [← Nat.add_sub_cancel' hbound, hrun, List.append_nil]
    unfold follow
    rw [List.reverse_reverse]
  obtain ⟨hbare, hfirst⟩ := startsBare_of_startsNode hstarts
  refine ⟨marked, ?_, hes⟩
  unfold DocumentEvents.ofTokens
  dsimp only
  rw [if_neg hfirst, if_pos hbare, DocumentEvents.following, hfollow]
  rfl

/-- **A nest in lines**, as a text of its own, has the events of the nest, and nothing follows them. -/
theorem events_of_block (l : Listing) :
    ∃ marked : List MarkedEvent,
      DocumentEvents.ofTokens (.ofChars (l.blockAt 0)) = ⟨marked, none, true⟩ ∧
      marked.map (·.1) = l.events := by
  obtain ⟨list, htokens, hkinds⟩ := Scanner.tokens_block l
  obtain ⟨kind, kinds, hstart, hstarts⟩ := startsNode_blockKinds l
  have hnode := nodeOf_blockKinds l
  rw [hstart] at hkinds hnode
  rw [htokens]
  exact ofTokens_of_nodeOf hstarts hnode hkinds

/-- **A list in brackets**, as a text of its own, has the same events. -/
theorem events_of_bracketed (items : List Listing) :
    ∃ marked : List MarkedEvent,
      DocumentEvents.ofTokens (.ofChars (Listing.list items).bracketed) = ⟨marked, none, true⟩ ∧
      marked.map (·.1) = (Listing.list items).events := by
  obtain ⟨list, htokens, hkinds⟩ := Scanner.tokens_bracketed items
  have hnode := nodeOf_flowKinds true (.list items)
  rw [flowKinds, List.cons_append] at hkinds hnode
  rw [htokens]
  exact ofTokens_of_nodeOf rfl hnode hkinds

end Yaml

end StimulusBench
