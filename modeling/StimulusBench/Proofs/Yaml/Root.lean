import Mathlib.Tactic.SplitIfs
import StimulusBench.Proofs.Outcome
import StimulusBench.Proofs.Yaml.Gathering

/-!
# `StimulusBench.Proofs.Yaml.Root` — what a document is

The content of a document and the stimuli in it both begin with its root. A root is never an alias; what
it says decides which of the two can be read from it. On a list both are read item by item, and a stimulus
is read from the content of its item, so that the stimuli are those of the content.

## Contents
- **Roots.** `NodeEvent.isList`, `isLocalList` and `isBlank`; `nodes_ofText_ne_alias`.
- **Scalars.** `resolve_isScalar`: a scalar stands for content without parts.
- **Items.** `gatherItems_stimulus_iff`: the items read as stimuli and as content.
- **Content and stimuli.** What is read from each kind of root; `stimuli_list_iff_content`.
-/

namespace StimulusBench

/-- Content without parts. -/
def Content.isScalar : Content → Bool
  | .list _ => false
  | .mapping _ => false
  | _ => true

/-- Several pieces of content are stimuli if each of them is one. -/
theorem Stimulus.ofContents_cons_eq_some_iff {c : Content} {rest : List Content} {ss : List Stimulus} :
    ofContents (c :: rest) = some ss ↔
      ∃ s ss', ofContent c = some s ∧ ofContents rest = some ss' ∧ ss = s :: ss' := by
  rw [ofContents]
  cases ofContent c <;> cases ofContents rest <;> simp [eq_comm]

namespace Yaml

/-! ## Roots -/

namespace NodeEvent

/-- The start of a list whose tag, if it has one, is not local. -/
def isList : NodeEvent → Bool
  | .listStart none => true
  | .listStart (some tag) => !hasLocalName tag
  | _ => false

/-- The start of a list with a local tag. -/
def isLocalList : NodeEvent → Bool
  | .listStart (some tag) => hasLocalName tag
  | _ => false

/-- A node without any text. -/
def isBlank : NodeEvent → Bool
  | .absent => true
  | .scalar _ text style => text.isEmpty && style = .plain
  | _ => false

theorem isLocalList_of_not_isList {tag : Option Tag} (h : (listStart tag).isList = false) :
    (listStart tag).isLocalList = true := by
  cases tag with
  | none => cases h
  | some t => simpa [isList, isLocalList] using h

end NodeEvent

/-- The node numbered first stays the first one. -/
theorem number_first (first : MarkedNode) (events : List MarkedEvent) (known : Anchors) (position : Nat)
    (acc : List MarkedNode) :
    ∃ rest, (number known position (acc ++ [first]) events).1 = first :: rest := by
  induction events generalizing known position acc with
  | nil => exact ⟨acc.reverse, List.reverse_concat⟩
  | cons marked rest ih =>
      obtain ⟨event, mark⟩ := marked
      cases event with
      | «alias» name =>
          rw [number]
          cases known.numbers.lookup name with
          | none => exact ⟨acc.reverse, List.reverse_concat⟩
          | some n => exact ih _ _ ((.alias n, mark) :: acc)
      | scalar props text style => exact ih _ _ ((.scalar props.tag text style, mark) :: acc)
      | listStart props => exact ih _ _ ((.listStart props.tag, mark) :: acc)
      | mappingStart props => exact ih _ _ ((.mappingStart props.tag, mark) :: acc)
      | listEnd => exact ih _ _ ((.listEnd, mark) :: acc)
      | mappingEnd => exact ih _ _ ((.mappingEnd, mark) :: acc)

/-- An alias in front of all anchors ends the nodes, so that none of them comes first. -/
theorem number_ne_alias (events : List MarkedEvent) (n : Nat) (mark : Mark) (rest : List MarkedNode) :
    (number .none 0 [] events).1 ≠ (.alias n, mark) :: rest := by
  cases events with
  | nil => exact fun h => nomatch h
  | cons marked events =>
      obtain ⟨event, mark'⟩ := marked
      have hkept : ∀ known node, node ≠ NodeEvent.alias n →
          (number known 1 [(node, mark')] events).1 ≠ (.alias n, mark) :: rest := by
        intro known node hnode h
        obtain ⟨rest', hrest⟩ := number_first (node, mark') events known 1 []
        rw [List.nil_append, h] at hrest
        exact hnode (Prod.mk.inj (List.cons.inj hrest).1).1.symm
      cases event with
      | «alias» name => exact fun h => nomatch h
      | scalar props text style => exact hkept _ _ NodeEvent.noConfusion
      | listStart props => exact hkept _ _ NodeEvent.noConfusion
      | mappingStart props => exact hkept _ _ NodeEvent.noConfusion
      | listEnd => exact hkept _ _ NodeEvent.noConfusion
      | mappingEnd => exact hkept _ _ NodeEvent.noConfusion

/-! ## Scalars -/

theorem wholeNumber_isScalar {cs : List Char} {c : Content}
    (h : (wholeNumber? cs).bind resolveWhole = some (.ok c)) : c.isScalar = true := by
  obtain ⟨n, -, hn⟩ := Option.bind_eq_some_iff.mp h
  unfold resolveWhole at hn
  split at hn <;> split at hn <;> (try split at hn) <;> cases hn <;> rfl

theorem resolvePlain_isScalar {cs : List Char} {c : Content} (h : resolvePlain cs = .ok c) :
    c.isScalar = true := by
  unfold resolvePlain at h
  dsimp only at h
  split at h
  · cases h
    rfl
  · split at h
    · cases h
      rfl
    · split at h
      next hwhole => exact wholeNumber_isScalar (h ▸ hwhole)
      next => split at h <;> cases h <;> rfl

theorem resolve_none_isScalar {cs : List Char} {style : ScalarStyle} {c : Content}
    (h : resolve none cs style = .ok c) : c.isScalar = true := by
  cases style with
  | plain => exact resolvePlain_isScalar h
  | quoted =>
      cases h
      rfl

/-- **A scalar stands for content without parts**, whatever its tag. -/
theorem resolve_isScalar {tag : Option Tag} {cs : List Char} {style : ScalarStyle} {c : Content}
    (h : resolve tag cs style = .ok c) : c.isScalar = true := by
  cases tag with
  | none => exact resolve_none_isScalar h
  | some t =>
      unfold resolve at h
      dsimp only at h
      split_ifs at h with hbool hint hfloat hnull hlocal
      · split at h <;> cases h
        rfl
      · split at h
        next hwhole => exact wholeNumber_isScalar (h ▸ hwhole)
        next => cases h
      · split at h <;> cases h
        rfl
      · cases h
        rfl
      · exact @resolve_none_isScalar cs style c h
      · cases h
        rfl

namespace NodeDocument

/-- Whether the node that a document is has a kind. -/
def RootIs (d : NodeDocument) (kind : NodeEvent → Bool) : Prop :=
  ∃ node mark rest, d.nodes = (node, mark) :: rest ∧ kind node = true

/-- **No root is an alias**: no anchor stands in front of it. -/
theorem nodes_ofText_ne_alias (text : String) (n : Nat) (mark : Mark) (rest : List MarkedNode) :
    (ofText text).nodes ≠ (.alias n, mark) :: rest := by
  unfold ofText ofEvents
  split
  · exact fun h => nomatch h
  · dsimp only
    split <;> exact number_ne_alias _ n mark rest

/-! ## Items -/

/-- A stimulus is read from the content of its node. -/
theorem stimulus_eq_ok_iff {d : NodeDocument} {listMark : Mark} {path : Path} {ahead behind : Ahead}
    {s : Stimulus} :
    d.stimulus listMark path ahead = .ok (s, behind) ↔
      ∃ c, d.throughAlias (d.contentOf (maxDepth - 1)) path ahead = .ok (c, behind) ∧
        Stimulus.ofContent c = some s := by
  rw [stimulus, bind_eq_ok_iff]
  constructor
  · rintro ⟨⟨c, behind'⟩, hread, h⟩
    dsimp only at h
    cases hs : Stimulus.ofContent c with
    | none => rw [hs] at h; cases h
    | some s' =>
        rw [hs] at h
        cases h
        exact ⟨c, hread, hs⟩
  · rintro ⟨c, hread, hs⟩
    refine ⟨(c, behind), hread, ?_⟩
    dsimp only
    rw [hs]
    rfl

variable {α : Type} {d : NodeDocument} {listMark : Mark} {path : Path} {fuel index : Nat}
  {behind : Ahead}

/-- A list with an item ahead is that item and the items behind it. -/
theorem gatherItems_item_eq_ok_iff {read : Reads α} {node : NodeEvent} (hnode : node ≠ .listEnd)
    {mark : Mark} {nodes : List MarkedNode} {jumps : Nat} {vs : List α} :
    d.gatherItems read path (fuel + 1) index ⟨(node, mark) :: nodes, jumps⟩ = .ok (vs, behind) ↔
      ∃ v ahead vs', read (.index index :: path) ⟨(node, mark) :: nodes, jumps⟩ = .ok (v, ahead) ∧
        d.gatherItems read path fuel (index + 1) ahead = .ok (vs', behind) ∧ vs = v :: vs' := by
  rw [gatherItems_item d read path fuel index hnode, bind_eq_ok_iff]
  constructor
  · rintro ⟨⟨v, ahead⟩, hread, h⟩
    obtain ⟨⟨vs', behind'⟩, hmore, h⟩ := bind_eq_ok_iff.mp h
    cases h
    exact ⟨v, ahead, vs', hread, hmore, rfl⟩
  · rintro ⟨v, ahead, vs', hread, hmore, rfl⟩
    refine ⟨(v, ahead), hread, ?_⟩
    exact bind_eq_ok_iff.mpr ⟨(vs', behind), hmore, rfl⟩

/-- **The items as stimuli** are the stimuli of the items' content. -/
theorem gatherItems_stimulus_iff {ahead : Ahead} {ss : List Stimulus} :
    d.gatherItems (d.stimulus listMark) path fuel index ahead = .ok (ss, behind) ↔
      ∃ items, d.gatherItems (d.throughAlias (d.contentOf (maxDepth - 1))) path fuel index ahead =
          .ok (items, behind) ∧ Stimulus.ofContents items = some ss := by
  -- both readings take one item for each unit of fuel, so that they run out of it together
  induction fuel generalizing index ahead ss with
  | zero => exact ⟨fun h => (nomatch h), fun ⟨_, h, _⟩ => (nomatch h)⟩
  | succ fuel ih =>
      obtain ⟨nodes, jumps⟩ := ahead
      cases nodes with
      | nil => exact ⟨fun h => (nomatch h), fun ⟨_, h, _⟩ => (nomatch h)⟩
      | cons marked rest =>
          obtain ⟨node, mark⟩ := marked
          by_cases hend : node = .listEnd
          · subst hend
            constructor
            · intro h
              cases h
              exact ⟨[], rfl, rfl⟩
            · rintro ⟨items, h, hss⟩
              cases h
              cases hss
              rfl
          · rw [gatherItems_item_eq_ok_iff hend]
            constructor
            · rintro ⟨s, ahead, ss', hfirst, hmore, rfl⟩
              obtain ⟨c, hc, hs⟩ := stimulus_eq_ok_iff.mp hfirst
              obtain ⟨items, hitems, hss⟩ := ih.mp hmore
              exact ⟨c :: items, (gatherItems_item_eq_ok_iff hend).mpr ⟨c, ahead, items, hc, hitems, rfl⟩,
                Stimulus.ofContents_cons_eq_some_iff.mpr ⟨s, ss', hs, hss, rfl⟩⟩
            · rintro ⟨items, h, hss⟩
              obtain ⟨c, ahead, items', hc, hitems, rfl⟩ := (gatherItems_item_eq_ok_iff hend).mp h
              obtain ⟨s, ss', hs, hss', rfl⟩ := Stimulus.ofContents_cons_eq_some_iff.mp hss
              exact ⟨s, ahead, ss', stimulus_eq_ok_iff.mpr ⟨c, hc, hs⟩, ih.mpr ⟨items', hitems, hss'⟩, rfl⟩

/-! ## Content and stimuli -/

theorem refuseLocal_eq_ok_iff {tag : Option Tag} {place : Place} :
    refuseLocal tag place = .ok () ↔ (NodeEvent.listStart tag).isList = true := by
  cases tag with
  | none => exact ⟨fun _ => rfl, fun _ => rfl⟩
  | some t =>
      rw [refuseLocal, NodeEvent.isList]
      cases hasLocalName t <;> simp

variable {tag : Option Tag} {mark : Mark} {rest : List MarkedNode}

/-- **A list as content**: no local tag, and its items one after the other. -/
theorem content_list_eq_ok_iff (hnodes : d.nodes = (.listStart tag, mark) :: rest) {c : Content} :
    d.content = .ok c ↔ (NodeEvent.listStart tag).isList = true ∧
      ∃ items behind, d.gatherItems (d.throughAlias (d.contentOf (maxDepth - 1))) [] (rest.length + 1) 0
        ⟨rest, 0⟩ = .ok (items, behind) ∧ c = .list items := by
  have hcontent : d.content = Except.map (fun read => read.1) (do
      refuseLocal tag ⟨[], mark⟩
      let gathered ← d.gatherItems (d.throughAlias (d.contentOf (maxDepth - 1))) [] (rest.length + 1) 0
        ⟨rest, 0⟩
      return (Content.list gathered.1, gathered.2)) := by
    rw [content, hnodes]
    exact congrArg (Except.map _) (contentOf.eq_def d maxDepth _ _)
  rw [hcontent, map_eq_ok_iff]
  constructor
  · rintro ⟨⟨c', behind'⟩, h, rfl⟩
    obtain ⟨_, htag, h⟩ := bind_eq_ok_iff.mp h
    obtain ⟨⟨items, behind⟩, hitems, h⟩ := bind_eq_ok_iff.mp h
    cases h
    exact ⟨refuseLocal_eq_ok_iff.mp htag, items, behind, hitems, rfl⟩
  · rintro ⟨htag, items, behind, hitems, rfl⟩
    refine ⟨(.list items, behind), bind_eq_ok_iff.mpr ⟨(), refuseLocal_eq_ok_iff.mpr htag, ?_⟩, rfl⟩
    exact bind_eq_ok_iff.mpr ⟨(items, behind), hitems, rfl⟩

/-- **A list as stimuli**, whatever its tag. -/
theorem stimuli_list_eq_ok_iff (hnodes : d.nodes = (.listStart tag, mark) :: rest) {ss : List Stimulus} :
    d.stimuli = .ok ss ↔ ∃ items behind,
      d.gatherItems (d.throughAlias (d.contentOf (maxDepth - 1))) [] (rest.length + 1) 0 ⟨rest, 0⟩ =
        .ok (items, behind) ∧ Stimulus.ofContents items = some ss := by
  rw [stimuli, hnodes]
  dsimp only
  rw [map_eq_ok_iff]
  constructor
  · rintro ⟨⟨ss', behind⟩, h, rfl⟩
    obtain ⟨items, hitems, hss⟩ := gatherItems_stimulus_iff.mp h
    exact ⟨items, behind, hitems, hss⟩
  · rintro ⟨items, behind, hitems, hss⟩
    exact ⟨(ss, behind), gatherItems_stimulus_iff.mpr ⟨items, hitems, hss⟩, rfl⟩

/-- **On lists without a local tag** the stimuli are those of the content. -/
theorem stimuli_list_iff_content (hnodes : d.nodes = (.listStart tag, mark) :: rest)
    (htag : (NodeEvent.listStart tag).isList = true) {ss : List Stimulus} :
    d.stimuli = .ok ss ↔ ∃ items, d.content = .ok (.list items) ∧ Stimulus.ofContents items = some ss := by
  rw [stimuli_list_eq_ok_iff hnodes]
  constructor
  · rintro ⟨items, behind, hitems, hss⟩
    exact ⟨items, (content_list_eq_ok_iff hnodes).mpr ⟨htag, items, behind, hitems, rfl⟩, hss⟩
  · rintro ⟨items, hcontent, hss⟩
    obtain ⟨-, items', behind, hitems, heq⟩ := (content_list_eq_ok_iff hnodes).mp hcontent
    cases heq
    exact ⟨items, behind, hitems, hss⟩

theorem content_scalar {text : List Char} {style : ScalarStyle}
    (hnodes : d.nodes = (.scalar tag text style, mark) :: rest) {c : Content} (h : d.content = .ok c) :
    c.isScalar = true := by
  rw [content, hnodes, map_eq_ok_iff] at h
  obtain ⟨⟨c', behind⟩, h, rfl⟩ := h
  -- the content of the root is that of any node, with all the nodes ahead
  replace h : d.contentOf maxDepth [] ⟨(.scalar tag text style, mark) :: rest, 0⟩ = _ := h
  rw [contentOf.eq_def] at h
  obtain ⟨_, -, h⟩ := bind_eq_ok_iff.mp h
  split at h
  next c hc =>
    cases h
    exact resolve_isScalar hc
  next => cases h

theorem content_mapping (hnodes : d.nodes = (.mappingStart tag, mark) :: rest) {c : Content}
    (h : d.content = .ok c) : ∃ entries, c = .mapping entries := by
  rw [content, hnodes, map_eq_ok_iff] at h
  obtain ⟨⟨c', behind⟩, h, rfl⟩ := h
  replace h : d.contentOf maxDepth [] ⟨(.mappingStart tag, mark) :: rest, 0⟩ = _ := h
  rw [contentOf.eq_def] at h
  obtain ⟨_, -, h⟩ := bind_eq_ok_iff.mp h
  split at h
  next => cases h
  next =>
    obtain ⟨⟨entries, behind'⟩, -, h⟩ := bind_eq_ok_iff.mp h
    cases h
    exact ⟨entries, rfl⟩

theorem content_absent (hnodes : d.nodes = (.absent, mark) :: rest) : d.content = .ok .unit := by
  rw [content, hnodes]
  rfl

theorem RootIs.exists_list (h : d.RootIs (·.isList)) : ∃ tag mark rest,
    d.nodes = (.listStart tag, mark) :: rest ∧ (NodeEvent.listStart tag).isList = true := by
  obtain ⟨node, mark, rest, hnodes, hlist⟩ := h
  cases node with
  | listStart tag => exact ⟨tag, mark, rest, hnodes, hlist⟩
  | _ => cases hlist

/-- **Only a list has a list as content.** -/
theorem exists_list_of_content (hroot : ∀ n mark rest, d.nodes ≠ (.alias n, mark) :: rest) {items : List Content}
    (h : d.content = .ok (.list items)) :
    ∃ tag mark rest, d.nodes = (.listStart tag, mark) :: rest := by
  cases hnodes : d.nodes with
  | nil =>
      rw [content, hnodes] at h
      cases h
  | cons marked rest =>
      obtain ⟨node, mark⟩ := marked
      cases node with
      | listStart tag => exact ⟨tag, mark, rest, rfl⟩
      | «alias» n => exact absurd hnodes (hroot n mark rest)
      | scalar tag text style => cases content_scalar hnodes h
      | mappingStart tag =>
          obtain ⟨entries, hentries⟩ := content_mapping hnodes h
          cases hentries
      | absent =>
          rw [content_absent hnodes] at h
          cases h
      | listEnd =>
          rw [content, hnodes] at h
          cases h
      | mappingEnd =>
          rw [content, hnodes] at h
          cases h

/-- **Stimuli are read from lists and blank roots** only, from a blank root none. -/
theorem list_or_blank_of_stimuli {ss : List Stimulus} (h : d.stimuli = .ok ss) :
    (∃ tag mark rest, d.nodes = (.listStart tag, mark) :: rest) ∨
      d.RootIs (·.isBlank) ∧ ss = [] := by
  rw [stimuli] at h
  cases hnodes : d.nodes with
  | nil =>
      rw [hnodes] at h
      cases h
  | cons marked rest =>
      obtain ⟨node, mark⟩ := marked
      rw [hnodes] at h
      cases node with
      | listStart tag => exact .inl ⟨tag, mark, rest, rfl⟩
      | absent =>
          cases h
          exact .inr ⟨⟨_, _, _, hnodes, rfl⟩, rfl⟩
      | scalar tag text style =>
          dsimp only at h
          split at h
          next hblank =>
            cases h
            exact .inr ⟨⟨_, _, _, hnodes, hblank⟩, rfl⟩
          next => split at h <;> cases h
      | _ => cases h

/-- A blank root is no list and no mapping. -/
theorem content_blank (h : d.RootIs (·.isBlank)) {c : Content} (hcontent : d.content = .ok c) :
    c.isScalar = true := by
  obtain ⟨node, mark, rest, hnodes, hblank⟩ := h
  cases node with
  | absent =>
      rw [content_absent hnodes] at hcontent
      cases hcontent
      rfl
  | scalar tag text style => exact content_scalar hnodes hcontent
  | _ => cases hblank

end NodeDocument

end Yaml

end StimulusBench
