import StimulusBench.Proofs.Listing
import StimulusBench.Proofs.Yaml.Cutting

/-!
# `StimulusBench.Proofs.Yaml.FlowText` — the tokens of a nest in brackets

A nest on one line is cut into its brackets, commas and numerals. Inside brackets there are no blocks, so
that the induction over the nest only has to know what follows an item: a comma or a closing bracket.

## Contents
- **Tokens.** `flowKinds`, the kinds of the tokens of a nest in brackets.
- **Characters.** A nest in brackets starts with a solid character.
- **Items.** `CutInBrackets` is what the induction proves of a nest; `leads_items`, `cutInBrackets`.
- **Texts.** `tokens_bracketed`: the tokens of a list as a text of its own.
-/

namespace StimulusBench

namespace Listing

open Yaml (TokenKind)

/-! ## Tokens -/

mutual

/-- The kinds of the tokens of a nest in brackets. -/
def flowKinds : Listing → List TokenKind
  | .number n => [.scalar (Numeral.decimal n) .plain]
  | .list items => .flowListStart :: flowKindsOfItems items ++ [.flowListEnd]

/-- The kinds of the tokens of the items of a list in brackets. -/
def flowKindsOfItems : List Listing → List TokenKind
  | [] => []
  | [item] => flowKinds item
  | item :: rest => flowKinds item ++ .flowEntry :: flowKindsOfItems rest

end

theorem flowKindsOfItems_cons_cons (item next : Listing) (rest : List Listing) :
    flowKindsOfItems (item :: next :: rest) =
      flowKinds item ++ .flowEntry :: flowKindsOfItems (next :: rest) := rfl

end Listing

namespace Yaml.Scanner

open Listing

variable {v w : View} {cs : List Char}

/-! ## Characters -/

theorem startsSolid_decimal (n : Nat) (more : List Char) :
    startsSolid (Numeral.decimal n ++ more) = true := by
  obtain ⟨c, ds, hds, hdigit, -⟩ := Numeral.exists_decimal_eq n
  rw [hds]
  exact isSolid_of_isDigit hdigit

theorem startsSolid_bracketed (l : Listing) (more : List Char) :
    startsSolid (l.bracketed ++ more) = true := by
  cases l with
  | number n => exact startsSolid_decimal n more
  | list items => rfl

theorem startsSolid_bracketedItems (items : List Listing) (more : List Char) :
    startsSolid (bracketedItems items ++ ']' :: more) = true := by
  match items with
  | [] => rfl
  | [item] => exact startsSolid_bracketed item _
  | item :: next :: rest =>
      rw [bracketedItems_cons_cons, List.append_assoc]
      exact startsSolid_bracketed item _

/-! ## Items -/

/-- The view so many characters further on, with some tokens more. -/
def View.along (v : View) (kinds : List TokenKind) (keyAllowed : Bool) (n : Nat) (cs : List Char) :
    View :=
  { v with kinds := v.kinds ++ kinds, keyAllowed, chars := cs, column := v.column + n }

theorem View.along_along (kinds kinds' : List TokenKind) (allowed allowed' : Bool) (n n' : Nat)
    (cs cs' : List Char) :
    (v.along kinds allowed n cs).along kinds' allowed' n' cs' =
      v.along (kinds ++ kinds') allowed' (n + n') cs' := by
  simp only [View.along, List.append_assoc, Nat.add_assoc]

/-- **A nest inside brackets** is cut into its tokens, whatever follows behind the comma or the closing
    bracket that ends it. -/
def CutInBrackets (l : Listing) : Prop :=
  ∀ (v : View) (d : Char) (cs : List Char), 0 < v.brackets → v.chars = l.bracketed ++ d :: cs →
    d = ',' ∨ d = ']' → Leads v (v.along l.flowKinds false l.bracketed.length (d :: cs))

theorem cutInBrackets_number (n : Nat) : CutInBrackets (.number n) := by
  intro v d cs hflow hchars hd
  apply Leads.cut
  · intro s hs
    rw [View.unrolled_inFlow hflow] at hs
    exact hs.cut_numeral_flow hchars hd hflow
  · intro t ht
    apply ht.sees
    rcases hd with rfl | rfl <;> rfl
  · have hpos := List.length_pos_iff.mpr (Numeral.decimal_ne_nil n)
    rw [hchars, List.length_append]
    exact Nat.lt_add_of_pos_left hpos

/-- A comma between two items, with the blank behind it. -/
theorem leads_comma (hflow : 0 < v.brackets) (hchars : v.chars = ',' :: ' ' :: cs)
    (hsolid : startsSolid cs = true) : Leads v (v.along [.flowEntry] true 2 cs) := by
  apply Leads.cut (v := v.along [.flowEntry] true 1 (' ' :: cs))
  · intro s hs
    rw [View.unrolled_inFlow hflow] at hs
    exact hs.cut_comma hchars
  · intro t ht
    exact ht.sees_blank rfl hsolid
  · rw [hchars]
    exact Nat.lt_succ_of_lt (Nat.lt_succ_self _)

/-- The closing bracket of a list. What the scanner sees behind it depends on the text there. -/
theorem leads_closeBracket {n : Nat} (hopen : v.brackets = n + 1) (hchars : v.chars = ']' :: cs)
    (hblanks : ∀ t, At t { v.along [.flowListEnd] false 1 cs with brackets := n } → Sees t w)
    (hle : w.chars.length ≤ cs.length) : Leads v w := by
  refine Leads.cut ?_ hblanks ?_
  · intro s hs
    rw [View.unrolled_inFlow (hopen ▸ Nat.succ_pos n)] at hs
    exact hs.cut_closeBracket hchars hopen
  · rw [hchars]
    exact Nat.lt_succ_of_le hle

/-- **The items of a list in brackets**, and the bracket that closes it. -/
theorem leads_items {items : List Listing} (hitems : ∀ item ∈ items, CutInBrackets item) {n : Nat}
    (hopen : v.brackets = n + 1) (hchars : v.chars = bracketedItems items ++ ']' :: cs)
    (hblanks : ∀ t, At t { v.along (flowKindsOfItems items ++ [.flowListEnd]) false
      ((bracketedItems items).length + 1) cs with brackets := n } → Sees t w)
    (hle : w.chars.length ≤ cs.length) : Leads v w := by
  -- the view moves on with every item, and what is seen in the end is said about the view at the start
  induction items generalizing v with
  | nil =>
      apply leads_closeBracket hopen hchars ?_ hle
      exact hblanks
  | cons item rest ih =>
      have hflow : 0 < v.brackets := hopen ▸ Nat.succ_pos n
      have hitem := hitems item List.mem_cons_self
      cases rest with
      | nil =>
          refine (hitem v ']' cs hflow hchars (Or.inr rfl)).trans (leads_closeBracket hopen rfl ?_ hle)
          intro t ht
          rw [View.along_along] at ht
          exact hblanks t ht
      | cons next rest =>
          have hrest := fun x hx => hitems x (List.mem_cons_of_mem _ hx)
          rw [bracketedItems_cons_cons, List.append_assoc] at hchars
          have hcomma := leads_comma (v := v.along item.flowKinds false item.bracketed.length
            (',' :: ' ' :: (bracketedItems (next :: rest) ++ ']' :: cs))) hflow rfl
            (startsSolid_bracketedItems _ _)
          refine (hitem v ',' _ hflow hchars (Or.inl rfl)).trans (hcomma.trans (ih hrest hopen rfl ?_))
          intro t ht
          have hlength : item.bracketed.length + (2 + ((bracketedItems (next :: rest)).length + 1)) =
              (bracketedItems (item :: next :: rest)).length + 1 := by
            rw [bracketedItems_cons_cons, List.length_append, List.length_cons, List.length_cons]
            omega
          rw [View.along_along, View.along_along, hlength] at ht
          apply hblanks
          rw [flowKindsOfItems_cons_cons, List.append_assoc]
          exact ht

/-- **A list in brackets.** Outside of brackets it must lie deeper than the block around it, where it
    cannot be taken for a key that is missing its colon. -/
theorem leads_bracketed {items : List Listing} (hitems : ∀ item ∈ items, CutInBrackets item)
    (hdeeper : v.brackets = 0 → v.indent < v.column)
    (hchars : v.chars = (Listing.list items).bracketed ++ cs)
    (hblanks : ∀ t, At t (v.along (flowKinds (.list items)) false (Listing.list items).bracketed.length
      cs) → Sees t w)
    (hle : w.chars.length ≤ cs.length) : Leads v w := by
  have hrolled : v.unrolled v.column = v := by
    rcases Nat.eq_zero_or_pos v.brackets with hflow | hflow
    · exact View.unrolled_of_le (Int.le_of_lt (hdeeper hflow))
    · exact View.unrolled_inFlow hflow _
  rw [bracketed, List.cons_append, List.cons_append, List.append_assoc, List.singleton_append] at hchars
  let u := { v.along [.flowListStart] true 1 (bracketedItems items ++ ']' :: cs) with
    brackets := v.brackets + 1 }
  have hopen : Leads v u := by
    apply Leads.cut (v := u)
    · intro s hs
      rw [hrolled] at hs
      exact hs.cut_openBracket hchars fun hflow => Int.ne_of_lt (hdeeper hflow)
    · intro t ht
      exact ht.sees (startsSolid_bracketedItems items cs)
    · rw [hchars]
      exact Nat.lt_succ_self _
  refine hopen.trans (leads_items hitems rfl rfl ?_ hle)
  intro t ht
  apply hblanks
  have hlength : (Listing.list items).bracketed.length = 1 + ((bracketedItems items).length + 1) := by
    rw [bracketed, List.cons_append, List.length_cons, List.length_append, List.length_singleton,
      Nat.add_comm]
  rw [flowKinds, List.cons_append, ← List.singleton_append, hlength,
    ← View.along_along _ _ true false _ _ (bracketedItems items ++ ']' :: cs)]
  exact ht

/-- **Every nest** is cut into its tokens inside brackets. -/
theorem cutInBrackets (l : Listing) : CutInBrackets l := by
  induction l with
  | number n => exact cutInBrackets_number n
  | list items ih =>
      intro v d cs hflow hchars hd
      refine leads_bracketed ih (fun hzero => absurd hzero (Nat.ne_of_gt hflow)) hchars ?_ (Nat.le_refl _)
      intro t ht
      apply ht.sees
      rcases hd with rfl | rfl <;> rfl

/-! ## Texts -/

/-- **The tokens of a list in brackets**, as a text of its own. -/
theorem tokens_bracketed (items : List Listing) :
    ∃ list, Tokens.ofChars (Listing.list items).bracketed = ⟨list, none⟩ ∧
      list.map (·.kind) = flowKinds (.list items) ++ [.streamEnd] := by
  let w := (View.ofText (Listing.list items).bracketed).along (flowKinds (.list items)) false
    (Listing.list items).bracketed.length []
  have hleads : Leads (.ofText (Listing.list items).bracketed) w :=
    leads_bracketed (fun item _ => cutInBrackets item) (fun _ => Int.negSucc_lt_zero 0)
      (List.append_nil _).symm (fun t ht => ht.sees rfl) (Nat.le_refl _)
  have hopen : w.unrolled (-1) = w := View.unrolled_of_le (Int.le_refl _)
  have htokens := tokens_of_leads (all_isAllowed_bracketed _) rfl hleads rfl rfl
  rw [hopen] at htokens
  exact htokens

end Yaml.Scanner

end StimulusBench
