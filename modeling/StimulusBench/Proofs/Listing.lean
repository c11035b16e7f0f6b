import StimulusBench.Listing
import StimulusBench.Proofs.Number.Numeral
import StimulusBench.Yaml.Cursor

/-!
# `StimulusBench.Proofs.Listing` — nests and what their written forms are made of

A nest is a tree with lists of children, for which Lean's own induction principle speaks of trees and of
lists of trees at once. `Listing.rec'` is the principle in the form that proofs about nests need: of a
list it assumes the motive for every item.

## Contents
- **Induction.** `Listing.rec'`.
- **Measures.** `depth`, how deep lists lie in each other; `numbers`, the leaves.
- **Characters.** Both written forms consist of characters that may stand in a text.
-/

namespace StimulusBench.Listing

/-! ## Induction -/

/-- Structural induction on nests: of a list, the motive is assumed for every item. -/
@[elab_as_elim, induction_eliminator]
theorem rec' {motive : Listing → Prop} (number : ∀ n, motive (.number n))
    (list : ∀ items, (∀ item ∈ items, motive item) → motive (.list items)) (l : Listing) :
    motive l :=
  match l with
  | .number n => number n
  | .list items => list items fun item _ => rec' number list item

/-! ## Measures -/

mutual

/-- How many lists lie in each other at most. A number counts nothing, the empty list counts as one. -/
def depth : Listing → Nat
  | .number _ => 0
  | .list items => depthItems items + 1

/-- The greatest depth among some nests. -/
def depthItems : List Listing → Nat
  | [] => 0
  | item :: rest => max (depth item) (depthItems rest)

end

theorem depth_le_depthItems {item : Listing} {items : List Listing} (h : item ∈ items) :
    item.depth ≤ depthItems items := by
  induction items with
  | nil => exact absurd h List.not_mem_nil
  | cons head rest ih =>
      rw [depthItems]
      rcases List.mem_cons.mp h with rfl | h
      · exact Nat.le_max_left _ _
      · exact Nat.le_trans (ih h) (Nat.le_max_right _ _)

mutual

/-- The numbers at the leaves, from left to right. -/
def numbers : Listing → List Nat
  | .number n => [n]
  | .list items => numbersOfItems items

/-- The numbers at the leaves of several nests. -/
def numbersOfItems : List Listing → List Nat
  | [] => []
  | item :: rest => numbers item ++ numbersOfItems rest

end

theorem numbersOfItems_eq (items : List Listing) : numbersOfItems items = items.flatMap numbers := by
  induction items with
  | nil => rfl
  | cons item rest ih => rw [numbersOfItems, ih, List.flatMap_cons]

theorem mem_numbers_list {item : Listing} {items : List Listing} (h : item ∈ items) {n : Nat}
    (hn : n ∈ item.numbers) : n ∈ (Listing.list items).numbers := by
  rw [numbers, numbersOfItems_eq]
  exact List.mem_flatMap.mpr ⟨item, h, hn⟩

theorem contentItems_eq (items : List Listing) : contentItems items = items.map content := by
  induction items with
  | nil => rfl
  | cons item rest ih => rw [contentItems, ih, List.map_cons]

/-! ## Characters -/

theorem bracketedItems_cons_cons (item next : Listing) (rest : List Listing) :
    bracketedItems (item :: next :: rest) =
      bracketed item ++ ',' :: ' ' :: bracketedItems (next :: rest) := rfl

theorem isAllowed_of_isDigit {c : Char} (h : Decimal.isDigit c = true) : Yaml.isAllowed c = true := by
  simp only [Decimal.isDigit, Bool.and_eq_true, decide_eq_true_eq, Char.le_def,
    UInt32.le_iff_toNat_le] at h
  have hlow : 0x20 ≤ c.toNat := Nat.le_trans (by decide) h.1
  have hhigh : c.toNat ≤ 0x7E := Nat.le_trans h.2 (by decide)
  simp [Yaml.isAllowed, hlow, hhigh]

theorem all_isAllowed_decimal (n : Nat) : (Numeral.decimal n).all Yaml.isAllowed = true := by
  rw [List.all_eq_true]
  intro c hc
  exact isAllowed_of_isDigit (Numeral.isDigit_of_mem_decimal hc)

theorem all_isAllowed_bracketed (l : Listing) : l.bracketed.all Yaml.isAllowed = true := by
  induction l with
  | number n => exact all_isAllowed_decimal n
  | list items ih =>
      have hitems : (bracketedItems items).all Yaml.isAllowed = true := by
        induction items with
        | nil => rfl
        | cons item rest ihrest =>
            have hitem := ih item List.mem_cons_self
            cases rest with
            | nil => exact hitem
            | cons next rest =>
                have hrest := ihrest fun x hx => ih x (List.mem_cons_of_mem _ hx)
                rw [bracketedItems_cons_cons, List.all_append, hitem]
                exact hrest
      rw [bracketed, List.all_append, List.all_cons, hitems]
      rfl

theorem all_isAllowed_blockAt (column : Nat) (l : Listing) :
    (blockAt column l).all Yaml.isAllowed = true := by
  induction l generalizing column with
  | number n =>
      rw [blockAt, List.all_append, all_isAllowed_decimal]
      rfl
  | list items ih =>
      have hrest : ∀ rest : List Listing, (∀ item ∈ rest, item ∈ items) →
          (blockRest column rest).all Yaml.isAllowed = true := by
        intro rest hsub
        induction rest with
        | nil => rfl
        | cons item rest ihrest =>
            have hitem := ih item (hsub item List.mem_cons_self) (column + 2)
            have hmore := ihrest fun x hx => hsub x (List.mem_cons_of_mem _ hx)
            have hblanks : (List.replicate column ' ').all Yaml.isAllowed = true := by
              rw [List.all_eq_true]
              intro c hc
              rw [List.eq_of_mem_replicate hc]
              rfl
            rw [blockRest, List.all_append, List.all_append, hblanks, hmore, List.all_cons,
              List.all_cons, hitem]
            rfl
      cases items with
      | nil => rfl
      | cons item rest =>
          have hitem := ih item List.mem_cons_self (column + 2)
          rw [blockAt, List.all_append, hrest rest fun x hx => List.mem_cons_of_mem _ hx, List.all_cons,
            List.all_cons, hitem]
          rfl

end StimulusBench.Listing
