import Mathlib.Data.List.Sort
import StimulusBench.Proofs.Document

/-!
# `StimulusBench.Proofs.Leaves` — the records of a tree from left to right

A leaf of a tree is found by its path: which child to take at the top, which one of its children then,
and so on down to a record. Of two leaves the one to the left is the one whose path is smaller at the
first place where the two differ. Leaves and their order are thereby given without any walk over the
tree, and flattening is shown to be the list of just these records in just this order.

## Contents
- **Paths.** `Stimulus.leafAt?`, the record at the end of a path.
- **Order.** `Stimulus.ListsLeaves`, and `listsLeaves_iff`: flattening lists the leaves, and nothing else
  does. `Stimulus.SameLeaves` for two trees.
-/

namespace StimulusBench.Stimulus

variable {s : Stimulus} {ss : List Stimulus} {path : List Nat} {r : Record} {records : List Record}

/-! ## Paths -/

/-- The record that a path leads to: at every group the path says which child to take, counted from the
    left. None if there is no such child, or if the path ends at a group or goes on behind a record. -/
def leafAt? : List Nat → Stimulus → Option Record
  | [], .record r => some r
  | i :: path, .group children => children[i]?.bind (leafAt? path)
  | _, _ => none

mutual

/-- The paths to the leaves, from left to right. -/
def leafPaths : Stimulus → List (List Nat)
  | .record _ => [[]]
  | .group children => leafPathsFrom 0 children

/-- The paths to the leaves below several children of a group, the first of which is at a given
    position. -/
def leafPathsFrom (position : Nat) : List Stimulus → List (List Nat)
  | [] => []
  | s :: rest => s.leafPaths.map (position :: ·) ++ leafPathsFrom (position + 1) rest

end

/-- Below several children lie the leaves of each of them. -/
theorem mem_leafPathsFrom_iff {position : Nat} :
    path ∈ leafPathsFrom position ss ↔
      ∃ k s below, ss[k]? = some s ∧ below ∈ s.leafPaths ∧ path = (position + k) :: below := by
  induction ss generalizing position with
  | nil =>
      constructor
      · intro h
        cases h
      · rintro ⟨k, s, below, hs, -⟩
        cases hs
  | cons first rest ih =>
      rw [leafPathsFrom, List.mem_append, List.mem_map, ih]
      constructor
      · rintro (⟨below, hbelow, rfl⟩ | ⟨k, s, below, hs, hbelow, rfl⟩)
        · exact ⟨0, first, below, rfl, hbelow, rfl⟩
        · exact ⟨k + 1, s, below, hs, hbelow, by rw [Nat.add_right_comm, Nat.add_assoc]⟩
      · rintro ⟨k, s, below, hs, hbelow, rfl⟩
        cases k with
        | zero =>
            cases hs
            exact .inl ⟨below, hbelow, rfl⟩
        | succ k => exact .inr ⟨k, s, below, hs, hbelow, by rw [Nat.add_right_comm, Nat.add_assoc]⟩

/-- **The paths to the leaves** are those that lead to a record. -/
theorem mem_leafPaths_iff : path ∈ s.leafPaths ↔ leafAt? path s ≠ none := by
  induction s generalizing path with
  | record r =>
      rw [leafPaths, List.mem_singleton]
      cases path with
      | nil => exact ⟨fun _ => Option.some_ne_none r, fun _ => rfl⟩
      | cons i path => exact ⟨(fun h => nomatch h), fun h => absurd rfl h⟩
  | group children ih =>
      rw [leafPaths, mem_leafPathsFrom_iff]
      constructor
      · rintro ⟨k, s, below, hs, hbelow, rfl⟩
        rw [Nat.zero_add, leafAt?, hs]
        exact (ih s (List.mem_of_getElem? hs)).mp hbelow
      · intro h
        cases path with
        | nil => exact absurd rfl h
        | cons k below =>
            rw [leafAt?] at h
            cases hs : children[k]? with
            | none =>
                rw [hs] at h
                exact absurd rfl h
            | some s =>
                rw [hs] at h
                exact ⟨k, s, below, hs, (ih s (List.mem_of_getElem? hs)).mpr h, by rw [Nat.zero_add]⟩

/-! ## Order -/

/-- **The paths to the leaves stand in order.** -/
theorem pairwise_leafPaths (s : Stimulus) : s.leafPaths.Pairwise (· < ·) := by
  induction s with
  | record r => exact List.pairwise_singleton _ _
  | group children ih =>
      rw [leafPaths]
      generalize 0 = position
      induction children generalizing position with
      | nil => exact .nil
      | cons first rest ihrest =>
          rw [leafPathsFrom, List.pairwise_append]
          refine ⟨?_, ihrest (fun s hs => ih s (List.mem_cons_of_mem _ hs)) _, ?_⟩
          · exact List.pairwise_map.mpr ((ih first List.mem_cons_self).imp List.Lex.cons)
          · -- a leaf further right is below a child with a greater position
            intro path hpath path' hpath'
            obtain ⟨below, -, rfl⟩ := List.mem_map.mp hpath
            obtain ⟨k, s, below', -, -, rfl⟩ := mem_leafPathsFrom_iff.mp hpath'
            exact List.Lex.rel (by omega)

/-- **The records at the ends** of these paths are those of the flattened tree. -/
theorem map_leafPaths (s : Stimulus) : s.leafPaths.map (leafAt? · s) = s.flatten.map some := by
  induction s with
  | record r => rfl
  | group children ih =>
      -- the children from some position on, of which the whole group knows nothing but their positions
      have hchildren : ∀ (ss : List Stimulus) (position : Nat), ss = children.drop position →
          (leafPathsFrom position ss).map (leafAt? · (.group children)) =
            (flattenAll ss).map some := by
        intro ss
        induction ss with
        | nil => exact fun _ _ => rfl
        | cons first rest ihrest =>
            intro position hdrop
            have hfirst : children[position]? = some first := by
              rw [← List.head?_drop, ← hdrop, List.head?_cons]
            have hrest : rest = children.drop (position + 1) := by
              rw [← List.tail_drop, ← hdrop, List.tail_cons]
            have hbelow : ∀ below, leafAt? (position :: below) (.group children) = leafAt? below first := by
              intro below
              rw [leafAt?, hfirst, Option.bind_some]
            rw [leafPathsFrom, List.map_append, List.map_map, ihrest _ hrest, flattenAll,
              List.map_append, ← ih first (List.mem_of_getElem? hfirst)]
            exact congrArg (· ++ _) (List.map_congr_left fun below _ => hbelow below)
      exact hchildren children 0 rfl

/-- **A tree lists its leaves** as the given records: they are the records at the ends of all paths that
    lead to one, taken from left to right. -/
def ListsLeaves (s : Stimulus) (records : List Record) : Prop :=
  ∃ paths : List (List Nat), paths.Pairwise (· < ·) ∧
    (∀ path, path ∈ paths ↔ leafAt? path s ≠ none) ∧ paths.map (leafAt? · s) = records.map some

/-- **Flattening lists the leaves**, and no other list does. -/
theorem listsLeaves_iff : s.ListsLeaves records ↔ s.flatten = records := by
  constructor
  · rintro ⟨paths, hordered, hleaves, hrecords⟩
    -- two sorted lists with the same members are the same
    have hpaths : paths = s.leafPaths :=
      hordered.eq_of_mem_iff (pairwise_leafPaths s) fun path => by rw [hleaves, mem_leafPaths_iff]
    rw [hpaths, map_leafPaths] at hrecords
    exact List.map_injective_iff.mpr (Option.some_injective _) hrecords
  · rintro rfl
    exact ⟨s.leafPaths, pairwise_leafPaths s, fun _ => mem_leafPaths_iff, map_leafPaths s⟩

/-- **Two trees have the same leaves**: the same records, in the same order from left to right. -/
def SameLeaves (s s' : Stimulus) : Prop := ∃ records, s.ListsLeaves records ∧ s'.ListsLeaves records

theorem sameLeaves_iff {s' : Stimulus} : s.SameLeaves s' ↔ s.flatten = s'.flatten := by
  constructor
  · rintro ⟨records, hleaves, hleaves'⟩
    rw [listsLeaves_iff.mp hleaves, listsLeaves_iff.mp hleaves']
  · intro hsame
    exact ⟨s'.flatten, listsLeaves_iff.mpr hsame, listsLeaves_iff.mpr rfl⟩

end StimulusBench.Stimulus
