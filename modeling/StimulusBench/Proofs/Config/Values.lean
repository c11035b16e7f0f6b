import Mathlib.Data.List.Forall2
import StimulusBench.Config
import StimulusBench.Proofs.Outcome

/-!
# `StimulusBench.Proofs.Config.Values` — which nodes give which values

The reader of a setting accepts nodes of one form, or of two, and the value that it gives can be seen from
the node alone: a text is itself, a number lies in its range, a list has the numbers of a sequence at its
front, and a format is told by its name or by a table with that name as its only key. Each reader is the
decision of such a form: it gives a value exactly if the node has the form with that value.

## Contents
- **Numbers and texts.** `IsInteger`, `IsText`.
- **Lists.** `IsList`, and `readSequence_eq_ok_iff` for the front of one.
- **Formats.** `IsFormat`.
-/

namespace StimulusBench.Config

open Toml (Node)

variable {node : Node}

/-! ## Numbers and texts -/

/-- A whole number. -/
def IsInteger (node : Node) (n : Nat) : Prop := ∃ span, node = .integer span n

/-- A text. -/
def IsText (node : Node) (text : String) : Prop := ∃ span, node = .string span text

theorem readNatural_eq_ok_iff {bound n : Nat} {expected : String} :
    readNatural bound expected node = .ok n ↔ n < bound ∧ IsInteger node n := by
  constructor
  · intro h
    unfold readNatural at h
    split at h
    next span value =>
      split at h
      next hrange =>
        cases h
        obtain ⟨hnonneg, hbound⟩ := hrange
        exact ⟨by omega, span, by rw [Int.toNat_of_nonneg hnonneg]⟩
      next => cases h
    next => cases h
  · rintro ⟨hbound, span, rfl⟩
    rw [readNatural, if_pos ⟨Int.natCast_nonneg n, Int.ofNat_lt.mpr hbound⟩, Int.toNat_natCast]

theorem readByte_eq_ok_iff {b : UInt8} : readByte node = .ok b ↔ IsInteger node b.toNat := by
  rw [readByte, map_eq_ok_iff]
  constructor
  · rintro ⟨n, hn, rfl⟩
    obtain ⟨hbound, hnode⟩ := readNatural_eq_ok_iff.mp hn
    rwa [UInt8.toNat_ofNat_of_lt' hbound]
  · intro hnode
    exact ⟨b.toNat, readNatural_eq_ok_iff.mpr ⟨b.toNat_lt, hnode⟩, UInt8.ofNat_toNat⟩

theorem readText_eq_ok_iff {expected text : String} :
    readText expected node = .ok text ↔ IsText node text := by
  constructor
  · intro h
    unfold readText at h
    split at h
    next span s =>
      cases h
      exact ⟨span, rfl⟩
    next => cases h
  · rintro ⟨span, rfl⟩
    rfl

/-! ## Lists -/

/-- A list, or tables under one header in double brackets. -/
def IsList (node : Node) (items : List Node) : Prop :=
  (∃ span, node = .array span items) ∨ ∃ span, node = .tables span items

/-- **The bytes at the front of a list**, as many as are asked for. -/
theorem readBytes_eq_ok_iff {span : Option Toml.Span} {position left : Nat} {items : List Node}
    {bytes : List UInt8} :
    readBytes span position left items = .ok bytes ↔
      bytes.length = left ∧ List.Forall₂ (fun item b => IsInteger item b.toNat) (items.take left) bytes := by
  induction left generalizing position items bytes with
  | zero =>
      rw [readBytes, List.take_zero]
      constructor
      · intro h
        cases h
        exact ⟨rfl, .nil⟩
      · rintro ⟨-, hnone⟩
        cases hnone
        rfl
  | succ left ih =>
      cases items with
      | nil =>
          constructor
          · intro h
            cases h
          · rintro ⟨hlength, hbytes⟩
            cases hbytes
            cases hlength
      | cons item rest =>
          rw [readBytes, bind_eq_ok_iff, List.take_succ_cons]
          constructor
          · rintro ⟨b, hb, h⟩
            obtain ⟨more, hmore, h⟩ := bind_eq_ok_iff.mp h
            cases h
            obtain ⟨hlength, hrest⟩ := ih.mp hmore
            exact ⟨congrArg (· + 1) hlength, .cons (readByte_eq_ok_iff.mp (mapError_eq_ok_iff.mp hb)) hrest⟩
          · rintro ⟨hlength, hbytes⟩
            cases hbytes with
            | @cons _ b _ more hb hrest =>
                exact ⟨b, mapError_eq_ok_iff.mpr (readByte_eq_ok_iff.mpr hb),
                  bind_eq_ok_iff.mpr ⟨more, ih.mpr ⟨Nat.succ.inj hlength, hrest⟩, rfl⟩⟩

/-- A sequence: a list with the numbers of the sequence at its front. -/
def IsSequence (node : Node) (values : Sequence) : Prop :=
  ∃ items, IsList node items ∧
    List.Forall₂ (fun item b => IsInteger item b.toNat) (items.take sequenceLength) values.toList

theorem readSequence_eq_ok_iff {values : Sequence} :
    readSequence node = .ok values ↔ IsSequence node values := by
  -- what is read of a list does not depend on the kind of list it is
  have hitems : ∀ (items : List Node) (span : Option Toml.Span),
      (do let bytes ← readBytes span 0 sequenceLength items
          if h : bytes.length = sequenceLength then return (⟨bytes.toArray, by simpa using h⟩ : Sequence)
          else wrongType node "an array of length 5" : Except TypeFault Sequence) = .ok values ↔
        List.Forall₂ (fun item b => IsInteger item b.toNat) (items.take sequenceLength) values.toList := by
    intro items span
    rw [bind_eq_ok_iff]
    constructor
    · rintro ⟨bytes, hbytes, h⟩
      obtain ⟨hlength, hgiven⟩ := readBytes_eq_ok_iff.mp hbytes
      rw [dif_pos hlength] at h
      cases h
      exact hgiven
    · intro hgiven
      refine ⟨values.toList, readBytes_eq_ok_iff.mpr ⟨Vector.length_toList, hgiven⟩, ?_⟩
      rw [dif_pos Vector.length_toList]
      rfl
  constructor
  · intro h
    cases node with
    | array span items => exact ⟨items, .inl ⟨span, rfl⟩, (hitems items _).mp h⟩
    | tables span items => exact ⟨items, .inr ⟨span, rfl⟩, (hitems items _).mp h⟩
    | string | integer | float | boolean | dateTime | table => cases h
  · rintro ⟨items, ⟨span, rfl⟩ | ⟨span, rfl⟩, hgiven⟩
    · exact (hitems items _).mpr hgiven
    · exact (hitems items _).mpr hgiven

/-! ## Formats -/

/-- Nothing at all: an empty list or an empty table. -/
def IsNothing (node : Node) : Prop := IsList node [] ∨ ∃ form span, node = .table form span []

theorem readNothing_eq_ok_iff {u : Unit} : readNothing node = .ok u ↔ IsNothing node := by
  constructor
  · intro h
    unfold readNothing at h
    split at h
    next span items =>
      cases items with
      | nil => exact .inl (.inl ⟨span, rfl⟩)
      | cons item rest => cases h
    next span items =>
      cases items with
      | nil => exact .inl (.inr ⟨span, rfl⟩)
      | cons item rest => cases h
    next form span entries =>
      cases entries with
      | nil => exact .inr ⟨form, span, rfl⟩
      | cons entry rest => cases h
    next => cases h
  · rintro ((⟨span, rfl⟩ | ⟨span, rfl⟩) | ⟨form, span, rfl⟩) <;> rfl

theorem withName?_eq_some_iff {name : String} {format : LogFormat} :
    LogFormat.withName? name = some format ↔ name = format.name := by
  unfold LogFormat.withName?
  cases format with
  | pretty => split <;> simp_all [LogFormat.name]
  | json => split <;> simp_all [LogFormat.name]

theorem readFormatName_eq_ok_iff {name : String} {span : Option Toml.Span} {format : LogFormat} :
    readFormatName name span = .ok format ↔ name = format.name := by
  rw [← withName?_eq_some_iff, readFormatName]
  cases LogFormat.withName? name <;> simp

/-- A format: its name, or a table with its name as the only key and nothing under it. -/
def IsFormat (node : Node) (format : LogFormat) : Prop :=
  IsText node format.name ∨
    ∃ form span key inner, node = .table form span [(key, inner)] ∧ key.name = format.name ∧ IsNothing inner

theorem readFormat_eq_ok_iff {format : LogFormat} : readFormat node = .ok format ↔ IsFormat node format := by
  constructor
  · intro h
    unfold readFormat at h
    split at h
    next span s => exact .inl ⟨span, by rw [readFormatName_eq_ok_iff.mp h]⟩
    next form span entries =>
      split at h
      next => cases h
      next key inner =>
        obtain ⟨read, hname, h⟩ := bind_eq_ok_iff.mp h
        obtain ⟨u, hinner, h⟩ := bind_eq_ok_iff.mp h
        cases h
        exact .inr ⟨form, span, key, inner, rfl, readFormatName_eq_ok_iff.mp hname,
          readNothing_eq_ok_iff.mp hinner⟩
      next => cases h
    next => cases h
  · rintro (⟨span, rfl⟩ | ⟨form, span, key, inner, rfl, hname, hinner⟩)
    · exact readFormatName_eq_ok_iff.mpr rfl
    · exact bind_eq_ok_iff.mpr ⟨format, readFormatName_eq_ok_iff.mpr hname,
        bind_eq_ok_iff.mpr ⟨(), readNothing_eq_ok_iff.mpr hinner, rfl⟩⟩

end StimulusBench.Config
