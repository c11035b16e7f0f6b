import StimulusBench.Document
import StimulusBench.Proofs.Listing

/-!
# `StimulusBench.Proofs.Document` — stimuli found again in their listings

A record and a group are both lists, and nothing but their items tells them apart: the first item of a
record is a number, and all items of a group are lists. So a group is never taken for a record, although
a record is always tried first, and the content of the listing of a tree is that tree.

## Contents
- **Trees.** Induction, `flattenAll_eq`, `listingAll_eq`.
- **Numbers.** The numbers in a listing are bytes.
- **Records.** `Record.ofContent_listing`.
- **Groups.** `Stimulus.ofContent_listing`, `Corpus.ofContent_listing`, `Document.ofContent_listing`.
-/

namespace StimulusBench

/-! ## Trees -/

namespace Stimulus

/-- Structural induction on trees: of a group, the motive is assumed for every child. -/
@[elab_as_elim, induction_eliminator]
theorem rec' {motive : Stimulus → Prop} (record : ∀ r, motive (.record r))
    (group : ∀ children, (∀ s ∈ children, motive s) → motive (.group children)) (s : Stimulus) :
    motive s :=
  match s with
  | .record r => record r
  | .group children => group children fun s _ => rec' record group s

theorem flattenAll_eq (ss : List Stimulus) : flattenAll ss = ss.flatMap flatten := by
  induction ss with
  | nil => rfl
  | cons s rest ih => rw [flattenAll, ih, List.flatMap_cons]

theorem mem_flattenAll {s : Stimulus} {ss : List Stimulus} (hs : s ∈ ss) {r : Record}
    (hr : r ∈ s.flatten) : r ∈ flattenAll ss := by
  rw [flattenAll_eq]
  exact List.mem_flatMap.mpr ⟨s, hs, hr⟩

theorem listingAll_eq (ss : List Stimulus) : listingAll ss = ss.map listing := by
  induction ss with
  | nil => rfl
  | cons s rest ih => rw [listingAll, ih, List.map_cons]

end Stimulus

theorem Corpus.listing_eq (c : Corpus) : c.listing = .list (c.entries.map Stimulus.listing) := by
  rw [Corpus.listing, Stimulus.listingAll_eq]

/-! ## Numbers -/

theorem Record.lt_of_mem_numbers {r : Record} {n : Nat} (h : n ∈ r.listing.numbers) : n < 256 := by
  obtain ⟨channel, value, start, extra⟩ := r
  have hbyte := fun b : UInt8 => b.toNat_lt
  cases extra with
  | none =>
      simp only [Record.listing, byteListing, List.append_nil, Listing.numbers, Listing.numbersOfItems,
        List.cons_append, List.nil_append, List.mem_cons, List.not_mem_nil, or_false] at h
      rcases h with rfl | rfl | rfl <;> exact hbyte _
  | some a =>
      simp only [Record.listing, byteListing, Listing.numbers, Listing.numbersOfItems,
        List.cons_append, List.nil_append, List.mem_cons, List.not_mem_nil, or_false] at h
      rcases h with rfl | rfl | rfl | rfl | rfl <;> exact hbyte _

/-- **Every number in a listing** of a tree is a byte. -/
theorem Stimulus.lt_of_mem_numbers {s : Stimulus} {n : Nat} (h : n ∈ s.listing.numbers) : n < 256 := by
  induction s with
  | record r => exact Record.lt_of_mem_numbers h
  | group children ih =>
      rw [listing, listingAll_eq, Listing.numbers, Listing.numbersOfItems_eq, List.flatMap_map] at h
      obtain ⟨s, hs, hn⟩ := List.mem_flatMap.mp h
      exact ih s hs hn

/-! ## Records -/

theorem byte?_byteListing (b : UInt8) : (Record.byteListing b).content.byte? = some b := by
  show (if b.toNat < 256 then some (UInt8.ofNat b.toNat) else none) = some b
  rw [if_pos b.toNat_lt, UInt8.ofNat_toNat]

theorem readFlag_flagByte (fault : UInt8 → RecordFault) (b : Bool) :
    readFlag fault (flagByte b) = .ok b := by
  cases b <;> rfl

/-- The fields of a record on one of the two channels are those of the record. -/
theorem Record.ofFields_self {r : Record} (h : r.channel = dataChannel ∨ r.channel = resetChannel) :
    Record.ofFields r.channel r.value (flagByte r.start) (r.extra.map Assertion.flags) = .ok r := by
  obtain ⟨channel, value, start, extra⟩ := r
  have hknown : ¬ (channel ≠ dataChannel ∧ channel ≠ resetChannel) := by
    rintro ⟨hdata, hreset⟩
    exact h.elim hdata hreset
  unfold Record.ofFields
  rw [if_neg hknown, readFlag_flagByte]
  cases extra with
  | none => rfl
  | some a =>
      show ((do return ⟨channel, value, start, some (← Assertion.ofFlags (flagByte a.unlock)
        (flagByte a.warning))⟩ : Except RecordFault Record)) = _
      rw [Assertion.ofFlags, readFlag_flagByte, readFlag_flagByte]
      rfl

/-- **A record is found again** in the content of its listing. -/
theorem Record.ofContent_listing {r : Record}
    (h : r.channel = dataChannel ∨ r.channel = resetChannel) :
    Record.ofContent r.listing.content = .ok r := by
  have hfields : ∃ items, r.listing.content = .list items ∧
      recordFields? items =
        some (r.channel, r.value, flagByte r.start, r.extra.map Assertion.flags) := by
    obtain ⟨channel, value, start, extra⟩ := r
    refine ⟨_, rfl, ?_⟩
    cases extra <;>
      simp [Listing.contentItems_eq, Listing.contentItems, Listing.content, recordFields?,
        byte?_byteListing]
  obtain ⟨items, hcontent, hitems⟩ := hfields
  rw [hcontent, Record.ofContent, Record.ofItems, hitems]
  dsimp only
  rw [Record.ofFields_self h]
  rfl

/-! ## Groups -/

/-- Where no item is a number, there is no record. -/
theorem recordFields?_eq_none {items : List Content} (h : ∀ c ∈ items, c.byte? = none) :
    recordFields? items = none := by
  unfold recordFields?
  split
  next c v s => rw [h c List.mem_cons_self]; rfl
  next c v s u w => rw [h c List.mem_cons_self]; rfl
  next => rfl

namespace Stimulus

theorem byte?_content_listing (s : Stimulus) : s.listing.content.byte? = none := by
  cases s <;> rfl

theorem ofContents_listings {ss : List Stimulus}
    (h : ∀ s ∈ ss, ofContent s.listing.content = some s) :
    ofContents (ss.map fun s => s.listing.content) = some ss := by
  induction ss with
  | nil => rfl
  | cons s rest ih =>
      rw [List.map_cons, ofContents, h s List.mem_cons_self,
        ih fun s hs => h s (List.mem_cons_of_mem _ hs)]
      rfl

/-- A record is tried first. -/
theorem ofContent_of_record {c : Content} {r : Record} (h : Record.ofContent c = .ok r) :
    ofContent c = some (.record r) := by
  cases c with
  | list items =>
      have hitems : Record.ofItems items = .ok r := h
      rw [ofContent, hitems]
  | _ => cases h

/-- A list without numbers is no record, and can only be a group. -/
theorem ofContent_of_group {items : List Content} (h : ∀ c ∈ items, c.byte? = none) :
    ofContent (.list items) = (ofContents items).map .group := by
  have hitems : Record.ofItems items = .error (.shape .record) := by
    rw [Record.ofItems, recordFields?_eq_none h]
  rw [ofContent, hitems]

theorem contentItems_listingAll (ss : List Stimulus) :
    Listing.contentItems (listingAll ss) = ss.map fun s => s.listing.content := by
  rw [Listing.contentItems_eq, listingAll_eq, List.map_map]
  rfl

/-- **A tree is found again** in the content of its listing, if every record in it is on one of the two
    channels. -/
theorem ofContent_listing {s : Stimulus}
    (h : ∀ r ∈ s.flatten, r.channel = dataChannel ∨ r.channel = resetChannel) :
    ofContent s.listing.content = some s := by
  induction s with
  | record r => exact ofContent_of_record (Record.ofContent_listing (h r (List.mem_singleton.mpr rfl)))
  | group children ih =>
      have hchildren : ∀ s ∈ children, ofContent s.listing.content = some s :=
        fun s hs => ih s hs fun r hr => h r (mem_flattenAll hs hr)
      -- a child is a list, be it a record or a group, and no field of a record is one
      have hlists : ∀ c ∈ children.map fun s => s.listing.content, c.byte? = none := by
        intro c hc
        obtain ⟨s, -, rfl⟩ := List.mem_map.mp hc
        exact byte?_content_listing s
      rw [listing, Listing.content, contentItems_listingAll, ofContent_of_group hlists,
        ofContents_listings hchildren]
      rfl

end Stimulus

variable {c : Corpus}

theorem Corpus.ofContent_listing
    (h : ∀ r ∈ c.flatten, r.channel = dataChannel ∨ r.channel = resetChannel) :
    Corpus.ofContent c.listing.content = some c := by
  have hentries : ∀ s ∈ c.entries, Stimulus.ofContent s.listing.content = some s :=
    fun s hs => Stimulus.ofContent_listing fun r hr => h r (Stimulus.mem_flattenAll hs hr)
  rw [listing, Listing.content, Stimulus.contentItems_listingAll, Corpus.ofContent,
    Stimulus.ofContents_listings hentries]
  rfl

/-- **A stimulus document** with the listing of a corpus is that corpus, and not one with a key. -/
theorem Document.ofContent_listing
    (h : ∀ r ∈ c.flatten, r.channel = dataChannel ∨ r.channel = resetChannel) :
    Document.ofContent c.listing.content = .ok (.corpus c) := by
  unfold Document.ofContent
  rw [Corpus.ofContent_listing h]

end StimulusBench
