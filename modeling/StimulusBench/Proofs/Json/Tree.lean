import StimulusBench.Proofs.Document
import StimulusBench.Proofs.Outcome

/-!
# `StimulusBench.Proofs.Json.Tree` — the JSON trees that hold a corpus

A list is tried as a record first and as a group after that, so a record with a faulty field is silently
tried as a group. Nothing comes of it: its fields are numbers, and no number is a stimulus. So a JSON tree
holds a corpus exactly if it is the listing of one, and any other tree has a defect that can be pointed
at: a node in place of a list, or a list with a number among its items that is no record.

## Contents
- **Listings.** `Content.ofJson_json`: a listing and its JSON tree have the same content.
- **Fields.** `Record.ofFields_eq_ok_iff`, `Record.ofItems_ofJson_iff`: records in JSON.
- **Trees.** `Stimulus.ofContent_ofJson_iff`, `Corpus.ofJson_eq_ok_iff`: what is read is the listing.
- **Different trees.** Their listings differ, and no listing is that of a record and of a group.
- **Defects.** `Json.Defective`; a tree without a defect is read (`Json.exists_stimulus`).
- **Corpora.** Which trees hold a corpus, and why the others do not.
-/

namespace StimulusBench

/-! ## Listings -/

/-- Structural induction on JSON trees: of a list, the motive is assumed for every item. Nothing is
    assumed of the members of an object, which is no part of any listing. -/
@[elab_as_elim]
theorem Json.listRec {motive : Json → Prop}
    (other : ∀ t, (∀ items, t ≠ .array items) → motive t)
    (array : ∀ items, (∀ t ∈ items, motive t) → motive (.array items)) (t : Json) : motive t :=
  match t with
  | .array items => array items fun t _ => listRec other array t
  | .null => other _ (by simp)
  | .bool _ => other _ (by simp)
  | .int _ => other _ (by simp)
  | .float _ => other _ (by simp)
  | .string _ => other _ (by simp)
  | .object _ => other _ (by simp)

theorem Listing.jsonItems_eq (items : List Listing) : jsonItems items = items.map json := by
  induction items with
  | nil => rfl
  | cons item rest ih => rw [jsonItems, ih, List.map_cons]

theorem Content.ofJsonItems_eq (items : List Json) : ofJsonItems items = items.map ofJson := by
  induction items with
  | nil => rfl
  | cons t rest ih => rw [ofJsonItems, ih, List.map_cons]

/-- **A listing as JSON** has the content of the listing. -/
theorem Content.ofJson_json (l : Listing) : Content.ofJson l.json = l.content := by
  induction l with
  | number n => simp [Listing.json, Listing.content, ofJson]
  | list items ih =>
      rw [Listing.json, Listing.content, ofJson, ofJsonItems_eq, Listing.jsonItems_eq,
        Listing.contentItems_eq, List.map_map]
      exact congrArg Content.list (List.map_congr_left ih)

/-- Only a JSON list has the content of a list. -/
theorem Content.ofJson_eq_list {t : Json} {cs : List Content} (h : ofJson t = .list cs) :
    ∃ items, t = .array items ∧ cs = items.map ofJson := by
  cases t with
  | array items =>
      rw [ofJson, ofJsonItems_eq] at h
      exact ⟨items, rfl, (Content.list.inj h).symm⟩
  | int n =>
      rw [ofJson] at h
      split at h <;> cases h
  | _ => cases h

/-! ## Fields -/

theorem byte?_ofJson_iff {t : Json} {b : UInt8} :
    (Content.ofJson t).byte? = some b ↔ t = .int b.toNat := by
  constructor
  · intro h
    cases t with
    | int n =>
        rw [Content.ofJson] at h
        split at h
        next hsign =>
          obtain ⟨m, rfl⟩ := Int.eq_ofNat_of_zero_le hsign
          rw [Content.byte?, Int.toNat_natCast] at h
          split at h
          next hm => rw [← Option.some.inj h, UInt8.toNat_ofNat_of_lt' hm]
          next => cases h
        next hsign =>
          -- a number with a minus sign is no zero, and nothing but zero is a byte among those
          rw [Content.byte?, if_neg (by omega)] at h
          cases h
    | _ => cases h
  · rintro rfl
    rw [Content.ofJson, if_pos (Int.natCast_nonneg _), Int.toNat_natCast]
    show (if b.toNat < 256 then some (UInt8.ofNat b.toNat) else none) = some b
    rw [if_pos b.toNat_lt, UInt8.ofNat_toNat]

theorem readFlag_eq_ok_iff {fault : UInt8 → RecordFault} {raw : UInt8} {b : Bool} :
    readFlag fault raw = .ok b ↔ raw = flagByte b := by
  constructor
  · intro h
    unfold readFlag at h
    split at h
    next hzero =>
      cases h
      exact hzero
    next =>
      split at h
      next hone =>
        cases h
        exact hone
      next => cases h
  · rintro rfl
    exact readFlag_flagByte fault b

theorem Assertion.ofFlags_eq_ok_iff {unlock warning : UInt8} {a : Assertion} :
    Assertion.ofFlags unlock warning = .ok a ↔ (unlock, warning) = a.flags := by
  simp only [ofFlags, bind_eq_ok_iff, readFlag_eq_ok_iff]
  constructor
  · rintro ⟨u, rfl, w, rfl, h⟩
    cases h
    rfl
  · intro h
    obtain ⟨rfl, rfl⟩ := Prod.mk.inj h
    exact ⟨a.unlock, rfl, a.warning, rfl, rfl⟩

/-- **The fields of a record**: those of a record on one of the two channels, and no others. -/
theorem Record.ofFields_eq_ok_iff {channel value start : UInt8} {extra : Option (UInt8 × UInt8)}
    {r : Record} :
    Record.ofFields channel value start extra = .ok r ↔
      (r.channel = dataChannel ∨ r.channel = resetChannel) ∧
        channel = r.channel ∧ value = r.value ∧ start = flagByte r.start ∧
          extra = r.extra.map Assertion.flags := by
  constructor
  · intro h
    unfold Record.ofFields at h
    dsimp only at h
    by_cases hknown : channel = dataChannel ∨ channel = resetChannel
    · rw [if_neg fun hother => hknown.elim hother.1 hother.2] at h
      cases extra with
      | none =>
          obtain ⟨marker, hmarker, h⟩ := bind_eq_ok_iff.mp h
          cases h
          exact ⟨hknown, rfl, rfl, readFlag_eq_ok_iff.mp hmarker, rfl⟩
      | some flags =>
          obtain ⟨marker, hmarker, h⟩ := bind_eq_ok_iff.mp h
          obtain ⟨a, ha, h⟩ := bind_eq_ok_iff.mp h
          cases h
          exact ⟨hknown, rfl, rfl, readFlag_eq_ok_iff.mp hmarker,
            congrArg some (Assertion.ofFlags_eq_ok_iff.mp ha)⟩
    · rw [if_pos (not_or.mp hknown)] at h
      obtain ⟨_, hthrow, -⟩ := bind_eq_ok_iff.mp h
      cases hthrow
  · rintro ⟨hchannel, rfl, rfl, rfl, rfl⟩
    exact Record.ofFields_self hchannel

/-- The fields of a record in JSON. -/
def fieldTrees (channel value start : UInt8) (extra : Option (UInt8 × UInt8)) : List Json :=
  [.int channel.toNat, .int value.toNat, .int start.toNat] ++
    match extra with
    | none => []
    | some (u, w) => [.array [.int u.toNat, .int w.toNat]]

theorem Record.json_listing (r : Record) :
    r.listing.json =
      .array (fieldTrees r.channel r.value (flagByte r.start) (r.extra.map Assertion.flags)) := by
  obtain ⟨channel, value, start, extra⟩ := r
  cases extra <;> rfl

/-- **The shape of a record** in JSON: three bytes, or three bytes and a list of two. -/
theorem recordFields?_ofJson_iff {items : List Json} {channel value start : UInt8}
    {extra : Option (UInt8 × UInt8)} :
    recordFields? (items.map Content.ofJson) = some (channel, value, start, extra) ↔
      items = fieldTrees channel value start extra := by
  constructor
  · intro h
    unfold recordFields? at h
    split at h
    next c v s heq =>
      simp only [List.map_eq_cons_iff, List.map_eq_nil_iff] at heq
      obtain ⟨tc, _, rfl, rfl, tv, _, rfl, rfl, ts, _, rfl, rfl, rfl⟩ := heq
      simp only [Option.bind_eq_bind, Option.bind_eq_some_iff, byte?_ofJson_iff] at h
      obtain ⟨c, rfl, v, rfl, s, rfl, h⟩ := h
      cases h
      rfl
    next c v s u w heq =>
      simp only [List.map_eq_cons_iff, List.map_eq_nil_iff] at heq
      obtain ⟨tc, _, rfl, rfl, tv, _, rfl, rfl, ts, _, rfl, rfl, te, _, rfl, hlist, rfl⟩ := heq
      obtain ⟨flags, rfl, hflags⟩ := Content.ofJson_eq_list hlist
      have hpair := hflags.symm
      simp only [List.map_eq_cons_iff, List.map_eq_nil_iff] at hpair
      obtain ⟨tu, _, rfl, rfl, tw, _, rfl, rfl, rfl⟩ := hpair
      simp only [Option.bind_eq_bind, Option.bind_eq_some_iff, byte?_ofJson_iff] at h
      obtain ⟨c, rfl, v, rfl, s, rfl, u, rfl, w, rfl, h⟩ := h
      cases h
      rfl
    next => cases h
  · rintro rfl
    have hbyte (b : UInt8) : (Content.natural b.toNat).byte? = some b := byte?_byteListing b
    cases extra <;> simp [fieldTrees, recordFields?, Content.ofJson, Content.ofJsonItems, hbyte]

theorem Record.ofItems_ofJson_iff {items : List Json} {r : Record} :
    Record.ofItems (items.map Content.ofJson) = .ok r ↔
      Json.array items = r.listing.json ∧ (r.channel = dataChannel ∨ r.channel = resetChannel) := by
  rw [Record.json_listing, Json.array.injEq]
  unfold Record.ofItems
  constructor
  · intro h
    split at h
    next => cases h
    next hfields =>
      obtain ⟨hchannel, rfl, rfl, rfl, rfl⟩ := Record.ofFields_eq_ok_iff.mp (mapError_eq_ok_iff.mp h)
      exact ⟨recordFields?_ofJson_iff.mp hfields, hchannel⟩
  · rintro ⟨hitems, hchannel⟩
    rw [recordFields?_ofJson_iff.mpr hitems]
    exact mapError_eq_ok_iff.mpr (Record.ofFields_self hchannel)

/-! ## Trees -/

namespace Stimulus

/-- A record is read from what is a record. -/
theorem ofContent_eq_record {c : Content} {r : Record} (h : ofContent c = some (.record r)) :
    ∃ items, c = .list items ∧ Record.ofItems items = .ok r := by
  cases c with
  | list items =>
      rw [ofContent] at h
      split at h
      next r' hitems =>
        cases h
        exact ⟨items, rfl, hitems⟩
      next =>
        obtain ⟨ss, -, hss⟩ := Option.map_eq_some_iff.mp h
        cases hss
  | _ => cases h

/-- A group is read from the list of what its children are read from. -/
theorem ofContent_eq_group {c : Content} {ss : List Stimulus} (h : ofContent c = some (.group ss)) :
    ∃ items, c = .list items ∧ ofContents items = some ss := by
  cases c with
  | list items =>
      rw [ofContent] at h
      split at h
      next => cases h
      next =>
        obtain ⟨ss', hitems, hss⟩ := Option.map_eq_some_iff.mp h
        cases hss
        exact ⟨items, rfl, hitems⟩
  | _ => cases h

theorem json_listing_group (ss : List Stimulus) :
    (group ss).listing.json = .array (ss.map fun s => s.listing.json) := by
  rw [listing, Listing.json, Listing.jsonItems_eq, listingAll_eq, List.map_map]
  rfl

/-- If every one of some stimuli can only be read from its listing, all of them together can only be
    read from their listings. What is known of each one that was read is known of all. -/
theorem eq_listings_of_ofContents {Known : Stimulus → Prop} {items : List Json} {ss : List Stimulus}
    (h : ofContents (items.map Content.ofJson) = some ss)
    (hread : ∀ s ∈ ss, ∀ t, ofContent (Content.ofJson t) = some s → t = s.listing.json ∧ Known s) :
    (items = ss.map fun s => s.listing.json) ∧ ∀ s ∈ ss, Known s := by
  induction items generalizing ss with
  | nil =>
      cases h
      exact ⟨rfl, fun s hs => absurd hs List.not_mem_nil⟩
  | cons t rest ih =>
      rw [List.map_cons, ofContents] at h
      split at h
      next => cases h
      next s hs =>
        obtain ⟨ss', hrest, rfl⟩ := Option.map_eq_some_iff.mp h
        obtain ⟨hhead, hknown⟩ := hread s List.mem_cons_self t hs
        obtain ⟨htail, hall⟩ := ih hrest fun s' hs' => hread s' (List.mem_cons_of_mem _ hs')
        refine ⟨by rw [List.map_cons, hhead, htail], fun s' hs' => ?_⟩
        rcases List.mem_cons.mp hs' with rfl | hs'
        · exact hknown
        · exact hall s' hs'

/-- **What a stimulus is read from** is its listing, and nothing else. -/
theorem ofContent_ofJson_iff {t : Json} {s : Stimulus} :
    ofContent (Content.ofJson t) = some s ↔
      t = s.listing.json ∧ ∀ r ∈ s.flatten, r.channel = dataChannel ∨ r.channel = resetChannel := by
  constructor
  · intro h
    induction s generalizing t with
    | record r =>
        obtain ⟨cs, hcs, hr⟩ := ofContent_eq_record h
        obtain ⟨items, rfl, rfl⟩ := Content.ofJson_eq_list hcs
        obtain ⟨hlisting, hchannel⟩ := Record.ofItems_ofJson_iff.mp hr
        refine ⟨hlisting, fun r' hr' => ?_⟩
        rwa [List.mem_singleton.mp hr']
    | group ss ih =>
        obtain ⟨cs, hcs, hss⟩ := ofContent_eq_group h
        obtain ⟨items, rfl, rfl⟩ := Content.ofJson_eq_list hcs
        obtain ⟨hitems, hchannels⟩ := eq_listings_of_ofContents hss fun s hs t ht => ih s hs ht
        refine ⟨by rw [json_listing_group, hitems], fun r hr => ?_⟩
        rw [flatten, flattenAll_eq] at hr
        obtain ⟨s, hs, hr⟩ := List.mem_flatMap.mp hr
        exact hchannels s hs r hr
  · rintro ⟨rfl, hchannels⟩
    rw [Content.ofJson_json]
    exact ofContent_listing hchannels

theorem ofContents_ofJson_iff {items : List Json} {ss : List Stimulus} :
    ofContents (items.map Content.ofJson) = some ss ↔
      (items = ss.map fun s => s.listing.json) ∧
        ∀ r ∈ flattenAll ss, r.channel = dataChannel ∨ r.channel = resetChannel := by
  constructor
  · intro h
    obtain ⟨hitems, hchannels⟩ :=
      eq_listings_of_ofContents h fun _ _ _ ht => ofContent_ofJson_iff.mp ht
    refine ⟨hitems, fun r hr => ?_⟩
    rw [flattenAll_eq] at hr
    obtain ⟨s, hs, hr⟩ := List.mem_flatMap.mp hr
    exact hchannels s hs r hr
  · rintro ⟨rfl, hchannels⟩
    have hcontents : (ss.map fun s => s.listing.json).map Content.ofJson =
        ss.map fun s => s.listing.content := by
      rw [List.map_map]
      exact List.map_congr_left fun s _ => Content.ofJson_json s.listing
    rw [hcontents]
    exact ofContents_listings fun s hs => ofContent_listing fun r hr =>
      hchannels r (mem_flattenAll hs hr)

end Stimulus

theorem Corpus.json_listing (c : Corpus) :
    c.listing.json = .array (c.entries.map fun s => s.listing.json) :=
  Stimulus.json_listing_group c.entries

/-- **What a corpus is read from** is its listing, and nothing else. -/
theorem Corpus.ofJson_eq_ok_iff {t : Json} {c : Corpus} :
    Corpus.ofJson t = .ok c ↔
      t = c.listing.json ∧ ∀ r ∈ c.flatten, r.channel = dataChannel ∨ r.channel = resetChannel := by
  rw [Corpus.json_listing]
  constructor
  · intro h
    cases t with
    | array items =>
        rw [Corpus.ofJson, Content.ofJsonItems_eq] at h
        split at h
        next entries hentries =>
          cases h
          obtain ⟨hitems, hchannels⟩ := Stimulus.ofContents_ofJson_iff.mp hentries
          exact ⟨congrArg Json.array hitems, hchannels⟩
        next => cases h
    | _ => cases h
  · rintro ⟨rfl, hchannels⟩
    rw [Corpus.ofJson, Content.ofJsonItems_eq, Stimulus.ofContents_ofJson_iff.mpr ⟨rfl, hchannels⟩]

/-! ## Different trees -/

theorem flagByte_injective : Function.Injective flagByte := by
  intro b b' h
  cases b <;> cases b' <;> first | rfl | cases h

theorem Assertion.flags_injective : Function.Injective Assertion.flags := by
  intro a a' h
  obtain ⟨hunlock, hwarning⟩ := Prod.mk.inj h
  obtain ⟨u, w⟩ := a
  obtain ⟨u', w'⟩ := a'
  rw [Assertion.mk.injEq]
  exact ⟨flagByte_injective hunlock, flagByte_injective hwarning⟩

theorem Record.json_listing_injective {r r' : Record} (h : r.listing.json = r'.listing.json) :
    r = r' := by
  rw [r.json_listing, r'.json_listing, Json.array.injEq] at h
  -- the shape of a record gives the fields back, on whatever channel it is
  have hfields := recordFields?_ofJson_iff.mpr h
  rw [recordFields?_ofJson_iff.mpr rfl] at hfields
  simp only [Option.some.injEq, Prod.mk.injEq] at hfields
  obtain ⟨hchannel, hvalue, hstart, hextra⟩ := hfields
  obtain ⟨channel, value, start, extra⟩ := r
  obtain ⟨channel', value', start', extra'⟩ := r'
  have hmarker := flagByte_injective hstart
  have hassertion := Option.map_injective Assertion.flags_injective hextra
  dsimp only at hchannel hvalue hmarker hassertion
  rw [hchannel, hvalue, hmarker, hassertion]

namespace Stimulus

theorem exists_json_listing (s : Stimulus) : ∃ items, s.listing.json = .array items := by
  cases s with
  | record r => exact ⟨_, r.json_listing⟩
  | group ss => exact ⟨_, json_listing_group ss⟩

theorem exists_json_listing_record (r : Record) :
    ∃ (b : UInt8) (items : List Json), (record r).listing.json = .array (.int b.toNat :: items) :=
  ⟨r.channel, _, r.json_listing⟩

/-- **A record is no group**: it starts with a number, and a group holds none. -/
theorem json_listing_record_ne_group (r : Record) (ss : List Stimulus) :
    (record r).listing.json ≠ (group ss).listing.json := by
  intro h
  obtain ⟨b, items, hr⟩ := exists_json_listing_record r
  rw [hr, json_listing_group] at h
  cases ss with
  | nil => cases h
  | cons s rest =>
      obtain ⟨items', hs⟩ := s.exists_json_listing
      rw [List.map_cons, hs] at h
      cases (List.cons.inj (Json.array.inj h)).1

/-- Of trees that can be told apart by their listings, several can too. -/
theorem eq_of_json_listings_eq {ss ss' : List Stimulus}
    (hone : ∀ s ∈ ss, ∀ s' : Stimulus, s.listing.json = s'.listing.json → s = s')
    (h : (ss.map fun s => s.listing.json) = ss'.map fun s => s.listing.json) : ss = ss' := by
  induction ss generalizing ss' with
  | nil => exact (List.map_eq_nil_iff.mp h.symm).symm
  | cons s rest ih =>
      obtain ⟨s', rest', rfl, hs, hrest⟩ := List.map_eq_cons_iff.mp h.symm
      rw [hone s List.mem_cons_self s' hs.symm,
        ih (fun x hx => hone x (List.mem_cons_of_mem _ hx)) hrest.symm]

/-- **Different trees** have different listings, on whatever channels their records are. -/
theorem json_listing_injective : Function.Injective fun s : Stimulus => s.listing.json := by
  intro s s' h
  induction s generalizing s' with
  | record r =>
      cases s' with
      | record r' => exact congrArg record (Record.json_listing_injective h)
      | group ss' => exact absurd h (json_listing_record_ne_group r ss')
  | group ss ih =>
      cases s' with
      | record r' => exact absurd h.symm (json_listing_record_ne_group r' ss)
      | group ss' =>
          have hlistings := (json_listing_group ss).symm.trans (h.trans (json_listing_group ss'))
          exact congrArg group (eq_of_json_listings_eq (fun s hs _ hsame => ih s hs hsame)
            (Json.array.inj hlistings))

end Stimulus

theorem Corpus.json_listing_injective : Function.Injective fun c : Corpus => c.listing.json := by
  intro c c' h
  have hgroup : (Stimulus.group c.entries).listing.json = (Stimulus.group c'.entries).listing.json := h
  have hentries := Stimulus.group.inj (Stimulus.json_listing_injective hgroup)
  cases c
  cases c'
  exact congrArg Corpus.mk hentries

/-! ## Defects -/

namespace Json

/-- A list. -/
def IsList (t : Json) : Prop := ∃ items, t = .array items

/-- A whole number that fits a byte. -/
def IsByte (t : Json) : Prop := ∃ n : Nat, n < 256 ∧ t = .int n

/-- A zero or a one: a flag, or one of the two channels. -/
def IsBit (t : Json) : Prop := t = .int 0 ∨ t = .int 1

/-- Some item is no list, so that the list can only be meant as a record. -/
def Flat (items : List Json) : Prop := ∃ t ∈ items, ¬ t.IsList

/-- **What is wrong with a tree** in place of a stimulus: the node itself, or a node below it. -/
inductive Defective : Json → Prop
  | notAList {t : Json} (h : ¬ t.IsList) : Defective t
  | arity {items : List Json} (flat : Flat items) (h : items.length ≠ 3 ∧ items.length ≠ 4) :
      Defective (.array items)
  | channel {items : List Json} {t : Json} (flat : Flat items) (ht : items[0]? = some t)
      (h : ¬ t.IsBit) : Defective (.array items)
  | value {items : List Json} {t : Json} (flat : Flat items) (ht : items[1]? = some t)
      (h : ¬ t.IsByte) : Defective (.array items)
  | start {items : List Json} {t : Json} (flat : Flat items) (ht : items[2]? = some t)
      (h : ¬ t.IsBit) : Defective (.array items)
  | assertion {items : List Json} {t : Json} (flat : Flat items) (ht : items[3]? = some t)
      (h : ¬ ∃ u w, t = .array [u, w] ∧ u.IsBit ∧ w.IsBit) : Defective (.array items)
  | item {items : List Json} {t : Json} (nested : ¬ Flat items) (ht : t ∈ items)
      (h : Defective t) : Defective (.array items)

theorem isList_array (items : List Json) : (Json.array items).IsList := ⟨items, rfl⟩

/-- The items of a group are lists. -/
theorem not_flat_listings (ss : List Stimulus) : ¬ Flat (ss.map fun s => s.listing.json) := by
  rintro ⟨t, ht, hlist⟩
  obtain ⟨s, -, rfl⟩ := List.mem_map.mp ht
  exact hlist s.exists_json_listing

/-- The fields of a record are no lists, but for its assertion. -/
theorem flat_fieldTrees (channel value start : UInt8) (extra : Option (UInt8 × UInt8)) :
    Flat (fieldTrees channel value start extra) := by
  refine ⟨.int channel.toNat, List.mem_cons_self, ?_⟩
  rintro ⟨items, h⟩
  cases h

theorem isByte_int (b : UInt8) : (Json.int b.toNat).IsByte := ⟨b.toNat, b.toNat_lt, rfl⟩

theorem isBit_flagByte (b : Bool) : (Json.int (flagByte b).toNat).IsBit := by
  cases b
  · exact Or.inl rfl
  · exact Or.inr rfl

theorem isBit_channel {channel : UInt8} (h : channel = dataChannel ∨ channel = resetChannel) :
    (Json.int channel.toNat).IsBit := by
  rcases h with rfl | rfl
  · exact Or.inl rfl
  · exact Or.inr rfl

/-- A listing that is flat is that of a record. -/
theorem eq_record_of_flat {items : List Json} {s : Stimulus} (flat : Flat items)
    (h : Json.array items = s.listing.json) :
    ∃ r, s = .record r ∧
      items = fieldTrees r.channel r.value (flagByte r.start) (r.extra.map Assertion.flags) := by
  cases s with
  | record r => exact ⟨r, rfl, Json.array.inj (h.trans r.json_listing)⟩
  | group ss =>
      rw [Json.array.inj (h.trans (Stimulus.json_listing_group ss))] at flat
      exact absurd flat (not_flat_listings ss)

/-- **No stimulus is read** from a tree with a defect. -/
theorem Defective.not_listing {t : Json} (h : t.Defective) (s : Stimulus) (hs : t = s.listing.json) :
    ¬ ∀ r ∈ s.flatten, r.channel = dataChannel ∨ r.channel = resetChannel := by
  intro hchannels
  induction h generalizing s with
  | notAList hlist => exact hlist (hs ▸ s.exists_json_listing)
  | arity flat hlength =>
      obtain ⟨r, rfl, rfl⟩ := eq_record_of_flat flat hs
      obtain ⟨channel, value, start, extra⟩ := r
      cases extra
      · exact hlength.1 rfl
      · exact hlength.2 rfl
  | channel flat ht hbit =>
      obtain ⟨r, rfl, rfl⟩ := eq_record_of_flat flat hs
      cases ht
      exact hbit (isBit_channel (hchannels r (List.mem_singleton.mpr rfl)))
  | value flat ht hbyte =>
      obtain ⟨r, rfl, rfl⟩ := eq_record_of_flat flat hs
      cases ht
      exact hbyte (isByte_int r.value)
  | start flat ht hbit =>
      obtain ⟨r, rfl, rfl⟩ := eq_record_of_flat flat hs
      cases ht
      exact hbit (isBit_flagByte r.start)
  | assertion flat ht hflags =>
      obtain ⟨r, rfl, rfl⟩ := eq_record_of_flat flat hs
      obtain ⟨channel, value, start, extra⟩ := r
      cases extra with
      | none => cases ht
      | some a =>
          cases ht
          exact hflags ⟨_, _, rfl, isBit_flagByte a.unlock, isBit_flagByte a.warning⟩
  | item nested ht _ ih =>
      cases s with
      | record r =>
          rw [Json.array.inj (hs.trans r.json_listing)] at nested
          exact nested (flat_fieldTrees _ _ _ _)
      | group ss =>
          rw [Json.array.inj (hs.trans (Stimulus.json_listing_group ss))] at ht
          obtain ⟨s, hs, rfl⟩ := List.mem_map.mp ht
          exact ih s rfl fun r hr => hchannels r (Stimulus.mem_flattenAll hs hr)

theorem IsByte.exists_eq {t : Json} (h : t.IsByte) : ∃ b : UInt8, t = .int b.toNat := by
  obtain ⟨n, hn, rfl⟩ := h
  exact ⟨UInt8.ofNat n, by rw [UInt8.toNat_ofNat_of_lt' hn]⟩

theorem IsBit.exists_eq_flag {t : Json} (h : t.IsBit) : ∃ b : Bool, t = .int (flagByte b).toNat := by
  rcases h with rfl | rfl
  · exact ⟨false, rfl⟩
  · exact ⟨true, rfl⟩

theorem IsBit.exists_eq_channel {t : Json} (h : t.IsBit) :
    ∃ channel : UInt8, t = .int channel.toNat ∧ (channel = dataChannel ∨ channel = resetChannel) := by
  rcases h with rfl | rfl
  · exact ⟨dataChannel, rfl, Or.inl rfl⟩
  · exact ⟨resetChannel, rfl, Or.inr rfl⟩

/-- **A flat list without a defect** is the listing of a record. -/
theorem exists_record_of_flat {items : List Json} (flat : Flat items)
    (h : ¬ (Json.array items).Defective) : ∃ r, Record.ofItems (items.map Content.ofJson) = .ok r := by
  have hlength : items.length = 3 ∨ items.length = 4 := by
    by_cases hthree : items.length = 3
    · exact Or.inl hthree
    · exact Or.inr (Decidable.not_not.mp fun hfour => h (.arity flat ⟨hthree, hfour⟩))
  have hchannel : ∀ t, items[0]? = some t → t.IsBit := fun t ht =>
    Classical.not_not.mp fun hbit => h (.channel flat ht hbit)
  have hvalue : ∀ t, items[1]? = some t → t.IsByte := fun t ht =>
    Classical.not_not.mp fun hbyte => h (.value flat ht hbyte)
  have hstart : ∀ t, items[2]? = some t → t.IsBit := fun t ht =>
    Classical.not_not.mp fun hbit => h (.start flat ht hbit)
  have hassertion : ∀ t, items[3]? = some t → ∃ u w, t = .array [u, w] ∧ u.IsBit ∧ w.IsBit :=
    fun t ht => Classical.not_not.mp fun hflags => h (.assertion flat ht hflags)
  obtain ⟨tc, tv, ts, rest, rfl⟩ : ∃ tc tv ts rest, items = tc :: tv :: ts :: rest := by
    match items, hlength with
    | tc :: tv :: ts :: rest, _ => exact ⟨tc, tv, ts, rest, rfl⟩
  obtain ⟨channel, rfl, hknown⟩ := (hchannel tc rfl).exists_eq_channel
  obtain ⟨value, rfl⟩ := (hvalue tv rfl).exists_eq
  obtain ⟨start, rfl⟩ := (hstart ts rfl).exists_eq_flag
  match rest, hlength with
  | [], _ => exact ⟨⟨channel, value, start, none⟩, Record.ofItems_ofJson_iff.mpr ⟨rfl, hknown⟩⟩
  | [te], _ =>
      obtain ⟨tu, tw, rfl, hu, hw⟩ := hassertion te rfl
      obtain ⟨u, rfl⟩ := hu.exists_eq_flag
      obtain ⟨w, rfl⟩ := hw.exists_eq_flag
      exact ⟨⟨channel, value, start, some ⟨u, w⟩⟩, Record.ofItems_ofJson_iff.mpr ⟨rfl, hknown⟩⟩
  | _ :: _ :: _, hlength => simp at hlength

theorem exists_stimuli {items : List Json}
    (h : ∀ t ∈ items, ∃ s, Stimulus.ofContent (Content.ofJson t) = some s) :
    ∃ ss, Stimulus.ofContents (items.map Content.ofJson) = some ss := by
  induction items with
  | nil => exact ⟨[], rfl⟩
  | cons t rest ih =>
      obtain ⟨s, hs⟩ := h t List.mem_cons_self
      obtain ⟨ss, hss⟩ := ih fun t ht => h t (List.mem_cons_of_mem _ ht)
      refine ⟨s :: ss, ?_⟩
      rw [List.map_cons, Stimulus.ofContents, hs, hss]
      rfl

/-- **A tree without a defect** is the listing of a stimulus. -/
theorem exists_stimulus {t : Json} (h : ¬ t.Defective) :
    ∃ s, Stimulus.ofContent (Content.ofJson t) = some s := by
  induction t using Json.listRec with
  | other t hother => exact absurd (Defective.notAList fun ⟨items, ht⟩ => hother items ht) h
  | array items ih =>
      rw [Content.ofJson, Content.ofJsonItems_eq, Stimulus.ofContent]
      by_cases flat : Flat items
      · obtain ⟨r, hr⟩ := exists_record_of_flat flat h
        rw [hr]
        exact ⟨.record r, rfl⟩
      · obtain ⟨ss, hss⟩ := exists_stimuli fun t ht => ih t ht fun hdefect => h (.item flat ht hdefect)
        split
        next r _ => exact ⟨.record r, rfl⟩
        next => exact ⟨.group ss, by rw [hss]; rfl⟩

end Json

/-! ## Corpora -/

/-- A tree in which no corpus is found is no list, or has a defect below the list at the top. -/
theorem Corpus.ofJson_eq_error_iff {t : Json} :
    (∃ fault, Corpus.ofJson t = .error fault) ↔
      ¬ t.IsList ∨ ∃ items, t = .array items ∧ ∃ item ∈ items, item.Defective := by
  constructor
  · rintro ⟨fault, h⟩
    by_cases hlist : t.IsList
    · obtain ⟨items, rfl⟩ := hlist
      refine Or.inr ⟨items, rfl, Classical.not_not.mp fun hsound => ?_⟩
      obtain ⟨entries, hentries⟩ := Json.exists_stimuli fun item hitem =>
        Json.exists_stimulus fun hdefect => hsound ⟨item, hitem, hdefect⟩
      rw [Corpus.ofJson, Content.ofJsonItems_eq, hentries] at h
      cases h
    · exact Or.inl hlist
  · intro h
    cases hread : Corpus.ofJson t with
    | error fault => exact ⟨fault, rfl⟩
    | ok c =>
        obtain ⟨rfl, hchannels⟩ := Corpus.ofJson_eq_ok_iff.mp hread
        rw [Corpus.json_listing] at h
        rcases h with hlist | ⟨items, hitems, item, hitem, hdefect⟩
        · exact absurd (Json.isList_array _) hlist
        · rw [← Json.array.inj hitems] at hitem
          obtain ⟨s, hs, rfl⟩ := List.mem_map.mp hitem
          exact absurd (fun r hr => hchannels r (Stimulus.mem_flattenAll hs hr))
            (hdefect.not_listing s rfl)

/-- **The JSON trees that hold a corpus** are the listings of corpora whose records are on the two
    channels. A tree is the listing of one corpus at most, and no listing is that of a record and of a
    group; a tree is refused exactly if it is no list or has a defect somewhere below. -/
theorem Corpus.ofJson_accepts_listings :
    (∀ (t : Json) (c : Corpus), Corpus.ofJson t = .ok c ↔
      t = c.listing.json ∧ ∀ r ∈ c.flatten, r.channel = dataChannel ∨ r.channel = resetChannel) ∧
    (Function.Injective fun c : Corpus => c.listing.json) ∧
    (∀ (r : Record) (ss : List Stimulus),
      (Stimulus.record r).listing.json ≠ (Stimulus.group ss).listing.json) ∧
    ∀ t : Json, (∃ fault, Corpus.ofJson t = .error fault) ↔
      ¬ t.IsList ∨ ∃ items, t = .array items ∧ ∃ item ∈ items, item.Defective :=
  ⟨fun _ _ => Corpus.ofJson_eq_ok_iff, Corpus.json_listing_injective,
    Stimulus.json_listing_record_ne_group, fun _ => Corpus.ofJson_eq_error_iff⟩

end StimulusBench
