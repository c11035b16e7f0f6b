import StimulusBench.Proofs.Assembly
import StimulusBench.Proofs.RoundTrip

/-!
# `StimulusBench.Proofs.Generated` — generated corpora can be read

A reader admits two channels and a limited depth. The records of a scenario are data writes as they are
encoded, with other start markers or assertions at most, and the reset pulse; the groups of a generated
corpus lie in each other at two places only. So whatever was drawn, it can be read back.

## Contents
- **Depth.** The depth of records and groups.
- **Channels.** `Scenario.channel_of_mem`.
- **Generated corpora.** `Assembly.readable`.
-/

namespace StimulusBench

/-! ## Depth -/

theorem Listing.depthItems_le {items : List Listing} {n : Nat} (h : ∀ item ∈ items, item.depth ≤ n) :
    depthItems items ≤ n := by
  induction items with
  | nil => exact Nat.zero_le n
  | cons item rest ih =>
      rw [depthItems]
      exact Nat.max_le.mpr ⟨h item List.mem_cons_self, ih fun x hx => h x (List.mem_cons_of_mem _ hx)⟩

theorem Record.depth_listing_le (r : Record) : r.listing.depth ≤ 2 := by
  obtain ⟨channel, value, start, extra⟩ := r
  cases extra with
  | none => exact (by decide : 1 ≤ 2)
  | some a => exact (by decide : 2 ≤ 2)

/-- A group is one list deeper than what it holds. -/
theorem Stimulus.depth_group_le {children : List Stimulus} {n : Nat}
    (h : ∀ s ∈ children, s.listing.depth ≤ n) : (group children).listing.depth ≤ n + 1 := by
  rw [listing, listingAll_eq, Listing.depth]
  refine Nat.succ_le_succ (Listing.depthItems_le ?_)
  exact List.forall_mem_map.mpr h

theorem Stimulus.depth_ofRecords_le (records : List Record) :
    (ofRecords records).listing.depth ≤ 3 := by
  refine depth_group_le (List.forall_mem_map.mpr fun r _ => ?_)
  exact r.depth_listing_le

/-! ## Channels -/

theorem Record.channel_of_isReset_eq_false {r : Record} (h : r.isReset = false) :
    r.channel = dataChannel := by
  simpa [Record.isReset] using h

/-- **The records of a scenario** are on the two channels. -/
theorem Scenario.channel_of_mem {refs : References} {scenario : Scenario} {r : Record}
    (h : r ∈ scenario.records refs) : r.channel = dataChannel ∨ r.channel = resetChannel := by
  have hfiller : ∀ {filler : Run} {r : Record}, r ∈ filler.rebatched → r.channel = dataChannel :=
    fun hr => Record.channel_of_isReset_eq_false (isReset_of_mem_rebatched hr)
  have htagged : ∀ {filler : Run} {a : Assertion}, r ∈ filler.rebatchedTagged a →
      r.channel = dataChannel := by
    intro filler a hr
    obtain ⟨r', hr', rfl⟩ := List.mem_map.mp hr
    have huntagged : r'.channel = dataChannel := hfiller hr'
    exact huntagged
  cases scenario with
  | lockout filler =>
      rcases List.mem_append.mp h with hr | hr
      · have hencoded := mem_encode_of_mem_lockoutAttempts hr
        exact .inl (Record.channel_of_isReset_eq_false (isReset_of_mem_encode hencoded))
      · exact .inl (htagged hr)
  | misplacedStart index filler =>
      rcases List.mem_append.mp h with hr | hr
      · rcases List.mem_append.mp hr with hr | hr
        · obtain ⟨r', hr', start, rfl⟩ := exists_of_mem_overrideStart hr
          have hunmarked : r'.channel = dataChannel :=
            Record.channel_of_isReset_eq_false (isReset_of_mem_encode hr')
          exact .inl hunmarked
        · exact .inl (htagged hr)
      · exact .inl (hfiller hr)
  | reset => exact .inr (congrArg Record.channel (List.mem_singleton.mp h))

/-! ## Generated corpora -/

/-- **What is generated can be read.** -/
theorem Assembly.readable (refs : References) (assembly : Assembly) : (assembly.corpus refs).Readable where
  channels := by
    intro r hr
    rw [flatten_corpus] at hr
    simp only [List.mem_append, List.mem_singleton] at hr
    rcases hr with ((hr | rfl) | hr) | rfl
    · exact Scenario.channel_of_mem hr
    · exact .inr rfl
    · exact Scenario.channel_of_mem hr
    · exact .inr rfl
  depth := by
    rw [Corpus.listing_eq, Listing.depth]
    have hentries : ∀ s ∈ (assembly.corpus refs).entries, s.listing.depth ≤ 4 := by
      have hlockout := Stimulus.depth_ofRecords_le (assembly.lockout.records refs)
      have hmisplaced := Stimulus.depth_ofRecords_le (assembly.misplacedStart.records refs)
      have hreset := Record.reset.depth_listing_le
      simp only [Assembly.corpus, List.forall_mem_cons]
      refine ⟨by omega, Nat.le_trans hreset (by decide), ?_, Nat.le_trans hreset (by decide),
        fun _ h => absurd h List.not_mem_nil⟩
      exact Stimulus.depth_group_le fun s hs => List.mem_singleton.mp hs ▸ hmisplaced
    have hitems := Listing.depthItems_le (List.forall_mem_map.mpr hentries)
    unfold Yaml.maxDepth
    omega

end StimulusBench
