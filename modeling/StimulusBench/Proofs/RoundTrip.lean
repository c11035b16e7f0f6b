import StimulusBench.Proofs.Document
import StimulusBench.Proofs.Yaml.Gathering

/-!
# `StimulusBench.Proofs.RoundTrip` — written corpora are read back

A corpus is written in lines or on one line in brackets, and both forms are YAML texts. As both are the
nest that is the listing of the corpus, reading them needs one argument: what is read depends on the
nest alone. A corpus is read item by item, a stimulus document as a whole; the corpus comes back in both
ways, and so no two corpora are written alike.

## Contents
- **Readable corpora.** `Corpus.Readable`: the channels and the depth that a reader admits.
- **From nests.** `Corpus.ofYaml_of_holds` and `Document.ofYaml_of_holds`, from any text that is the
  listing of a corpus.
- **Written corpora.** The document form and the printed form are read back.
-/

namespace StimulusBench

open Yaml (NodeDocument Mark)
open Yaml.NodeDocument (ReadsAs)

/-! ## Readable corpora -/

/-- **What a reader admits**: every record is on one of the two channels, and the lists of the written
    form, those of records and assertions included, lie no deeper in each other than is allowed. -/
structure Corpus.Readable (c : Corpus) : Prop where
  channels : ∀ r ∈ c.flatten, r.channel = dataChannel ∨ r.channel = resetChannel
  depth : c.listing.depth ≤ Yaml.maxDepth

variable {c : Corpus}

theorem Corpus.lt_of_mem_numbers {n : Nat} (h : n ∈ c.listing.numbers) : n < 1 <<< 64 := by
  rw [listing_eq, Listing.numbers, Listing.numbersOfItems_eq, List.flatMap_map] at h
  obtain ⟨s, -, hn⟩ := List.mem_flatMap.mp h
  exact Nat.lt_trans (Stimulus.lt_of_mem_numbers hn) (by decide)

/-! ## From nests -/

/-- **A stimulus is read back** from its listing, wherever it stands in a list. -/
theorem stimulus_reads (d : NodeDocument) (mark : Mark) (h : c.Readable) {s : Stimulus}
    (hs : s ∈ c.entries) : ReadsAs (d.stimulus mark) s.listing s := by
  have hmem : s.listing ∈ c.entries.map Stimulus.listing := List.mem_map_of_mem hs
  -- the list of the corpus takes one level, which the reader of a stimulus does not count
  have hdepth : s.listing.depth ≤ Yaml.maxDepth - 1 := by
    have hlist := h.depth
    rw [Corpus.listing_eq, Listing.depth] at hlist
    exact Nat.le_sub_one_of_lt (Nat.lt_of_lt_of_le
      (Nat.lt_succ_of_le (Listing.depth_le_depthItems hmem)) hlist)
  have hnumbers : ∀ n ∈ s.listing.numbers, n < 1 <<< 64 := fun n hn =>
    Nat.lt_trans (Stimulus.lt_of_mem_numbers hn) (by decide)
  have hcontent : Stimulus.ofContent s.listing.content = some s :=
    Stimulus.ofContent_listing fun r hr => h.channels r (Stimulus.mem_flattenAll hs hr)
  intro path nodes rest jumps hnodes
  have hread := (NodeDocument.contentOf_reads d hdepth hnumbers).throughAlias d path nodes rest jumps
    hnodes
  rw [NodeDocument.stimulus, hread]
  dsimp only [bind, Except.bind]
  rw [hcontent]
  rfl

theorem stimuli_of_holds {d : NodeDocument} (h : c.Readable) (hholds : d.Holds c.listing) :
    d.stimuli = .ok c.entries := by
  rw [Corpus.listing_eq] at hholds
  obtain ⟨mark, nodes, hnodes, hgather⟩ := hholds.gatherItems
  rw [NodeDocument.stimuli, hnodes]
  dsimp only
  rw [hgather (d.stimulus mark) id fun s hs => stimulus_reads d mark h hs, List.map_id]
  rfl

/-- **A corpus is read back** from any text that is its listing. -/
theorem Corpus.ofYaml_of_holds {text : String} (h : c.Readable)
    (hholds : (NodeDocument.ofText text).Holds c.listing) : Corpus.ofYaml text = .ok c := by
  unfold Corpus.ofYaml
  dsimp only
  rw [stimuli_of_holds h hholds]
  show ((NodeDocument.ofText text).finish >>= _) = _
  rw [hholds.finish]
  rfl

/-- **As a stimulus document**, such a text is the corpus too. -/
theorem Document.ofYaml_of_holds {text : String} (h : c.Readable)
    (hholds : (NodeDocument.ofText text).Holds c.listing) :
    Document.ofYaml text = .ok (.corpus c) := by
  unfold Document.ofYaml
  dsimp only
  rw [hholds.content h.depth fun n hn => Corpus.lt_of_mem_numbers hn]
  show ((NodeDocument.ofText text).finish >>= _) = _
  rw [hholds.finish]
  show (Document.ofContent c.listing.content).mapError _ = _
  rw [Document.ofContent_listing h.channels]
  rfl

/-! ## Written corpora -/

theorem Corpus.holds_yaml (c : Corpus) : (NodeDocument.ofText c.yaml).Holds c.listing :=
  NodeDocument.holds_block c.listing

theorem Corpus.holds_text (c : Corpus) : (NodeDocument.ofText c.text).Holds c.listing :=
  NodeDocument.holds_bracketed (Stimulus.listingAll c.entries)

/-- A corpus with records and groups at the top, an empty group inside another, and a record with an
    assertion, which looks like a group behind three numbers. -/
def Corpus.mixed : Corpus where
  entries :=
    [.record (Record.data 165 true),
      .group [.group [], .group [.record (Record.reset.tagged .warned)]],
      .group []]

/-- **The document form is read back**, as a corpus and as a stimulus document with the records of the
    corpus. -/
theorem Corpus.ofYaml_yaml (h : c.Readable) :
    Corpus.ofYaml c.yaml = .ok c ∧ Document.ofYaml c.yaml = .ok (.corpus c) ∧
      (Document.ofYaml c.yaml).map Document.records = .ok c.flatten := by
  have hdocument := Document.ofYaml_of_holds h c.holds_yaml
  refine ⟨Corpus.ofYaml_of_holds h c.holds_yaml, hdocument, ?_⟩
  rw [hdocument]
  rfl

theorem Corpus.ofYaml_yaml_mixed :
    Corpus.mixed.Readable ∧
      Corpus.mixed.yaml = "- - 0\n  - 165\n  - 1\n" ++
        "- - []\n  - - - 1\n      - 0\n      - 0\n      - - 0\n        - 1\n" ++ "- []\n" ∧
      Corpus.ofYaml Corpus.mixed.yaml = .ok Corpus.mixed ∧
      Document.ofYaml Corpus.mixed.yaml = .ok (.corpus Corpus.mixed) ∧
      (Document.ofYaml Corpus.mixed.yaml).map Document.records =
        .ok [Record.data 165 true, Record.reset.tagged .warned] := by
  have h : Corpus.mixed.Readable := ⟨by decide, by decide⟩
  exact ⟨h, by decide, Corpus.ofYaml_yaml h⟩

/-- **The printed form is read back** as well, and so two corpora that are printed alike are the same. -/
theorem Corpus.ofYaml_text (h : c.Readable) :
    Corpus.ofYaml c.text = .ok c ∧ Corpus.ofYaml c.text = Corpus.ofYaml c.yaml ∧
      ∀ c' : Corpus, c'.Readable → c'.text = c.text → c' = c := by
  have htext := Corpus.ofYaml_of_holds h c.holds_text
  refine ⟨htext, ?_, ?_⟩
  · rw [htext, Corpus.ofYaml_of_holds h c.holds_yaml]
  · intro c' h' hsame
    have htext' := Corpus.ofYaml_of_holds h' c'.holds_text
    rw [hsame, htext] at htext'
    exact (Except.ok.inj htext').symm

theorem Corpus.ofYaml_text_mixed :
    Corpus.mixed.Readable ∧
      Corpus.mixed.text = "[[0, 165, 1], [[], [[1, 0, 0, [0, 1]]]], []]" ∧
      Corpus.ofYaml Corpus.mixed.text = .ok Corpus.mixed ∧
      Corpus.ofYaml Corpus.mixed.text = Corpus.ofYaml Corpus.mixed.yaml ∧
      ∀ c' : Corpus, c'.Readable → c'.text = Corpus.mixed.text → c' = Corpus.mixed := by
  have h : Corpus.mixed.Readable := ⟨by decide, by decide⟩
  exact ⟨h, by decide, Corpus.ofYaml_text h⟩

end StimulusBench
