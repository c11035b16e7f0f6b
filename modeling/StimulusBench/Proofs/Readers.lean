import StimulusBench.Proofs.Yaml.Root

/-!
# `StimulusBench.Proofs.Readers` — a text as a corpus and as a stimulus document

Two readers take a corpus from a text: one reads the items of the list that the text is, the other reads
the text as a whole and then looks at its content. Item by item they do the same, and so they agree on
lists. They part where the root is no list, or one with a local tag: the first reader takes a blank root
for an empty list and asks no root for its tag.

## Contents
- **Stimulus documents.** `Document.ofContent_eq_corpus_iff`: which content is a corpus.
- **Readers.** `ofYaml_agree_on_list`; the readers agree on lists and differ on two kinds of root.
-/

namespace StimulusBench

open Yaml (NodeDocument)

/-! ## Stimulus documents -/

theorem Corpus.ofContent_eq_some_iff {content : Content} {c : Corpus} :
    Corpus.ofContent content = some c ↔
      ∃ items, content = .list items ∧ Stimulus.ofContents items = some c.entries := by
  constructor
  · intro h
    cases content with
    | list items =>
        obtain ⟨ss, hitems, rfl⟩ := Option.map_eq_some_iff.mp h
        exact ⟨items, rfl, hitems⟩
    | _ => cases h
  · rintro ⟨items, rfl, hitems⟩
    exact Option.map_eq_some_iff.mpr ⟨_, hitems, rfl⟩

/-- Stimuli under a key are no corpus. -/
theorem Document.keyed?_ne_corpus (entries : List (Content × Content)) (c : Corpus) :
    keyed? entries ≠ some (.corpus c) := by
  intro h
  unfold keyed? at h
  split at h
  next items hvalues =>
    obtain ⟨ss, -, hdocument⟩ := Option.map_eq_some_iff.mp h
    cases hdocument
  next => cases h

/-- **A stimulus document is a corpus** if its content is one. -/
theorem Document.ofContent_eq_corpus_iff {content : Content} {c : Corpus} :
    Document.ofContent content = .ok (.corpus c) ↔ Corpus.ofContent content = some c := by
  unfold Document.ofContent
  cases hcorpus : Corpus.ofContent content with
  | some found => simp
  | none =>
      refine ⟨fun h => ?_, fun h => nomatch h⟩
      dsimp only at h
      cases content with
      | mapping entries =>
          dsimp only at h
          cases hkeyed : keyed? entries with
          | none =>
              rw [hkeyed] at h
              cases h
          | some document =>
              rw [hkeyed] at h
              cases h
              exact absurd hkeyed (keyed?_ne_corpus entries c)
      | _ => cases h

/-- Content without parts is no stimulus document. -/
theorem Document.ofContent_of_isScalar {content : Content} (h : content.isScalar = true) :
    Document.ofContent content = .error (.shape .document) := by
  cases content <;> first | rfl | cases h

/-! ## Readers -/

theorem Corpus.ofYaml_eq_ok_iff {text : String} {c : Corpus} :
    Corpus.ofYaml text = .ok c ↔
      (NodeDocument.ofText text).stimuli = .ok c.entries ∧ (NodeDocument.ofText text).finish = .ok () := by
  unfold Corpus.ofYaml
  dsimp only
  rw [bind_eq_ok_iff]
  constructor
  · rintro ⟨entries, hentries, h⟩
    obtain ⟨_, hfinish, h⟩ := bind_eq_ok_iff.mp h
    cases h
    exact ⟨hentries, hfinish⟩
  · rintro ⟨hentries, hfinish⟩
    exact ⟨c.entries, hentries, bind_eq_ok_iff.mpr ⟨(), hfinish, rfl⟩⟩

theorem Document.ofYaml_eq_ok_iff {text : String} {document : Document} :
    Document.ofYaml text = .ok document ↔
      ∃ content, (NodeDocument.ofText text).content = .ok content ∧
        (NodeDocument.ofText text).finish = .ok () ∧ Document.ofContent content = .ok document := by
  unfold Document.ofYaml
  dsimp only
  rw [bind_eq_ok_iff]
  constructor
  · rintro ⟨content, hcontent, h⟩
    obtain ⟨_, hfinish, h⟩ := bind_eq_ok_iff.mp h
    exact ⟨content, hcontent, hfinish, mapError_eq_ok_iff.mp h⟩
  · rintro ⟨content, hcontent, hfinish, h⟩
    exact ⟨content, hcontent, bind_eq_ok_iff.mpr ⟨(), hfinish, mapError_eq_ok_iff.mpr h⟩⟩

/-- **On lists without a local tag** the readers agree. -/
theorem ofYaml_agree_on_list {text : String} (hroot : (NodeDocument.ofText text).RootIs (·.isList))
    {c : Corpus} : Corpus.ofYaml text = .ok c ↔ Document.ofYaml text = .ok (.corpus c) := by
  obtain ⟨tag, mark, rest, hnodes, htag⟩ := hroot.exists_list
  rw [Corpus.ofYaml_eq_ok_iff, Document.ofYaml_eq_ok_iff, NodeDocument.stimuli_list_iff_content hnodes htag]
  constructor
  · rintro ⟨⟨items, hcontent, hitems⟩, hfinish⟩
    exact ⟨.list items, hcontent, hfinish,
      Document.ofContent_eq_corpus_iff.mpr (Corpus.ofContent_eq_some_iff.mpr ⟨items, rfl, hitems⟩)⟩
  · rintro ⟨content, hcontent, hfinish, hcorpus⟩
    obtain ⟨items, rfl, hitems⟩ :=
      Corpus.ofContent_eq_some_iff.mp (Document.ofContent_eq_corpus_iff.mp hcorpus)
    exact ⟨⟨items, hcontent, hitems⟩, hfinish⟩

/-- **A corpus as a stimulus document** stands in a list without a local tag. -/
theorem isList_of_document_corpus {text : String} {c : Corpus}
    (h : Document.ofYaml text = .ok (.corpus c)) :
    (NodeDocument.ofText text).RootIs (·.isList) := by
  obtain ⟨content, hcontent, -, hcorpus⟩ := Document.ofYaml_eq_ok_iff.mp h
  obtain ⟨items, rfl, -⟩ := Corpus.ofContent_eq_some_iff.mp (Document.ofContent_eq_corpus_iff.mp hcorpus)
  obtain ⟨tag, mark, rest, hnodes⟩ :=
    NodeDocument.exists_list_of_content (NodeDocument.nodes_ofText_ne_alias text) hcontent
  obtain ⟨htag, -⟩ := (NodeDocument.content_list_eq_ok_iff hnodes).mp hcontent
  exact ⟨_, mark, rest, hnodes, htag⟩

/-- **The readers agree but for two kinds of root.** What is a corpus as a stimulus document is that
    corpus to the other reader too. The other way round, a text is refused as a stimulus document if its
    root is blank, which the other reader takes for no entries, or a list with a local tag, which the
    other reader does not look at; every other corpus is a stimulus document. -/
theorem readers_agree_on_lists (text : String) (c : Corpus) :
    (Document.ofYaml text = .ok (.corpus c) ↔
        Corpus.ofYaml text = .ok c ∧ (NodeDocument.ofText text).RootIs (·.isList)) ∧
      (Corpus.ofYaml text = .ok c →
        (NodeDocument.ofText text).RootIs (·.isList) ∨
          (∀ document, Document.ofYaml text ≠ .ok document) ∧
            ((NodeDocument.ofText text).RootIs (·.isBlank) ∧ c.entries = [] ∨
              (NodeDocument.ofText text).RootIs (·.isLocalList))) := by
  refine ⟨⟨fun h => ?_, fun ⟨h, hroot⟩ => (ofYaml_agree_on_list hroot).mp h⟩, fun h => ?_⟩
  · have hroot := isList_of_document_corpus h
    exact ⟨(ofYaml_agree_on_list hroot).mpr h, hroot⟩
  · obtain ⟨hstimuli, -⟩ := Corpus.ofYaml_eq_ok_iff.mp h
    rcases NodeDocument.list_or_blank_of_stimuli hstimuli with
      ⟨tag, mark, rest, hnodes⟩ | ⟨hblank, hentries⟩
    · cases htag : (Yaml.NodeEvent.listStart tag).isList with
      | true => exact .inl ⟨_, mark, rest, hnodes, htag⟩
      | false =>
          refine .inr ⟨fun document hdocument => ?_, .inr ⟨_, mark, rest, hnodes, ?_⟩⟩
          · obtain ⟨content, hcontent, -, -⟩ := Document.ofYaml_eq_ok_iff.mp hdocument
            obtain ⟨hlist, -⟩ := (NodeDocument.content_list_eq_ok_iff hnodes).mp hcontent
            rw [htag] at hlist
            cases hlist
          · exact Yaml.NodeEvent.isLocalList_of_not_isList htag
    · refine .inr ⟨fun document hdocument => ?_, .inl ⟨hblank, hentries⟩⟩
      obtain ⟨content, hcontent, -, hshape⟩ := Document.ofYaml_eq_ok_iff.mp hdocument
      rw [Document.ofContent_of_isScalar (NodeDocument.content_blank hblank hcontent)] at hshape
      cases hshape

/-- A corpus without entries is known by their number. -/
theorem Corpus.ofYaml_eq_ok_nil {text : String}
    (h : (Corpus.ofYaml text).toOption.map (·.entries.length) = some 0) :
    Corpus.ofYaml text = .ok ⟨[]⟩ := by
  cases hread : Corpus.ofYaml text with
  | error fault =>
      rw [hread] at h
      cases h
  | ok c =>
      rw [hread] at h
      have hentries : c.entries = [] := List.length_eq_zero_iff.mp (Option.some.inj h)
      exact congrArg (fun entries => Except.ok (Corpus.mk entries)) hentries

theorem Document.ofYaml_ne_ok {text : String} (h : (Document.ofYaml text).toOption.isNone)
    (document : Document) : Document.ofYaml text ≠ .ok document := by
  intro hread
  rw [hread] at h
  cases h

/-- **Where the readers differ**: a text without a document and a list with a local tag are a corpus
    without entries, and no stimulus document. -/
theorem readers_differ_on_blank_and_tagged :
    (Corpus.ofYaml "" = .ok ⟨[]⟩ ∧ ∀ document, Document.ofYaml "" ≠ .ok document) ∧
      Corpus.ofYaml "!x []" = .ok ⟨[]⟩ ∧ ∀ document, Document.ofYaml "!x []" ≠ .ok document := by
  refine ⟨⟨Corpus.ofYaml_eq_ok_nil ?_, Document.ofYaml_ne_ok ?_⟩, Corpus.ofYaml_eq_ok_nil ?_,
    Document.ofYaml_ne_ok ?_⟩ <;> decide +kernel

end StimulusBench
