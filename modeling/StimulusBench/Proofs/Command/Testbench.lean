import StimulusBench.Proofs.Assembly
import StimulusBench.Proofs.Command.Action
import StimulusBench.Proofs.Leaves
import StimulusBench.Proofs.RoundTrip

/-!
# `StimulusBench.Proofs.Command.Testbench` — the ways to a testbench

A testbench can be had of a corpus itself, which a sink renders, or of its document, which a run reads
back and renders to the output stream, or regroups and hands to a sink. The document is read back as the
corpus, and a testbench depends on the leaves of a corpus alone, which no regrouping moves. So it is the
same text in every way, and the sinks are told apart neither by what they write nor by what they log.

## Contents
- **Sinks.** A testbench sink on corpora with the same leaves.
- **Runs.** `run_readDocument`; what a run that renders does with a document.
- **The same testbench.** `testbench_routes_agree`.
-/

namespace StimulusBench

variable {c c' : Corpus} {bench : Testbench} {path : String}

/-! ## Sinks -/

/-- **A testbench sink** writes the same of corpora with the same leaves. -/
theorem Sink.persist_testbench_of_flatten [WorkingDirectory] (hleaves : c.flatten = c'.flatten)
    (files : FileTree) :
    Sink.persist ⟨path, .testbench bench⟩ c files = Sink.persist ⟨path, .testbench bench⟩ c' files := by
  show files.write path (bench.render c.flatten) = files.write path (bench.render c'.flatten)
  rw [hleaves]

/-- It logs the same of them, too. -/
theorem Sink.event_testbench_of_flatten (hleaves : c.flatten = c'.flatten) :
    Sink.event ⟨path, .testbench bench⟩ c = Sink.event ⟨path, .testbench bench⟩ c' := by
  unfold Sink.event
  dsimp only
  rw [hleaves]

/-- Records that are put into one group are its leaves. -/
theorem Corpus.flatten_ofRecords (records : List Record) :
    (Corpus.mk [.ofRecords records]).flatten = records := by
  rw [Corpus.flatten, Stimulus.flattenAll, Stimulus.flatten_ofRecords, Stimulus.flattenAll,
    List.append_nil]

/-! ## Runs -/

namespace Command

open Command.Action

section

variable [WorkingDirectory] {s : Session} {input : String}

theorem Action.persist_testbench_of_flatten (hleaves : c.flatten = c'.flatten) :
    persist c ⟨path, .testbench bench⟩ = persist c' ⟨path, .testbench bench⟩ := by
  unfold persist
  simp only [Sink.persist_testbench_of_flatten hleaves, Sink.event_testbench_of_flatten hleaves]

/-- A document that is there and well-formed is read. -/
theorem Action.run_readDocument {text : String} {document : Document}
    (hread : s.files.read input = .ok text) (hdocument : Document.ofYaml text = .ok document) :
    (readDocument input).run s = (.ok document, s) := by
  rw [readDocument, run_bind, run_get]
  dsimp only
  rw [hread]
  dsimp only
  rw [hdocument]
  rfl

/-- **A run that renders** a document prints the testbench of its records, or hands it to a sink with the
    records in one group. -/
theorem Action.run_renderTestbench {text : String} {document : Document}
    (hread : s.files.read input = .ok text) (hdocument : Document.ofYaml text = .ok document)
    (bench : Testbench) :
    (renderTestbench input none bench).run s = (.ok .success, s.print (bench.render document.records)) ∧
      ∀ path, (renderTestbench input (some path) bench).run s =
        (do persist ⟨[.ofRecords document.records]⟩ ⟨path, .testbench bench⟩
            return .success : Action ExitStatus).run s := by
  constructor
  · rw [renderTestbench, run_bind, run_readDocument hread hdocument]
    rfl
  · intro path
    rw [renderTestbench, run_bind, run_readDocument hread hdocument]

/-! ## The same testbench -/

/-- **Every way to a testbench gives the same text**, and the way its records are grouped does not matter.
    The testbench of a corpus is that of the records in its document; a sink writes it, of the corpus as
    well as of the records in one group; a run that is given the document prints it, or does what that
    sink does with the corpus. Two trees are flattened alike exactly if they have the same leaves from left
    to right, and then they have the same testbenches and the same replays from every state. -/
theorem testbench_routes_agree {c : Corpus} (h : c.Readable) (bench : Testbench) :
    let text := bench.render c.flatten
    (∃ document, Document.ofYaml c.yaml = .ok document ∧ bench.render document.records = text ∧
      ∀ path files,
        Sink.persist ⟨path, .testbench bench⟩ c files = files.write path text ∧
        Sink.persist ⟨path, .testbench bench⟩ ⟨[.ofRecords document.records]⟩ files =
          files.write path text ∧
        ∀ files', files.write path text = (files', .ok ()) → files'.read path = .ok text) ∧
    (∀ surroundings config s input, s.files.read input = .ok c.yaml →
      (perform surroundings config (.testbench input none bench)).run s = (.ok .success, s.print text) ∧
      ∀ path, (perform surroundings config (.testbench input (some path) bench)).run s =
        (do persist c ⟨path, .testbench bench⟩
            return .success : Action ExitStatus).run s) ∧
    ∀ t t' : Stimulus, (t.SameLeaves t' ↔ t.flatten = t'.flatten) ∧
      (t.SameLeaves t' → (∀ bench : Testbench, bench.render t.flatten = bench.render t'.flatten) ∧
        ∀ (refs : ReferencePair) (m : Recognizer), m.replay refs t.flatten = m.replay refs t'.flatten) := by
  intro text
  have hdocument : Document.ofYaml c.yaml = .ok (.corpus c) := Document.ofYaml_of_holds h c.holds_yaml
  have hrecords : (Document.corpus c).records = c.flatten := rfl
  have hregrouped : (Corpus.mk [.ofRecords (Document.corpus c).records]).flatten = c.flatten := by
    rw [Corpus.flatten_ofRecords, hrecords]
  refine ⟨⟨_, hdocument, by rw [hrecords], fun path files => ⟨rfl, ?_, fun files' hwrite => ?_⟩⟩, ?_, ?_⟩
  · rw [Sink.persist_testbench_of_flatten hregrouped]
    rfl
  · exact (FileTree.write_eq_ok hwrite).2
  · intro surroundings config s input hread
    obtain ⟨hprinted, hwritten⟩ := run_renderTestbench hread hdocument bench
    refine ⟨hprinted, fun path => (hwritten path).trans ?_⟩
    rw [persist_testbench_of_flatten hregrouped]
  · intro t t'
    refine ⟨Stimulus.sameLeaves_iff, fun hsame => ?_⟩
    rw [Stimulus.sameLeaves_iff.mp hsame]
    exact ⟨fun _ => rfl, fun _ _ => rfl⟩

end

/-- A corpus with groups in it, rendered to the output stream and to a file. -/
theorem testbench_routes_agree_mixed :
    let files := FileTree.empty.set (Place.working.child "in.yaml") (.file Corpus.mixed.yaml)
    let text := Testbench.default.render [Record.data 165 true, Record.reset.tagged .warned]
    Corpus.mixed.Readable ∧
      (perform ⟨none, none, .replicate 8 0⟩ .default (.testbench "in.yaml" none .default)).run
          (.start files "now") =
        (.ok .success, (Session.start files "now").print text) ∧
      ∃ written, Sink.persist ⟨"out.vhd", .testbench .default⟩ Corpus.mixed files = (written, .ok ()) ∧
        written.read "out.vhd" = .ok text ∧
        ∀ m : Recognizer, m.replay References.default (Stimulus.group Corpus.mixed.entries).flatten =
          m.replay References.default
            (Stimulus.ofRecords [Record.data 165 true, Record.reset.tagged .warned]).flatten := by
  intro files text
  have h : Corpus.mixed.Readable := ⟨by decide, by decide⟩
  obtain ⟨⟨document, -, -, hsinks⟩, hruns, hleaves⟩ := testbench_routes_agree h .default
  have hread : files.read "in.yaml" = .ok Corpus.mixed.yaml := rfl
  have hwrite : (files.write "out.vhd" text).2 = .ok () := rfl
  obtain ⟨hpersist, -, hwritten⟩ := hsinks "out.vhd" files
  refine ⟨h, (hruns _ _ _ _ hread).1, _, hpersist.trans (Prod.ext rfl hwrite),
    hwritten _ (Prod.ext rfl hwrite), ?_⟩
  exact ((hleaves _ _).2 (Stimulus.sameLeaves_iff.mpr rfl)).2 _

end Command

end StimulusBench
