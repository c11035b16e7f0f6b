import StimulusBench.FileTree
import StimulusBench.Log.Event
import StimulusBench.Testbench

/-!
# `StimulusBench.Sink` — where a corpus goes

A sink takes a corpus and keeps it: as a document in a file, as a testbench in a file, or in memory.
A file sink writes its file anew, whatever it held before.

## Contents
- **File sinks.** `Sink`, `Sink.contents`, `Sink.persist`.
- **Chains.** `persistAll` stops at the first sink that fails.
- **Memory.** `MemorySink`.
-/

namespace StimulusBench

/-! ## File sinks -/

/-- What a file sink writes. -/
inductive SinkForm
  | yaml
  | testbench (bench : Testbench)
  deriving Repr, DecidableEq

/-- A sink that writes a file. -/
structure Sink where
  path : String
  form : SinkForm
  deriving Repr, DecidableEq

namespace Sink

/-- What the file holds afterwards. -/
def contents (sink : Sink) (corpus : Corpus) : String :=
  match sink.form with
  | .yaml => corpus.yaml
  | .testbench bench => bench.render corpus.flatten

/-- Writes a corpus, with the missing directories above the file. -/
def persist [WorkingDirectory] (sink : Sink) (corpus : Corpus) (files : FileTree) :
    FileTree × Except OsFault Unit :=
  files.write sink.path (sink.contents corpus)

/-- The event of a corpus written. -/
def event (sink : Sink) (corpus : Corpus) : LogEvent :=
  match sink.form with
  | .yaml =>
    ⟨.info, "seqvec_core::sink", "wrote corpus",
      [("path", .text sink.path), ("bytes", .number corpus.yaml.utf8ByteSize)]⟩
  | .testbench _ =>
    ⟨.info, "seqvec_core::sink", "wrote testbench",
      [("path", .text sink.path), ("records", .number corpus.flatten.length)]⟩

end Sink

/-! ## Chains -/

/-- Writes a corpus to several sinks in order, up to the first one that fails. -/
def persistAll [WorkingDirectory] (corpus : Corpus) : List Sink → FileTree → FileTree × Except OsFault Unit
  | [], files => (files, .ok ())
  | sink :: rest, files =>
    match sink.persist corpus files with
    | (files, .ok ()) => persistAll corpus rest files
    | (files, .error fault) => (files, .error fault)

/-! ## Memory -/

/-- A sink that keeps the last corpus and counts them. -/
structure MemorySink where
  last : Option Corpus
  persisted : Nat
  deriving Repr

namespace MemorySink

/-- Nothing kept so far. -/
def empty : MemorySink := ⟨none, 0⟩

/-- Keeps a corpus in place of the last one. -/
def persist (sink : MemorySink) (corpus : Corpus) : MemorySink :=
  ⟨some corpus, sink.persisted + 1⟩

end MemorySink

end StimulusBench
