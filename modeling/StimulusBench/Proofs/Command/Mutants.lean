import StimulusBench.Proofs.Command.Check
import StimulusBench.Proofs.Generated
import StimulusBench.Proofs.Recognizer.Sequence
import StimulusBench.Proofs.Sequence.Drawn

/-!
# `StimulusBench.Proofs.Command.Mutants` — mutated sequences, printed in two forms

A run that prints mutated sequences draws one, prints it on a line of its own, and goes on with the stream
that is left, which never ends. What is printed of a sequence does not reach the stream, so the same seed
gives the same sequences in either form, and a longer run begins with the lines of a shorter one. Each
line is a nested list, from which the numbers of a sequence, or its writes, are read back.

## Contents
- **Lines.** Both forms of a sequence as nested lists: `TellsSame`.
- **Runs.** `run_printMutants` and `run_mutate`; both forms of a run in `runCommand_mutate_lines`.
-/

namespace StimulusBench

open Yaml (NodeDocument)
open Command.Action (mutantText)

/-! ## Lines -/

/-- Texts of nests in brackets are the text of the list of them. -/
theorem bracketedTexts_map_ofList (items : List Listing) :
    bracketedTexts (items.map fun l => String.ofList l.bracketed) =
      String.ofList (Listing.list items).bracketed := by
  have hitems : (String.intercalate ", " (items.map fun l => String.ofList l.bracketed)).toList =
      Listing.bracketedItems items := by
    induction items with
    | nil => rfl
    | cons item rest ih =>
        cases rest with
        | nil =>
            rw [List.map_singleton, String.intercalate_singleton, String.toList_ofList]
            rfl
        | cons next rest =>
            rw [List.map_cons] at ih ⊢
            rw [List.map_cons, String.intercalate_cons_cons, String.toList_append, String.toList_append, ih,
              String.toList_ofList, Listing.bracketedItems_cons_cons, List.append_assoc]
            rfl
  apply String.toList_inj.mp
  rw [String.toList_ofList, bracketedTexts, String.toList_append, String.toList_append, hitems]
  rfl

/-- A nest in brackets is on one line. -/
theorem Listing.newline_not_mem_bracketed (l : Listing) : '\n' ∉ l.bracketed := by
  induction l with
  | number n =>
      intro hmem
      exact absurd (Numeral.isDigit_of_mem_decimal hmem) (by decide)
  | list items ih =>
      have hitems : '\n' ∉ bracketedItems items := by
        induction items with
        | nil => exact List.not_mem_nil
        | cons item rest ihrest =>
            have hitem := ih item List.mem_cons_self
            cases rest with
            | nil => exact hitem
            | cons next rest =>
                have hrest := ihrest fun x hx => ih x (List.mem_cons_of_mem _ hx)
                rw [bracketedItems_cons_cons]
                simp [hitem, hrest]
      rw [bracketed]
      simp [hitems]

theorem Corpus.listing_map_record (records : List Record) :
    Corpus.listing ⟨records.map .record⟩ = .list (records.map Record.listing) := by
  rw [Corpus.listing_eq, List.map_map]
  rfl

/-- The numbers of a sequence, printed, are a nest in brackets. -/
theorem mutantText_raw (values : List Value) :
    mutantText values false = String.ofList (Listing.list (values.map Record.byteListing)).bracketed := by
  rw [← bracketedTexts_map_ofList, List.map_map]
  rfl

/-- The writes of a sequence, printed, are the corpus of them. -/
theorem mutantText_encoded (values : List Value) :
    mutantText values true = Corpus.text ⟨(encode values).map .record⟩ := by
  rw [Corpus.text, Corpus.listing_map_record, ← bracketedTexts_map_ofList, List.map_map]
  rfl

/-- Either form of a sequence is on one line. -/
theorem unbroken_mutantText (values : List Value) (encoded : Bool) :
    Testbench.Unbroken (mutantText values encoded) := by
  cases encoded with
  | true =>
      rw [mutantText_encoded]
      exact Testbench.unbroken_ofList (Listing.newline_not_mem_bracketed _)
  | false =>
      rw [mutantText_raw]
      exact Testbench.unbroken_ofList (Listing.newline_not_mem_bracketed _)

/-- **Two lines tell the same sequence**: the numbers of the one are the payloads of the group of records
    that the other is, all on the data channel, the first marked as the start, and none with a tag. -/
structure TellsSame (raw encoded : String) (values : Sequence) (records : List Record) : Prop where
  numbers : (NodeDocument.ofText raw).content =
    .ok (.list (values.toList.map fun v => .natural v.toNat))
  alone : (NodeDocument.ofText raw).finish = .ok ()
  corpus : Corpus.ofYaml encoded = .ok ⟨records.map .record⟩
  group : ∃ content, (NodeDocument.ofText encoded).content = .ok content ∧
    Stimulus.ofContent content = some (.ofRecords records)
  channels : ∀ r ∈ records, r.channel = dataChannel
  starts : records.map (·.start) = [true, false, false, false, false]
  untagged : ∀ r ∈ records, r.extra = none
  payloads : payloads records = values.toList

/-- The writes of a sequence can be read. -/
theorem readable_encode (values : List Value) : Corpus.Readable ⟨(encode values).map .record⟩ where
  channels := by
    intro r hr
    rw [Corpus.flatten, Stimulus.flattenAll_map_record] at hr
    exact .inl (Record.channel_of_isReset_eq_false (isReset_of_mem_encode hr))
  depth := Nat.le_trans (Stimulus.depth_ofRecords_le (encode values)) (by decide)

/-- The first of the writes of a sequence is marked as the start, and no other. -/
theorem starts_encode {values : List Value} (h : values.length = sequenceLength) :
    (encode values).map (·.start) = [true, false, false, false, false] := by
  cases values with
  | nil => cases h
  | cons v rest =>
      have hlength : rest.length = 4 := Nat.succ.inj h
      have hmarks : (rest.map (Record.data · false)).map (·.start) = List.replicate rest.length false := by
        rw [List.map_map]
        exact List.map_const' ..
      rw [encode, List.map_cons, hmarks, hlength]
      rfl

/-- **Both printed forms** of a sequence tell it. -/
theorem tellsSame_mutantText (values : Sequence) :
    TellsSame (mutantText values.toList false) (mutantText values.toList true)
      values (encode values.toList) := by
  have hraw := NodeDocument.holds_bracketed (values.toList.map Record.byteListing)
  have hencoded := Corpus.holds_text ⟨(encode values.toList).map .record⟩
  have hreadable := readable_encode values.toList
  rw [← mutantText_raw] at hraw
  rw [← mutantText_encoded] at hencoded
  have hnumbers : ∀ n ∈ (Listing.list (values.toList.map Record.byteListing)).numbers, n < 1 <<< 64 := by
    intro n hn
    rw [Listing.numbers, Listing.numbersOfItems_eq, List.flatMap_map] at hn
    obtain ⟨v, -, hv⟩ := List.mem_flatMap.mp hn
    rw [List.mem_singleton.mp hv]
    exact Nat.lt_trans v.toNat_lt (by decide)
  have hdepth : (Listing.list (values.toList.map Record.byteListing)).depth ≤ Yaml.maxDepth := by
    have hitems : Listing.depthItems (values.toList.map Record.byteListing) ≤ 0 :=
      Listing.depthItems_le (List.forall_mem_map.mpr fun _ _ => Nat.le_refl 0)
    exact Nat.le_trans (Nat.succ_le_succ hitems) (by decide)
  constructor
  case numbers =>
    rw [hraw.content hdepth hnumbers, Listing.content, Listing.contentItems_eq, List.map_map]
    rfl
  case alone => exact hraw.finish
  case corpus => exact Corpus.ofYaml_of_holds hreadable hencoded
  case group =>
    refine ⟨_, hencoded.content hreadable.depth fun n hn => Corpus.lt_of_mem_numbers hn, ?_⟩
    exact Stimulus.ofContent_listing (s := .ofRecords (encode values.toList)) hreadable.channels
  case channels =>
    exact fun r hr => Record.channel_of_isReset_eq_false (isReset_of_mem_encode hr)
  case starts => exact starts_encode Vector.length_toList
  case untagged => exact fun r hr => extra_of_mem_encode hr
  case payloads => exact payloads_encode values.toList

/-! ## Runs -/

/-- The lines of a run that prints mutations. -/
def Mutation.lines (refs : References) (encoded : Bool) (drawn : List Mutation) : List String :=
  drawn.map fun mutation => mutantText (mutation.apply refs).toList encoded

theorem Mutation.unbroken_lines {refs : References} {encoded : Bool} {drawn : List Mutation} :
    ∀ line ∈ lines refs encoded drawn, Testbench.Unbroken line := by
  intro line hline
  obtain ⟨mutation, -, rfl⟩ := List.mem_map.mp hline
  exact unbroken_mutantText _ encoded

/-- The lines of a run in either form tell the same sequences. -/
theorem Mutation.forall₂_lines (refs : References) (drawn : List Mutation) :
    List.Forall₂ (fun raw encoded => ∃ values records, TellsSame raw encoded values records)
      (lines refs false drawn) (lines refs true drawn) := by
  rw [lines, lines, List.forall₂_map_left_iff, List.forall₂_map_right_iff, List.forall₂_same]
  exact fun mutation _ => ⟨_, _, tellsSame_mutantText (mutation.apply refs)⟩

namespace Command

namespace Action

variable [WorkingDirectory]

/-- **What a run prints** is one line for each mutation, in whichever form. -/
theorem run_printMutants (refs : References) (encoded : Bool) (count : Nat) (stream : KeyStream)
    (s : Session) :
    let run := (printMutants refs encoded count stream).run s
    run.1 = .ok () ∧ run.2.stdout =
      s.stdout ++ Testbench.unlines (Mutation.lines refs encoded (Mutation.drawn count stream)) := by
  induction count generalizing stream s with
  | zero => exact ⟨rfl, String.append_empty.symm⟩
  | succ count ih =>
      dsimp only at ih ⊢
      rw [printMutants]
      dsimp only
      rw [run_bind, run_change, Mutation.drawn]
      obtain ⟨mutation, rest⟩ := stream.draw Mutation.draw Mutation.total_draw
      dsimp only
      -- what is logged and printed of a mutation is all that changes; the stream goes on as it is
      obtain ⟨hend, hstdout⟩ := ih rest ((s.emit mutation.event).print
        (mutantText (mutation.apply refs).toList encoded ++ "\n"))
      refine ⟨hend, ?_⟩
      rw [hstdout, Session.print, (Session.keeps_emit s _).stdout, Mutation.lines, Mutation.lines,
        List.map_cons, Testbench.unlines, Testbench.unlines, List.map_cons, String.join_cons,
        String.append_assoc]

/-- The stream of a run that prints mutations: that of the seed it is given, else of that of the
    configuration, else of a fresh key. -/
def mutateStream (surroundings : Surroundings) (config : Config) (seed : Option Nat) : KeyStream :=
  streamOf surroundings (seed.map UInt64.ofNat <|> config.seed)

theorem run_mutate (surroundings : Surroundings) {config : Config} {refs : References}
    (hrefs : config.references = .ok refs) (count : Nat) (seed : Option Nat) (encoded : Bool) (s : Session) :
    let run := (mutate surroundings config count seed encoded).run s
    run.1 = .ok .success ∧ run.2.stdout = s.stdout ++ Testbench.unlines
      (Mutation.lines refs encoded (Mutation.drawn count (mutateStream surroundings config seed))) := by
  intro run
  obtain ⟨s', hstream, hkept⟩ := run_keyStream surroundings (seed.map UInt64.ofNat <|> config.seed) s
  rw [← mutateStream] at hstream
  obtain ⟨hend, hstdout⟩ := run_printMutants refs encoded count (mutateStream surroundings config seed) s'
  have hrun : run = (printMutants refs encoded count (mutateStream surroundings config seed) >>=
      fun _ => pure ExitStatus.success).run s' := by
    show (mutate surroundings config count seed encoded).run s = _
    rw [mutate, run_bind, ends_references_iff.mpr ⟨hrefs, rfl⟩]
    dsimp only
    rw [run_bind, hstream]
  rw [hrun, run_bind, ← hkept.stdout, ← hstdout]
  generalize (printMutants refs encoded count (mutateStream surroundings config seed)).run s' = printed
    at hend
  obtain ⟨outcome, s₁⟩ := printed
  dsimp only at hend
  subst hend
  exact ⟨rfl, rfl⟩

end Action

open Command.Action

section

variable [WorkingDirectory] [FilterDialect]
variable {surroundings : Surroundings} {arguments encodedArguments : List String} {invocation : Invocation}
  {config : Config} {count : Nat} {seed : Option Nat} {encoded : Bool}

/-- **A run that prints mutations** succeeds, and prints their lines. -/
theorem runCommand_mutate {refs : References}
    (hinvocation : Invocation.ofArguments surroundings.configPath arguments =
      .ok { invocation with task := .mutate count seed encoded })
    (files : FileTree) (time : String) (hconfig : configuration files invocation.config = .ok config)
    (hstart : ((Session.start files time).startLog surroundings.logFilter
      (logSetting invocation config)).2 = .ok ())
    (hrefs : config.references = .ok refs) :
    let run := runCommand surroundings arguments (.start files time)
    run.2 = .success ∧ run.1.stdout = Testbench.unlines
      (Mutation.lines refs encoded (Mutation.drawn count (mutateStream surroundings config seed))) := by
  intro run
  let started := ((Session.start files time).startLog surroundings.logFilter (logSetting invocation config)).1
  have hempty : started.stdout = "" := (Session.startLog_eq_ok (Prod.ext rfl hstart)).1
  have hinvoke : (invoke surroundings { invocation with task := .mutate count seed encoded }).run
      (.start files time) = (mutate surroundings config count seed encoded).run started :=
    run_invoke_of_started _ hconfig hstart
  obtain ⟨hend, hstdout⟩ := run_mutate surroundings hrefs count seed encoded started
  rw [hempty, String.empty_append] at hstdout
  have hrun : run = (((mutate surroundings config count seed encoded).run started).2, .success) :=
    runCommand_of_ok hinvocation (hinvoke.trans (Prod.ext hend rfl))
  rw [hrun]
  exact ⟨rfl, hstdout⟩

/-- **Mutated sequences are the same in either form.** Under a configuration that is accepted, and once the
    log has started, the run that prints the numbers of each sequence and the run that prints its writes
    succeed, whatever the seed is. Both print as many lines as they are asked for, and lines at the same
    place tell the same sequence. The run that asks for fewer lines, in either form, prints the first of
    these lines. -/
theorem runCommand_mutate_lines
    (hraw : Invocation.ofArguments surroundings.configPath arguments =
      .ok { invocation with task := .mutate count seed false })
    (hencoded : Invocation.ofArguments surroundings.configPath encodedArguments =
      .ok { invocation with task := .mutate count seed true })
    (files : FileTree) (time : String) (hconfig : configuration files invocation.config = .ok config)
    (hstart : ((Session.start files time).startLog surroundings.logFilter
      (logSetting invocation config)).2 = .ok ()) :
    let start := Session.start files time
    let raw := runCommand surroundings arguments start
    let encoded := runCommand surroundings encodedArguments start
    raw.2.code = 0 ∧ encoded.2.code = 0 ∧ ∃ rawLines encodedLines : List String,
      rawLines.length = count ∧ encodedLines.length = count ∧
      Testbench.linesOf raw.1.stdout = rawLines.map String.toList ++ [[]] ∧
      Testbench.linesOf encoded.1.stdout = encodedLines.map String.toList ++ [[]] ∧
      List.Forall₂ (fun r e => ∃ values records, TellsSame r e values records) rawLines encodedLines ∧
      ∀ m ≤ count, ∀ (form : Bool) (fewer : List String),
        Invocation.ofArguments surroundings.configPath fewer =
          .ok { invocation with task := .mutate m seed form } →
        Testbench.linesOf (runCommand surroundings fewer start).1.stdout =
          ((if form then encodedLines else rawLines).take m).map String.toList ++ [[]] := by
  intro start raw encoded
  obtain ⟨refs, hrefs⟩ := exists_references_of_configuration hconfig
  obtain ⟨hrawEnd, hrawLines⟩ := runCommand_mutate hraw files time hconfig hstart hrefs
  obtain ⟨hencodedEnd, hencodedLines⟩ := runCommand_mutate hencoded files time hconfig hstart hrefs
  let stream := mutateStream surroundings config seed
  let drawn := Mutation.drawn count stream
  have hlength : ∀ form, (Mutation.lines refs form drawn).length = count := fun _ =>
    (List.length_map ..).trans (Mutation.length_drawn count stream)
  have hlines : ∀ form n text, text = Testbench.unlines (Mutation.lines refs form (Mutation.drawn n stream)) →
      Testbench.linesOf text =
        (Mutation.lines refs form (Mutation.drawn n stream)).map String.toList ++ [[]] := by
    rintro form n _ rfl
    exact Testbench.linesOf_unlines Mutation.unbroken_lines
  refine ⟨congrArg ExitStatus.code hrawEnd, congrArg ExitStatus.code hencodedEnd,
    Mutation.lines refs false drawn, Mutation.lines refs true drawn, hlength _, hlength _,
    hlines _ _ _ hrawLines, hlines _ _ _ hencodedLines, Mutation.forall₂_lines refs drawn, ?_⟩
  -- fewer draws from the same stream are a beginning of the draws of both runs
  intro m hm form fewer hfewer
  obtain ⟨-, hprinted⟩ := runCommand_mutate hfewer files time hconfig hstart hrefs
  have htake : Mutation.lines refs form (Mutation.drawn m stream) =
      (if form then Mutation.lines refs true drawn else Mutation.lines refs false drawn).take m := by
    rw [← Mutation.take_drawn hm, Mutation.lines, List.map_take]
    cases form <;> rfl
  rw [hlines _ _ _ hprinted, htake]

end

/-- Four sequences of a seed in both forms, and the first two of them again. -/
theorem runCommand_mutate_lines_four :
    let run := fun arguments => runCommand ⟨none, none, .replicate 8 0⟩ arguments (.start .empty "now")
    let raw := run ["mutate", "--seed", "8", "--count", "4"]
    let encoded := run ["mutate", "--seed", "8", "--count", "4", "--encode"]
    let fewer := run ["mutate", "--seed", "8", "--count", "2", "--encode"]
    raw.2.code = 0 ∧ encoded.2.code = 0 ∧ ∃ rawLines encodedLines : List String,
      rawLines.length = 4 ∧ encodedLines.length = 4 ∧
      Testbench.linesOf raw.1.stdout = rawLines.map String.toList ++ [[]] ∧
      Testbench.linesOf fewer.1.stdout = (encodedLines.take 2).map String.toList ++ [[]] ∧
      List.Forall₂ (fun r e => ∃ values records, TellsSame r e values records) rawLines encodedLines := by
  dsimp only
  let asked : Invocation := ⟨none, none, none, none, .mutate 4 (some 8) false⟩
  have hread : Invocation.ofArguments (⟨none, none, .replicate 8 0⟩ : Surroundings).configPath
      ["mutate", "--seed", "8", "--count", "4"] =
        .ok { asked with task := .mutate 4 (some 8) false } := rfl
  have hreadEncoded : Invocation.ofArguments (⟨none, none, .replicate 8 0⟩ : Surroundings).configPath
      ["mutate", "--seed", "8", "--count", "4", "--encode"] =
        .ok { asked with task := .mutate 4 (some 8) true } := rfl
  have hstart : ((Session.start .empty "now").startLog (⟨none, none, .replicate 8 0⟩ : Surroundings).logFilter
      (logSetting asked .default)).2 = .ok () := by decide +kernel
  obtain ⟨hcode, hencodedCode, rawLines, encodedLines, hcount, hencodedCount, hraw, -, hsame, hfewer⟩ :=
    runCommand_mutate_lines hread hreadEncoded .empty "now" rfl hstart
  have hshorter := hfewer 2 (by decide) true ["mutate", "--seed", "8", "--count", "2", "--encode"] rfl
  exact ⟨hcode, hencodedCode, rawLines, encodedLines, hcount, hencodedCount, hraw, hshorter, hsame⟩

end Command

end StimulusBench
