import Mathlib.Data.List.SplitBy
import StimulusBench.Proofs.Filler.Inert

/-!
# `StimulusBench.Proofs.Filler.Decoding` — filler is read back from its records

The records of a run say which chunks it was built from, in either form. As for any code whose words
are told apart by their first letter, it is enough to look at the record that a chunk begins with. In
the raw form the marker decides: an A chunk begins with a marked record, a B chunk with an unmarked
one. Encoded anew every chunk begins with a marked record, and only the payload is left to decide: the
first accepted value for A, a sentinel value for B. These differ because no sentinel value occurs in
the accepted sequence.

Encoding anew frames the chunks: it keeps every payload, and the markers stand exactly where a chunk
begins, so that the records are cut back into the chunks without knowing the kinds.

## Contents
- **Words told apart by their first letter.** `flatMap_injective`.
- **Any run.** `Run.length_records` and `Run.payloads_rebatched`.
- **The kinds.** The two forms determine them; `Filler.length_run` counts the records.
- **Cutting at the markers.** `cutAtStarts`, and `Run.cutAtStarts_rebatched`, which gives the chunks
  back.
- **Tags.** `untagged_tagAll`: a tag that was put on is taken off again.
-/

namespace StimulusBench

/-! ## Words told apart by their first letter -/

/-- **A code whose words begin differently is uniquely decodable.** The first letter of a concatenation
    says which word comes first, and with that word removed the rest is shorter. -/
theorem flatMap_injective {α β : Type} {word : α → List β} (hword : ∀ a, word a ≠ [])
    (hhead : Function.Injective fun a => (word a).head?) :
    Function.Injective fun letters : List α => letters.flatMap word := by
  intro xs ys h
  -- both lists are taken apart at once, since the second is only known through its concatenation
  induction xs generalizing ys with
  | nil =>
      cases ys with
      | nil => rfl
      | cons y ys =>
          have hnil : word y ++ ys.flatMap word = [] := h.symm
          exact absurd (List.append_eq_nil_iff.mp hnil).1 (hword y)
  | cons x xs ih =>
      cases ys with
      | nil =>
          have hnil : word x ++ xs.flatMap word = [] := h
          exact absurd (List.append_eq_nil_iff.mp hnil).1 (hword x)
      | cons y ys =>
          have happend : word x ++ xs.flatMap word = word y ++ ys.flatMap word := h
          have hfirst : (word x).head? = (word y).head? := by
            have := congrArg List.head? happend
            rwa [List.head?_append_of_ne_nil _ (hword x),
              List.head?_append_of_ne_nil _ (hword y)] at this
          have hxy : x = y := hhead hfirst
          subst hxy
          have hrest : xs = ys := ih (List.append_cancel_left happend)
          rw [hrest]

/-! ## Any run -/

theorem length_payloads (records : List Record) : (payloads records).length = records.length :=
  List.length_map _

theorem Run.length_records (run : Run) : run.records.length = run.length := by
  have hfrom : ∀ (chunks : List Chunk) (n : Nat),
      chunks.foldl (fun n chunk => n + chunk.records.length) n =
        n + (chunks.flatMap (·.records)).length := by
    intro chunks
    induction chunks with
    | nil => intro n; rfl
    | cons chunk chunks ih =>
        intro n
        rw [List.foldl_cons, ih, List.flatMap_cons, List.length_append, Nat.add_assoc]
  rw [Run.length, hfrom, Nat.zero_add, Run.records]

/-- **Encoding anew keeps the payloads**: only the markers change. -/
theorem Run.payloads_rebatched (run : Run) : payloads run.rebatched = payloads run.records := by
  have hchunk : ∀ chunk : Chunk,
      (encode (payloads chunk.records)).map (·.value) = chunk.records.map (·.value) :=
    fun chunk => payloads_encode (payloads chunk.records)
  rw [payloads, payloads, Run.rebatched, Run.records, List.map_flatMap, List.map_flatMap]
  simp only [hchunk]

theorem Run.length_rebatched (run : Run) : run.rebatched.length = run.length := by
  rw [← length_payloads, run.payloads_rebatched, length_payloads, run.length_records]

/-! ## The kinds -/

/-- With two kinds, what tells them apart is injective. -/
theorem FragmentKind.injective_of_ne {α : Type} {f : FragmentKind → α} (h : f .A ≠ f .B) :
    Function.Injective f := by
  intro a b hab
  cases a <;> cases b
  · rfl
  · exact absurd hab h
  · exact absurd hab.symm h
  · rfl

variable (refs : References) (maxDraws : Nat)

theorem payloads_fragment_ne_nil (kind : FragmentKind) :
    payloads ((Filler.ofReferences refs maxDraws).fragment kind) ≠ [] := by
  cases kind with
  | A =>
      rw [payloads_fragment_A]
      exact List.append_ne_nil_of_right_ne_nil _ (List.cons_ne_nil _ _)
  | B => exact List.cons_ne_nil _ _

theorem fragment_ne_nil (kind : FragmentKind) :
    (Filler.ofReferences refs maxDraws).fragment kind ≠ [] := by
  intro hnil
  apply payloads_fragment_ne_nil refs maxDraws kind
  rw [hnil]
  rfl

/-- The first accepted value is no sentinel value. -/
theorem References.correct_head_ne_sentinelValue : refs.correct[0] ≠ refs.sentinelValue := by
  intro heq
  have hmem : refs.correct[0] ∈ refs.correct := Vector.getElem_mem (by decide)
  rw [heq] at hmem
  exact refs.disjoint refs.sentinelValue refs.sentinelValue_mem hmem

theorem References.head?_correct : refs.correct.toList.head? = some refs.correct[0] := by
  rw [List.head?_eq_getElem?, List.getElem?_eq_getElem (by simp), Vector.getElem_toList]

/-- **The raw records determine the kinds**, by the marker that a chunk begins with. -/
theorem Filler.records_injective :
    Function.Injective fun kinds => ((Filler.ofReferences refs maxDraws).run kinds).records := by
  have hhead : Function.Injective fun kind =>
      ((Filler.ofReferences refs maxDraws).fragment kind).head? := by
    apply FragmentKind.injective_of_ne
    intro heq
    have hmarked : ((Filler.ofReferences refs maxDraws).fragment .A).head? =
        some (Record.data refs.correct[0] true) := by
      rw [fragment_A, List.append_nil, List.head?_append, head?_encode, refs.head?_correct]
      rfl
    have hunmarked : ((Filler.ofReferences refs maxDraws).fragment .B).head? =
        some (Record.data refs.sentinelValue false) := rfl
    rw [hmarked, hunmarked] at heq
    exact absurd (congrArg Record.start (Option.some.inj heq)) (by decide : true ≠ false)
  simp only [Filler.records_run]
  exact flatMap_injective (fragment_ne_nil refs maxDraws) hhead

/-- **The records encoded anew determine the kinds** as well. All chunks begin with a marker now, and it
    is the payload behind it that says which kind they are. -/
theorem Filler.rebatched_injective :
    Function.Injective fun kinds => ((Filler.ofReferences refs maxDraws).run kinds).rebatched := by
  have hhead : Function.Injective fun kind =>
      (encode (payloads ((Filler.ofReferences refs maxDraws).fragment kind))).head? := by
    apply FragmentKind.injective_of_ne
    intro heq
    rw [head?_encode, head?_encode, payloads_fragment_A, payloads_fragment_B, List.head?_append,
      refs.head?_correct] at heq
    have hvalue : refs.correct[0] = refs.sentinelValue :=
      congrArg Record.value (Option.some.inj heq)
    exact refs.correct_head_ne_sentinelValue hvalue
  simp only [Filler.rebatched_run]
  exact flatMap_injective
    (fun kind => encode_ne_nil (payloads_fragment_ne_nil refs maxDraws kind)) hhead

/-- Six records for every A chunk and one for every B chunk. -/
theorem Filler.length_run (kinds : List FragmentKind) :
    ((Filler.ofReferences refs maxDraws).run kinds).length =
      6 * kinds.count .A + kinds.count .B := by
  have hA : ((Filler.ofReferences refs maxDraws).fragment .A).length = 6 := by
    rw [← length_payloads, payloads_fragment_A]
    simp
  have hB : ((Filler.ofReferences refs maxDraws).fragment .B).length = 1 := rfl
  rw [← Run.length_records, Filler.records_run]
  induction kinds with
  | nil => rfl
  | cons kind kinds ih =>
      rw [List.flatMap_cons, List.length_append, ih]
      cases kind with
      | A =>
          have hcount : (FragmentKind.A :: kinds).count .B = kinds.count .B :=
            List.count_cons_of_ne (by decide)
          rw [hA, List.count_cons_self, hcount]
          omega
      | B =>
          have hcount : (FragmentKind.B :: kinds).count .A = kinds.count .A :=
            List.count_cons_of_ne (by decide)
          rw [hB, List.count_cons_self, hcount]
          omega

/-! ## Cutting at the markers -/

/-- The pieces of records that are cut in front of every marked one: two neighbours stay together while
    the second of them is unmarked. -/
def cutAtStarts (records : List Record) : List (List Record) :=
  records.splitBy fun _ next => !next.start

/-- An encoded sequence is a single piece. -/
theorem cutAtStarts_encode {values : List Value} (h : values ≠ []) :
    cutAtStarts (encode values) = [encode values] := by
  have hchain : (encode values).IsChain fun _ next => (!next.start) = true := by
    cases values with
    | nil => exact absurd rfl h
    | cons v vs =>
        have hbehind : ∀ r ∈ vs.map (Record.data · false), (!r.start) = true := by
          intro r hr
          obtain ⟨w, -, rfl⟩ := List.mem_map.mp hr
          rfl
        rw [encode]
        apply List.Pairwise.isChain
        rw [List.pairwise_cons]
        exact ⟨hbehind, List.pairwise_of_forall_mem_list fun _ _ r hr => hbehind r hr⟩
  exact List.splitBy_of_isChain (encode_ne_nil h) hchain

/-- Encoded sequences one after the other begin with a marker. -/
theorem start_of_mem_head?_flatMap_encode {sequences : List (List Value)}
    (h : ∀ values ∈ sequences, values ≠ []) {r : Record}
    (hr : r ∈ (sequences.flatMap encode).head?) : r.start = true := by
  cases sequences with
  | nil => exact absurd hr (Option.not_mem_none r)
  | cons values sequences =>
      have hvalues : encode values ≠ [] := encode_ne_nil (h values List.mem_cons_self)
      rw [List.flatMap_cons, List.head?_append_of_ne_nil _ hvalues, head?_encode] at hr
      obtain ⟨v, -, rfl⟩ := Option.map_eq_some_iff.mp hr
      rfl

/-- **The markers frame the sequences.** Sequences encoded one after the other, whatever their lengths,
    are cut back into themselves. -/
theorem cutAtStarts_flatMap_encode {sequences : List (List Value)}
    (h : ∀ values ∈ sequences, values ≠ []) :
    cutAtStarts (sequences.flatMap encode) = sequences.map encode := by
  induction sequences with
  | nil => rfl
  | cons values sequences ih =>
      have hrest : ∀ values ∈ sequences, values ≠ [] :=
        fun values hmem => h values (List.mem_cons_of_mem _ hmem)
      -- the cut falls between the first sequence and the next, which begins with a marker
      have happend : cutAtStarts (encode values ++ sequences.flatMap encode) =
          cutAtStarts (encode values) ++ cutAtStarts (sequences.flatMap encode) := by
        apply List.splitBy_append
        intro _ _ next hnext
        rw [start_of_mem_head?_flatMap_encode hrest hnext]
        rfl
      rw [List.flatMap_cons, happend, cutAtStarts_encode (h values List.mem_cons_self), ih hrest]
      rfl

/-- **A run encoded anew is cut back into its chunks**, as long as none of them is empty. -/
theorem Run.cutAtStarts_rebatched {run : Run} (h : ∀ chunk ∈ run.chunks, payloads chunk.records ≠ []) :
    (cutAtStarts run.rebatched).map payloads =
      run.chunks.map fun chunk => payloads chunk.records := by
  have hflat : run.rebatched =
      (run.chunks.map fun chunk => payloads chunk.records).flatMap encode := by
    rw [Run.rebatched, List.flatMap_map]
  have hne : ∀ values ∈ run.chunks.map fun chunk => payloads chunk.records, values ≠ [] := by
    intro values hmem
    obtain ⟨chunk, hchunk, rfl⟩ := List.mem_map.mp hmem
    exact h chunk hchunk
  have hback : ∀ sequences : List (List Value), (sequences.map encode).map payloads = sequences := by
    intro sequences
    rw [List.map_map]
    exact (List.map_congr_left fun values _ => payloads_encode values).trans (List.map_id _)
  rw [hflat, cutAtStarts_flatMap_encode hne, hback]

/-! ## Tags -/

theorem extra_of_mem_rebatched {run : Run} {r : Record} (h : r ∈ run.rebatched) :
    r.extra = none := by
  obtain ⟨chunk, -, hr⟩ := List.mem_flatMap.mp h
  exact extra_of_mem_encode hr

/-- Tags put on records that had none are taken off again. -/
theorem untagged_tagAll {records : List Record} (h : ∀ r ∈ records, r.extra = none)
    (a : Assertion) : (tagAll records a).map (·.untagged) = records := by
  have hback : ∀ r ∈ records, (r.tagged a).untagged = r := by
    intro r hr
    obtain ⟨channel, value, start, extra⟩ := r
    have hnone : extra = none := h _ hr
    rw [hnone]
    rfl
  rw [tagAll, List.map_map]
  exact (List.map_congr_left hback).trans (List.map_id _)

/-! ## Filler is uniquely decodable -/

/-- **Filler is uniquely decodable.** The records of a run determine its kinds, as they are drawn and
    encoded anew. In both forms there are six records for every A and one for every B, with the same
    payloads; encoded anew, the pieces between the markers are the chunks, one piece for each and in
    their order; and the tagged form is the same records under tags. -/
theorem filler_uniquely_decodable (refs : References) (maxDraws : Nat) :
    let filler := Filler.ofReferences refs maxDraws
    (∀ kinds₁ kinds₂, (filler.run kinds₁).records = (filler.run kinds₂).records → kinds₁ = kinds₂) ∧
      (∀ kinds₁ kinds₂, (filler.run kinds₁).rebatched = (filler.run kinds₂).rebatched →
        kinds₁ = kinds₂) ∧
      ∀ kinds,
        let run := filler.run kinds
        let count := 6 * kinds.count .A + kinds.count .B
        run.length = count ∧ run.records.length = count ∧ run.rebatched.length = count ∧
          payloads run.rebatched = payloads run.records ∧
          run.kinds = kinds ∧
          (cutAtStarts run.rebatched).map payloads =
            run.chunks.map (fun chunk => payloads chunk.records) ∧
          ∀ a, (run.rebatchedTagged a).map (·.untagged) = run.rebatched := by
  intro filler
  refine ⟨fun _ _ h => Filler.records_injective refs maxDraws h,
    fun _ _ h => Filler.rebatched_injective refs maxDraws h, ?_⟩
  intro kinds run count
  have hcount : run.length = count := Filler.length_run refs maxDraws kinds
  have hkinds : run.kinds = kinds := by
    have hmap : (kinds.map fun kind => (⟨kind, filler.fragment kind⟩ : Chunk)).map (·.kind) =
        kinds := by
      rw [List.map_map]
      exact List.map_id' kinds
    exact hmap
  have hchunks : ∀ chunk ∈ run.chunks, payloads chunk.records ≠ [] := by
    intro chunk hmem
    obtain ⟨kind, -, rfl⟩ := List.mem_map.mp hmem
    exact payloads_fragment_ne_nil refs maxDraws kind
  refine ⟨hcount, ?_, ?_, run.payloads_rebatched, hkinds, Run.cutAtStarts_rebatched hchunks, ?_⟩
  · rw [run.length_records, hcount]
  · rw [run.length_rebatched, hcount]
  · intro a
    exact untagged_tagAll (fun _ => extra_of_mem_rebatched) a

/-- An A chunk of the default references has as many records as six B chunks, and yet other ones in
    either form; B and A are cut into two pieces. -/
theorem filler_uniquely_decodable_default :
    let filler := Filler.ofReferences References.default 10
    let sixB := List.replicate 6 FragmentKind.B
    (filler.run [.A]).records.length = 6 ∧ (filler.run sixB).records.length = 6 ∧
      (filler.run [.A]).records ≠ (filler.run sixB).records ∧
      (filler.run [.A]).rebatched ≠ (filler.run sixB).rebatched ∧
      (filler.run [.A, .B].reverse).records = (filler.run [.B, .A]).records ∧
      [FragmentKind.A, .B].reverse = [.B, .A] ∧
      (cutAtStarts (filler.run [.B, .A]).rebatched).map payloads =
        [[255], [36, 19, 56, 101, 73, 255]] := by
  intro filler sixB
  obtain ⟨hraw, hanew, hrun⟩ := filler_uniquely_decodable References.default 10
  obtain ⟨-, hlenA, -⟩ := hrun [.A]
  obtain ⟨-, hlenB, -⟩ := hrun sixB
  obtain ⟨-, -, -, -, -, hcut, -⟩ := hrun [.B, .A]
  have hkinds : [FragmentKind.A] ≠ sixB := by decide
  have hsame : (filler.run [.A, .B].reverse).records = (filler.run [.B, .A]).records := rfl
  exact ⟨hlenA, hlenB, fun h => hkinds (hraw _ _ h), fun h => hkinds (hanew _ _ h), hsame,
    hraw _ _ hsame, hcut⟩

end StimulusBench
