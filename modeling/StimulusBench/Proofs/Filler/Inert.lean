import StimulusBench.Filler
import StimulusBench.Proofs.Recognizer.Sequence

/-!
# `StimulusBench.Proofs.Filler.Inert` — filler does nothing

A run of fragments is filler in two forms. As it is drawn (`Run.records`) it needs a recognizer without
an attempt in progress; encoded anew chunk by chunk (`Run.rebatched`) it may start anywhere. In both
forms the warning stays as it is and the unlock output is raised once per A chunk, at its fifth record.

The raw form is the delicate one. An A chunk ends with a start-marked sentinel write, so that a
sentinel attempt is left in progress; the B chunks behind it extend that attempt, four of them complete
it, and it is wrong. What saves the filler is that the A chunk cleared the failures before: the wrong
attempt is the first failure, no further value is collected before the next A chunk, and that one
clears the failures again. `HoldsSentinels` is this argument as an invariant between chunks.

## Contents
- **Sentinels.** An attempt with a sentinel value in it is wrong.
- **Chunks.** `records_run`, `rebatched_run`, `FragmentKind.unlocks`, and `along_filler`, the induction
  over the chunks that both forms share.
- **Chunks encoded anew.** `rebatched_chunk`, and the law from any state.
- **Raw chunks.** `HoldsSentinels`, `raw_chunk`, and the law from states without an attempt.
-/

namespace StimulusBench

/-! ## Sentinels -/

theorem References.sentinelValue_mem (refs : References) : refs.sentinelValue ∈ refs.sentinel :=
  Vector.getElem_mem (by decide)

theorem References.isCorrect_correct (refs : References) :
    refs.isCorrect refs.correct.toList = true := by
  rw [ReferencePair.isCorrect, beq_self_eq_true]

/-- **A sentinel value spoils an attempt**, wherever in it it stands. -/
theorem References.isCorrect_eq_false (refs : References) {v : Value} {values : List Value}
    (hv : v ∈ refs.sentinel) (hmem : v ∈ values) : refs.isCorrect values = false := by
  rw [ReferencePair.isCorrect, beq_eq_false_iff_ne]
  intro heq
  rw [heq, Vector.mem_toList_iff] at hmem
  exact refs.disjoint v hv hmem

/-! ## Chunks -/

/-- Where a chunk raises the unlock output: at the fifth record of an A chunk only. -/
def FragmentKind.unlocks : FragmentKind → List Bool
  | .A => [false, false, false, false, true, false]
  | .B => [false]

theorem Filler.records_run (filler : Filler) (kinds : List FragmentKind) :
    (filler.run kinds).records = kinds.flatMap filler.fragment := by
  rw [Run.records, Filler.run, List.flatMap_map]

theorem Filler.rebatched_run (filler : Filler) (kinds : List FragmentKind) :
    (filler.run kinds).rebatched =
      kinds.flatMap fun kind => encode (payloads (filler.fragment kind)) := by
  rw [Run.rebatched, Filler.run, List.flatMap_map]

variable {refs : References} {maxDraws : Nat} {m : Recognizer}

/-- An A fragment is the accepted sequence with one more sequence, a single sentinel value, behind
    it. -/
theorem fragment_A (refs : References) (maxDraws : Nat) :
    (Filler.ofReferences refs maxDraws).fragment .A =
      encode (refs.correct.toList ++ []) ++ encode [refs.sentinelValue] := by
  rw [List.append_nil]
  rfl

theorem fragment_B (refs : References) (maxDraws : Nat) :
    (Filler.ofReferences refs maxDraws).fragment .B = [Record.data refs.sentinelValue false] := rfl

theorem payloads_fragment_A (refs : References) (maxDraws : Nat) :
    payloads ((Filler.ofReferences refs maxDraws).fragment .A) =
      refs.correct.toList ++ [refs.sentinelValue] := by
  rw [fragment_A, payloads_append, payloads_encode, payloads_encode, List.append_nil]

theorem payloads_fragment_B (refs : References) (maxDraws : Nat) :
    payloads ((Filler.ofReferences refs maxDraws).fragment .B) = [refs.sentinelValue] := rfl

/-- What is asked of a chunk: from the states of an invariant it relates neighbouring states, unlocks
    where its kind says, and keeps the invariant. -/
def ChunkLaw (pair : ReferencePair) (R : Recognizer → Recognizer → Prop) (Inv : Recognizer → Prop)
    (kind : FragmentKind) (chunk : List Record) : Prop :=
  ∀ m, Inv m → Recognizer.Along pair R m chunk ∧
    (m.run pair chunk).2.map (·.unlock) = kind.unlocks ∧ Inv (m.run pair chunk).1

/-- **Chunk by chunk.** If every chunk obeys the law, a run of chunks does what its chunks do one
    after the other. -/
theorem along_chunks {pair : ReferencePair} {R : Recognizer → Recognizer → Prop}
    {Inv : Recognizer → Prop} {chunk : FragmentKind → List Record}
    (hchunk : ∀ kind, ChunkLaw pair R Inv kind (chunk kind))
    (kinds : List FragmentKind) {m : Recognizer} (hm : Inv m) :
    Recognizer.Along pair R m (kinds.flatMap chunk) ∧
      (m.run pair (kinds.flatMap chunk)).2.map (·.unlock) = kinds.flatMap FragmentKind.unlocks := by
  induction kinds generalizing m with
  | nil => exact ⟨trivial, rfl⟩
  | cons kind kinds ih =>
      obtain ⟨halong, hunlocks, hinv⟩ := hchunk kind m hm
      obtain ⟨halong', hunlocks'⟩ := ih hinv
      rw [List.flatMap_cons, List.flatMap_cons, Recognizer.along_append, Recognizer.run_append,
        List.map_append, hunlocks, hunlocks']
      exact ⟨⟨halong, halong'⟩, rfl⟩

/-- **Filler of any form.** Under lockout nothing happens at all; otherwise the chunks do what their
    kinds say. -/
theorem along_filler {pair : ReferencePair} {R : Recognizer → Recognizer → Prop}
    {Inv : Recognizer → Prop} {chunk : FragmentKind → List Record} {kinds : List FragmentKind}
    (hdata : ∀ r ∈ kinds.flatMap chunk, r.isReset = false) (hrefl : R m m)
    (hopen : m.warning = false → Inv m ∧ ∀ kind, ChunkLaw pair R Inv kind (chunk kind)) :
    Recognizer.Along pair R m (kinds.flatMap chunk) ∧
      (m.run pair (kinds.flatMap chunk)).2.map (·.unlock) =
        if m.warning then List.replicate (kinds.flatMap chunk).length false
        else kinds.flatMap FragmentKind.unlocks := by
  by_cases hw : m.warning = true
  · have hquiet : (m.run pair (kinds.flatMap chunk)).2.map (·.unlock) =
        List.replicate (kinds.flatMap chunk).length false := by
      rw [Recognizer.run_locked pair hw hdata, List.map_replicate]
    rw [if_pos hw]
    exact ⟨Recognizer.along_locked hrefl hw hdata, hquiet⟩
  · rw [if_neg hw]
    obtain ⟨hinv, hchunk⟩ := hopen (Bool.not_eq_true _ ▸ hw)
    exact along_chunks hchunk kinds hinv

/-! ## Chunks encoded anew -/

theorem isReset_of_mem_rebatched {run : Run} {r : Record} (h : r ∈ run.rebatched) :
    r.isReset = false := by
  obtain ⟨chunk, -, hr⟩ := List.mem_flatMap.mp h
  exact isReset_of_mem_encode hr

/-- A chunk encoded anew starts an attempt of its own: an A chunk unlocks, a B chunk only collects. -/
theorem rebatched_chunk (refs : References) (maxDraws : Nat) (kind : FragmentKind) :
    ChunkLaw refs Recognizer.NoWorse (·.warning = false) kind
      (encode (payloads ((Filler.ofReferences refs maxDraws).fragment kind))) := by
  intro m hw
  cases kind with
  | A =>
      have hc := refs.isCorrect_correct
      rw [payloads_fragment_A, Recognizer.run_encode_correct hw hc]
      exact ⟨Recognizer.along_encode_correct hw hc _, rfl, hw⟩
  | B =>
      have hshort : [refs.sentinelValue].length < sequenceLength := (by decide : 1 < sequenceLength)
      rw [payloads_fragment_B, Recognizer.run_encode_short hw (List.cons_ne_nil _ _) hshort]
      refine ⟨?_, rfl, hw⟩
      exact (Recognizer.along_encode_short hw hshort).mono fun _ _ h => h.noWorse

/-- While the warning is down, filler encoded anew leaves it down, and its outputs are the unlocks of
    its chunks. -/
theorem run_rebatched_open (refs : References) (maxDraws : Nat) (kinds : List FragmentKind)
    (hw : m.warning = false) :
    let records := ((Filler.ofReferences refs maxDraws).run kinds).rebatched
    (m.run refs records).1.warning = false ∧
      (m.run refs records).2 = (kinds.flatMap FragmentKind.unlocks).map fun u => ⟨u, false⟩ := by
  intro records
  obtain ⟨halong, hunlocks⟩ := along_chunks (rebatched_chunk refs maxDraws) kinds hw
  rw [← Filler.rebatched_run] at halong hunlocks
  obtain ⟨hend, houtputs⟩ := (halong.mono fun _ _ h => h.1).outputs_eq
  refine ⟨hend.trans hw, ?_⟩
  rw [← hunlocks, List.map_map, houtputs, hw, List.map_map]
  rfl

/-- **Filler encoded anew does nothing, from any state.** With or without assertions on it, it keeps
    the warning at every record and never adds a failure; while the warning is down it unlocks at the
    fifth record of each A chunk and nowhere else, and under lockout not at all. -/
theorem rebatched_inert (refs : References) (maxDraws : Nat) (kinds : List FragmentKind)
    (tag : Option Assertion) (m : Recognizer) :
    let run := (Filler.ofReferences refs maxDraws).run kinds
    let records := tag.elim run.rebatched run.rebatchedTagged
    (∀ k, (m.run refs (records.take k)).1.warning = m.warning) ∧
      (∀ k, (m.run refs (records.take (k + 1))).1.failures ≤
        (m.run refs (records.take k)).1.failures) ∧
      (m.run refs records).2.map (·.unlock) =
        if m.warning then List.replicate records.length false
        else kinds.flatMap FragmentKind.unlocks := by
  intro run records
  have htag : (∀ R, Recognizer.Along refs R m records ↔ Recognizer.Along refs R m run.rebatched) ∧
      m.run refs records = m.run refs run.rebatched ∧ records.length = run.rebatched.length := by
    cases tag with
    | none => exact ⟨fun _ => Iff.rfl, rfl, rfl⟩
    | some a =>
        exact ⟨fun _ => Recognizer.along_tagAll, Recognizer.run_tagAll _ _ _ _, List.length_map _⟩
  have hdata : ∀ r ∈ run.rebatched, r.isReset = false := fun _ => isReset_of_mem_rebatched
  have hlaw : Recognizer.Along refs Recognizer.NoWorse m run.rebatched ∧
      (m.run refs run.rebatched).2.map (·.unlock) =
        if m.warning then List.replicate run.rebatched.length false
        else kinds.flatMap FragmentKind.unlocks := by
    rw [show run.rebatched = _ from Filler.rebatched_run _ kinds] at hdata ⊢
    apply along_filler hdata (Recognizer.NoWorse.refl m)
    intro hw
    exact ⟨hw, rebatched_chunk refs maxDraws⟩
  have hstep : ∀ k, Recognizer.NoWorse (m.run refs (records.take k)).1
      (m.run refs (records.take (k + 1))).1 :=
    ((htag.1 _).mpr hlaw.1).take_succ Recognizer.NoWorse.refl
  refine ⟨fun k => ?_, fun k => (hstep k).2, by rw [htag.2.1, htag.2.2]; exact hlaw.2⟩
  induction k with
  | zero => rfl
  | succ k ih => exact (hstep k).1.trans ih

/-! ## Raw chunks -/

theorem isReset_of_mem_fragment {kind : FragmentKind} {r : Record}
    (h : r ∈ (Filler.ofReferences refs maxDraws).fragment kind) : r.isReset = false := by
  cases kind with
  | A =>
      rw [fragment_A] at h
      rcases List.mem_append.mp h with h | h <;> exact isReset_of_mem_encode h
  | B => rw [List.mem_singleton.mp h]; rfl

/-- **The invariant between raw chunks.** The warning is down, and an attempt in progress consists of
    sentinel values, with the failures cleared before it began. -/
structure HoldsSentinels (refs : References) (m : Recognizer) : Prop where
  warning : m.warning = false
  attempt : m.inAttempt = true →
    m.failures = 0 ∧ ∃ n, n < sequenceLength ∧ m.attempt = List.replicate n refs.sentinelValue

/-- The warning is down, and the failures are within a bound. -/
def Within (bound : Nat) (m : Recognizer) : Prop := m.warning = false ∧ m.failures ≤ bound

theorem Within.of_noWorse {bound : Nat} {s t : Recognizer} (h : Recognizer.NoWorse s t)
    (hs : Within bound s) : Within bound t := ⟨h.1.trans hs.1, Nat.le_trans h.2 hs.2⟩

/-- **The fifth sentinel value** completes a wrong attempt, which is the first failure since they were
    cleared. -/
theorem step_sentinel_fifth {n : Nat} (hw : m.warning = false) (hzero : m.failures = 0)
    (hn : n + 1 = sequenceLength) :
    let next := (m.collecting (List.replicate n refs.sentinelValue)).step refs
      (Record.data refs.sentinelValue false)
    next.1.warning = false ∧ next.1.failures = 1 ∧ next.1.inAttempt = false ∧
      next.2.unlock = false := by
  have hlen : (List.replicate n refs.sentinelValue).length + 1 = sequenceLength := by
    rw [List.length_replicate, hn]
  have hmem : refs.sentinelValue ∈ List.replicate n refs.sentinelValue ++ [refs.sentinelValue] :=
    List.mem_append_right _ List.mem_cons_self
  have hwrong := refs.isCorrect_eq_false refs.sentinelValue_mem hmem
  have hfirst : Recognizer.countFailure m.failures = 1 := by
    rw [hzero]
    rfl
  rw [Recognizer.step_unmarked_last hw hlen, Recognizer.complete_wrong hwrong]
  refine ⟨?_, hfirst, rfl, rfl⟩
  show (m.warning || decide (lockoutFailures ≤ Recognizer.countFailure m.failures)) = false
  rw [hw, hfirst]
  rfl

/-- One more sentinel value, unmarked. Without an attempt in progress it is ignored; a sentinel attempt
    takes it, and it stays one or ends with a single failure. -/
theorem step_sentinel {bound : Nat} (hbound : 1 ≤ bound) (h : HoldsSentinels refs m) :
    let next := m.step refs (Record.data refs.sentinelValue false)
    (Within bound m → Within bound next.1) ∧ next.2.unlock = false ∧ HoldsSentinels refs next.1 := by
  by_cases hi : m.inAttempt = true
  · obtain ⟨hzero, n, hn, hattempt⟩ := h.attempt hi
    have hm : m = m.collecting (List.replicate n refs.sentinelValue) := by
      rw [← hattempt]
      exact Recognizer.eq_collecting hi
    rcases Nat.lt_or_eq_of_le (Nat.succ_le_of_lt hn) with hlt | heq
    · have hlen : (List.replicate n refs.sentinelValue).length + 1 < sequenceLength := by
        rw [List.length_replicate]
        exact hlt
      rw [hm, Recognizer.step_unmarked_short h.warning hlen, ← List.replicate_succ']
      exact ⟨fun hs => hs, rfl, h.warning, fun _ => ⟨hzero, n + 1, hlt, rfl⟩⟩
    · -- the attempt is over, so that the invariant asks nothing of the failure it left
      obtain ⟨hdown, hone, hover, hquiet⟩ := step_sentinel_fifth h.warning hzero heq
      rw [hm]
      refine ⟨fun _ => ⟨hdown, ?_⟩, hquiet, hdown, fun hin => ?_⟩
      · rw [hone]
        exact hbound
      · exact absurd (hover.symm.trans hin) Bool.false_ne_true
  · rw [Recognizer.step_idle rfl rfl (Bool.not_eq_true _ ▸ hi)]
    exact ⟨fun hs => hs, rfl, h⟩

/-- A raw chunk keeps the invariant: an A chunk clears the failures and opens a sentinel attempt, a B
    chunk is one more sentinel value. -/
theorem raw_chunk (refs : References) (maxDraws : Nat) {bound : Nat} (hbound : 1 ≤ bound)
    (kind : FragmentKind) :
    ChunkLaw refs (fun s t => Within bound s → Within bound t) (HoldsSentinels refs) kind
      ((Filler.ofReferences refs maxDraws).fragment kind) := by
  intro m h
  cases kind with
  | A =>
      have hw : m.warning = false := h.warning
      have hw' : (m.unlocked refs.correct.toList).warning = false := h.warning
      have hc := refs.isCorrect_correct
      have hone : [refs.sentinelValue].length < sequenceLength := (by decide : 1 < sequenceLength)
      have hopen : (m.unlocked refs.correct.toList).run refs (encode [refs.sentinelValue]) =
          ((m.unlocked refs.correct.toList).collecting [refs.sentinelValue], [m.outputs false]) :=
        Recognizer.run_encode_short hw' (List.cons_ne_nil _ _) hone
      -- five values that clear the failures, then a marker that opens an attempt
      have hfirst : Recognizer.Along refs (fun s t => Within bound s → Within bound t) m
          (encode (refs.correct.toList ++ [])) :=
        (Recognizer.along_encode_correct hw hc []).mono fun _ _ => Within.of_noWorse
      have hsecond : Recognizer.Along refs (fun s t => Within bound s → Within bound t)
          (m.unlocked refs.correct.toList) (encode [refs.sentinelValue]) :=
        (Recognizer.along_encode_short hw' hone).mono fun _ _ hsame =>
          Within.of_noWorse (Recognizer.SameCounts.noWorse hsame)
      rw [fragment_A, Recognizer.along_append, Recognizer.run_append,
        Recognizer.run_encode_correct hw hc, hopen]
      exact ⟨⟨hfirst, hsecond⟩, rfl, hw, fun _ => ⟨rfl, 1, by decide, rfl⟩⟩
  | B =>
      obtain ⟨hwithin, hquiet, hkept⟩ := step_sentinel hbound h
      rw [fragment_B, Recognizer.run_cons]
      exact ⟨⟨hwithin, trivial⟩, congrArg (· :: []) hquiet, hkept⟩

theorem isReset_of_mem_records {kinds : List FragmentKind} {r : Record}
    (h : r ∈ ((Filler.ofReferences refs maxDraws).run kinds).records) : r.isReset = false := by
  rw [Filler.records_run] at h
  obtain ⟨kind, -, hr⟩ := List.mem_flatMap.mp h
  exact isReset_of_mem_fragment hr

/-- **Raw filler does nothing while no attempt is in progress.** It keeps the warning at every record,
    and the failures never exceed one, or what they were before; while the warning is down it
    unlocks once per A chunk, and under lockout not at all. However the kinds are dealt out to runs,
    the runs one after the other are the same records. -/
theorem records_inert (refs : References) (maxDraws : Nat) (kinds : List FragmentKind) (m : Recognizer)
    (hq : m.isQuiescent = true) :
    let filler := Filler.ofReferences refs maxDraws
    let records := (filler.run kinds).records
    (∀ k, (m.run refs (records.take k)).1.warning = m.warning ∧
        (m.run refs (records.take k)).1.failures ≤ max m.failures 1) ∧
      (m.run refs records).2.map (·.unlock) =
        (if m.warning then List.replicate records.length false
        else kinds.flatMap FragmentKind.unlocks) ∧
      ∀ runs : List (List FragmentKind), runs.flatten = kinds →
        runs.flatMap (fun kinds => (filler.run kinds).records) = records := by
  intro filler records
  have hflat : records = kinds.flatMap filler.fragment := Filler.records_run filler kinds
  have hdata : ∀ r ∈ records, r.isReset = false := fun _ => isReset_of_mem_records
  have hruns : ∀ runs : List (List FragmentKind), runs.flatten = kinds →
      runs.flatMap (fun kinds => (filler.run kinds).records) = records := by
    intro runs hkinds
    rw [hflat, ← hkinds, List.flatten_eq_flatMap, List.flatMap_assoc]
    simp only [Filler.records_run, id]
  have hlaw : Recognizer.Along refs (fun s t =>
        (s.warning = m.warning ∧ s.failures ≤ max m.failures 1) →
          (t.warning = m.warning ∧ t.failures ≤ max m.failures 1)) m records ∧
      (m.run refs records).2.map (·.unlock) =
        if m.warning then List.replicate records.length false
        else kinds.flatMap FragmentKind.unlocks := by
    rw [hflat] at hdata ⊢
    apply along_filler hdata (fun hs => hs)
    intro hdown
    have hholds : HoldsSentinels refs m := by
      refine ⟨hdown, fun hi => ?_⟩
      rw [Recognizer.isQuiescent, hi] at hq
      exact absurd hq Bool.false_ne_true
    -- with the warning down the two conditions are those of `Within`
    rw [hdown]
    exact ⟨hholds, raw_chunk refs maxDraws (Nat.le_max_right _ _)⟩
  exact ⟨hlaw.1.holds ⟨rfl, Nat.le_max_left _ _⟩, hlaw.2, hruns⟩

/-- The recognizer behind two wrong attempts: one more and it locks out. -/
def twiceWrong : Recognizer :=
  (Recognizer.fresh.run References.default
    (encode [255, 255, 255, 255, 255] ++ encode [36, 19, 56, 101, 74])).1

/-- Four B chunks behind an A chunk complete a wrong attempt, and yet the recognizer never locks out. -/
theorem records_inert_twiceWrong :
    let records := ((Filler.ofReferences References.default 10).run [.A, .B, .B, .B, .B, .A]).records
    twiceWrong.isQuiescent = true ∧ twiceWrong.failures = 2 ∧
      (∀ k, (twiceWrong.run References.default (records.take k)).1.warning = false ∧
        (twiceWrong.run References.default (records.take k)).1.failures ≤ 2) ∧
      (twiceWrong.run References.default records).2.map (·.unlock) =
        [false, false, false, false, true, false, false, false, false, false,
          false, false, false, false, true, false] := by
  have hq : twiceWrong.isQuiescent = true := by decide
  obtain ⟨hcounts, hunlocks, -⟩ :=
    records_inert References.default 10 [.A, .B, .B, .B, .B, .A] twiceWrong hq
  exact ⟨hq, by decide, hcounts, hunlocks⟩

end StimulusBench
