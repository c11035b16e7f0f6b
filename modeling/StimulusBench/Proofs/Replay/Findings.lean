import Mathlib.Data.List.Sort
import StimulusBench.Proofs.Replay

/-!
# `StimulusBench.Proofs.Replay.Findings` — what a replay finds, position by position

The report of a replay is read off the run as a whole. Here it is said of every single position: what a
replay finds there depends on the record at the position and on the outputs of the one step that takes it,
from the state behind the records in front of it. The mismatches are these findings and no others, each at
its own position, in the order of the positions; and a stream that is replayed piece by piece gives the
findings of the pieces, moved to where the pieces stand.

## Contents
- **Mismatches.** `mem_mismatches_iff`, `pairwise_mismatches`: which there are, and in what order.
- **Findings.** `Recognizer.Unmet`, an assertion that the step at its position does not meet.
- **Replays.** `replay_exact_in_pieces`.
-/

namespace StimulusBench

/-! ## Mismatches -/

theorem Record.mismatch?_eq_some_iff {index : Nat} {r : Record} {o : Outputs} {x : Mismatch} :
    r.mismatch? index o = some x ↔
      index = x.index ∧ r.extra = some x.expected ∧ x.actual = o.assertion ∧ x.actual ≠ x.expected := by
  obtain ⟨position, expected, actual⟩ := x
  unfold Record.mismatch?
  cases r.extra with
  | none => simp
  | some asserted =>
      dsimp only
      constructor
      · intro h
        split at h
        next => cases h
        next hne =>
          cases h
          exact ⟨rfl, rfl, rfl, hne⟩
      · rintro ⟨rfl, hasserted, rfl, hne⟩
        cases hasserted
        rw [if_neg hne]

/-- **The mismatches** are the assertions that the outputs at the same position do not meet. -/
theorem mem_mismatches_iff {records : List Record} {outputs : List Outputs} {x : Mismatch} :
    x ∈ mismatches 0 records outputs ↔
      ∃ r o, records[x.index]? = some r ∧ outputs[x.index]? = some o ∧ r.extra = some x.expected ∧
        x.actual = o.assertion ∧ x.actual ≠ x.expected := by
  rw [mismatches, List.mem_filterMap]
  constructor
  · rintro ⟨⟨⟨r, o⟩, index⟩, hp, hx⟩
    obtain ⟨rfl, hfound⟩ := Record.mismatch?_eq_some_iff.mp hx
    obtain ⟨hr, ho⟩ := List.getElem?_zip_eq_some.mp (List.mk_mem_zipIdx_iff_getElem?.mp hp)
    exact ⟨r, o, hr, ho, hfound⟩
  · rintro ⟨r, o, hr, ho, hfound⟩
    refine ⟨((r, o), x.index), ?_, Record.mismatch?_eq_some_iff.mpr ⟨rfl, hfound⟩⟩
    exact List.mk_mem_zipIdx_iff_getElem?.mpr (List.getElem?_zip_eq_some.mpr ⟨hr, ho⟩)

/-- **The mismatches stand in order**, one at most for each position. -/
theorem pairwise_mismatches (index : Nat) (records : List Record) (outputs : List Outputs) :
    (mismatches index records outputs).Pairwise fun x y => x.index < y.index := by
  have hpositions : ((records.zip outputs).zipIdx index).Pairwise fun p q => p.2 < q.2 := by
    rw [← List.pairwise_map, List.zipIdx_map_snd]
    exact List.pairwise_lt_range'
  refine hpositions.filterMap _ ?_
  intro p q hpq x hx y hy
  rw [← (Record.mismatch?_eq_some_iff.mp hx).1, ← (Record.mismatch?_eq_some_iff.mp hy).1]
  exact hpq

namespace Recognizer

/-! ## Findings -/

/-- **An assertion that is not met**: the record at a position of a stream asserts something else than the
    recognizer shows there, having taken the records in front of it one after the other. -/
structure Unmet (refs : ReferencePair) (m : Recognizer) (records : List Record) (x : Mismatch) :
    Prop where
  shown : ∃ r, records[x.index]? = some r ∧ r.extra = some x.expected ∧
    x.actual = ((m.run refs (records.take x.index)).1.step refs r).2.assertion
  differs : x.actual ≠ x.expected

variable {refs : ReferencePair} {m : Recognizer} {records : List Record}

theorem unmet_iff {x : Mismatch} :
    Unmet refs m records x ↔
      ∃ r o, records[x.index]? = some r ∧ (m.run refs records).2[x.index]? = some o ∧
        r.extra = some x.expected ∧ x.actual = o.assertion ∧ x.actual ≠ x.expected := by
  constructor
  · rintro ⟨⟨r, hr, hasserted, hactual⟩, hdiffers⟩
    refine ⟨r, _, hr, ?_, hasserted, hactual, hdiffers⟩
    rw [run_outputs_getElem?, hr, Option.map_some]
  · rintro ⟨r, o, hr, ho, hasserted, hactual, hdiffers⟩
    rw [run_outputs_getElem?, hr, Option.map_some, Option.some.injEq] at ho
    exact ⟨⟨r, hr, hasserted, ho ▸ hactual⟩, hdiffers⟩

/-- **A replay lists the assertions that are not met**, and no others. -/
theorem mem_replay_mismatches_iff {x : Mismatch} :
    x ∈ (m.replay refs records).2.mismatches ↔ Unmet refs m records x := by
  rw [replay_eq, mem_mismatches_iff, unmet_iff]

theorem pairwise_replay_mismatches (refs : ReferencePair) (m : Recognizer) (records : List Record) :
    (m.replay refs records).2.mismatches.Pairwise fun x y => x.index < y.index := by
  rw [replay_eq]
  exact pairwise_mismatches 0 records _

/-- **The list of findings** is determined by what is found and by its order. -/
theorem replay_mismatches_eq {found : List Mismatch} (hfound : ∀ x, Unmet refs m records x ↔ x ∈ found)
    (hordered : found.Pairwise fun x y => x.index < y.index) :
    (m.replay refs records).2.mismatches = found := by
  have hirrefl : Std.Irrefl fun x y : Mismatch => x.index < y.index := ⟨fun x => Nat.lt_irrefl x.index⟩
  have hantisymm : Std.Antisymm fun x y : Mismatch => x.index < y.index :=
    ⟨fun _ _ hlt hgt => absurd hgt (Nat.lt_asymm hlt)⟩
  exact (pairwise_replay_mismatches refs m records).eq_of_mem_iff hordered fun x =>
    mem_replay_mismatches_iff.trans (hfound x)

theorem passed_replay_iff : (m.replay refs records).2.passed = true ↔ ∀ x, ¬ Unmet refs m records x := by
  rw [Report.passed, List.isEmpty_iff, List.eq_nil_iff_forall_not_mem]
  exact forall_congr' fun x => not_congr mem_replay_mismatches_iff

/-- Nothing is unmet exactly if every step meets what its record asserts. -/
theorem forall_not_unmet_iff :
    (∀ x, ¬ Unmet refs m records x) ↔
      ∀ (k : Nat) (r : Record), records[k]? = some r →
        r.Met ((m.run refs (records.take k)).1.step refs r).2 := by
  constructor
  · intro h k r hr a ha
    exact Decidable.byContradiction fun hne => h ⟨k, a, _⟩ ⟨⟨r, hr, ha, rfl⟩, hne⟩
  · rintro h x ⟨⟨r, hr, hasserted, hactual⟩, hdiffers⟩
    exact hdiffers (hactual.trans (h x.index r hr _ hasserted))

/-! ## Replays -/

/-- **A replay is exact, and can be made in pieces.** From any state, two streams that are replayed one
    after the other end where their concatenation ends, and its report is the sum of theirs, with the
    mismatches of the second stream moved behind the first. A single replay ends where the records lead one
    by one; it counts them, their assertions and the unlocks, tells the warning at the end, and lists, in the
    order of their positions, exactly the assertions that the step at their position does not meet. It
    passes exactly if every step meets the assertion of its record. -/
theorem replay_exact_in_pieces (refs : ReferencePair) (m : Recognizer) :
    (∀ xs ys : List Record,
      let first := m.replay refs xs
      let second := first.1.replay refs ys
      m.replay refs (xs ++ ys) =
        (second.1,
          { steps := first.2.steps + second.2.steps
            assertions := first.2.assertions + second.2.assertions
            unlocks := first.2.unlocks + second.2.unlocks
            finalWarning := second.2.finalWarning
            mismatches := first.2.mismatches ++
              second.2.mismatches.map fun x => { x with index := xs.length + x.index } })) ∧
    ∀ records : List Record,
      let behind := (m.replay refs records).1
      let report := (m.replay refs records).2
      behind = (m.run refs records).1 ∧
        report.steps = records.length ∧
        report.assertions = records.countP (·.extra.isSome) ∧
        report.unlocks = (m.run refs records).2.countP (·.unlock) ∧
        report.finalWarning = behind.warning ∧
        report.mismatches.Pairwise (fun x y => x.index < y.index) ∧
        (∀ x, x ∈ report.mismatches ↔ Unmet refs m records x) ∧
        (report.passed = true ↔
          ∀ (k : Nat) (r : Record), records[k]? = some r →
            r.Met ((m.run refs (records.take k)).1.step refs r).2) := by
  constructor
  · intro xs ys first second
    have hsteps : (m.replay refs xs).2.steps = xs.length := by rw [replay_eq]
    rw [replay_append, Report.followedBy, hsteps]
    rfl
  · intro records behind report
    have hreplay := replay_eq refs m records
    refine ⟨congrArg Prod.fst hreplay, ?_, ?_, ?_, ?_, pairwise_replay_mismatches refs m records,
      fun _ => mem_replay_mismatches_iff, passed_replay_iff.trans forall_not_unmet_iff⟩
    all_goals simp only [behind, report, hreplay]

end Recognizer

end StimulusBench
