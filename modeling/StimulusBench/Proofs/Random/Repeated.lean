import StimulusBench.Proofs.Random.Draw
import StimulusBench.Sequence.Mutation

/-!
# `StimulusBench.Proofs.Random.Repeated` — the same draw several times

A source is read from front to back: drawing `m + n` times is drawing `m` times and then, from the source
that is left, `n` times. This gives the coins of a source as a list, as long as the source lasts.

## Contents
- **Repetition.** `Draw.times`, its two equivalences `times_succ_eq_some_iff` and
  `times_add_eq_some_iff`, and `five_eq_some_iff` for five draws in a vector.
- **Scripts.** `Draw.times_coin_script`: a script has one coin per word.
-/

namespace StimulusBench

namespace Draw

variable {α : Type} {draw : Draw α} {source rest : RandomSource}

/-! ## Repetition -/

/-- So many draws, each from the source that the one before it left. -/
def times (draw : Draw α) : Nat → Draw (List α)
  | 0 => return []
  | n + 1 => do
    let a ← draw
    return a :: (← times draw n)

theorem pure_apply (a : α) (source : RandomSource) : (pure a : Draw α) source = some (a, source) := rfl

/-- A draw in two parts, as a function of the source. -/
theorem bind_apply {β : Type} (x : Draw α) (f : α → Draw β) (source : RandomSource) :
    (x >>= f) source = (x source).bind fun drawn => f drawn.1 drawn.2 := rfl

theorem times_zero_eq_some_iff {as : List α} :
    times draw 0 source = some (as, rest) ↔ as = [] ∧ source = rest := by
  show (pure [] : Draw (List α)) source = _ ↔ _
  rw [pure_eq_some_iff, eq_comm]

theorem times_succ_eq_some_iff {n : Nat} {as : List α} :
    times draw (n + 1) source = some (as, rest) ↔
      ∃ a between, draw source = some (a, between) ∧
        ∃ more, times draw n between = some (more, rest) ∧ as = a :: more := by
  rw [times, bind_eq_some_iff]
  constructor
  · rintro ⟨a, between, ha, h⟩
    obtain ⟨more, behind, hmore, h⟩ := bind_eq_some_iff.mp h
    obtain ⟨rfl, rfl⟩ := pure_eq_some_iff.mp h
    exact ⟨a, between, ha, more, hmore, rfl⟩
  · rintro ⟨a, between, ha, more, hmore, rfl⟩
    exact ⟨a, between, ha, bind_eq_some_iff.mpr ⟨more, rest, hmore, pure_eq_some_iff.mpr ⟨rfl, rfl⟩⟩⟩

theorem length_of_times {n : Nat} {as : List α} (h : times draw n source = some (as, rest)) :
    as.length = n := by
  induction n generalizing source as with
  | zero => simp [(times_zero_eq_some_iff.mp h).1]
  | succ n ih =>
      obtain ⟨a, between, -, more, hmore, rfl⟩ := times_succ_eq_some_iff.mp h
      simp [ih hmore]

/-- **Drawing in two goes** is drawing in one. -/
theorem times_add_eq_some_iff {m n : Nat} {as : List α} :
    times draw (m + n) source = some (as, rest) ↔
      ∃ first between, times draw m source = some (first, between) ∧
        ∃ second, times draw n between = some (second, rest) ∧ as = first ++ second := by
  induction m generalizing source as with
  | zero =>
      rw [Nat.zero_add]
      constructor
      · intro h
        exact ⟨[], source, times_zero_eq_some_iff.mpr ⟨rfl, rfl⟩, as, h, rfl⟩
      · rintro ⟨first, between, hfirst, second, hsecond, rfl⟩
        obtain ⟨rfl, rfl⟩ := times_zero_eq_some_iff.mp hfirst
        exact hsecond
  | succ m ih =>
      rw [Nat.succ_add, times_succ_eq_some_iff]
      constructor
      · rintro ⟨a, between, ha, more, hmore, rfl⟩
        obtain ⟨first, behind, hfirst, second, hsecond, rfl⟩ := ih.mp hmore
        have hcons := times_succ_eq_some_iff.mpr ⟨a, between, ha, first, hfirst, rfl⟩
        exact ⟨a :: first, behind, hcons, second, hsecond, rfl⟩
      · rintro ⟨front, behind, hfront, second, hsecond, rfl⟩
        obtain ⟨a, between, ha, first, hfirst, rfl⟩ := times_succ_eq_some_iff.mp hfront
        exact ⟨a, between, ha, first ++ second, ih.mpr ⟨first, behind, hfirst, second, hsecond, rfl⟩, rfl⟩

theorem toList_map_five (draw : Draw α) : Vector.toList <$> five draw = times draw sequenceLength := by
  simp only [five, times, map_bind, map_pure, bind_assoc, pure_bind]
  rfl

/-- **Five draws** in a vector are five draws in a list. -/
theorem five_eq_some_iff {v : Vector α sequenceLength} :
    five draw source = some (v, rest) ↔ times draw sequenceLength source = some (v.toList, rest) := by
  rw [← toList_map_five, map_eq_pure_bind, bind_eq_some_iff]
  constructor
  · intro h
    exact ⟨v, rest, h, pure_eq_some_iff.mpr ⟨rfl, rfl⟩⟩
  · rintro ⟨w, between, hw, h⟩
    obtain ⟨hlist, rfl⟩ := pure_eq_some_iff.mp h
    rw [hw, Vector.toList_inj.mp hlist]

/-! ## Scripts -/

/-- The coin that a word stands for. -/
def coinOf (word : UInt64) : Bool := word.toNat < 1 <<< 63

/-- **A script has one coin per word.** -/
theorem times_coin_script (n : Nat) (words : List UInt64) :
    times coin n (.script words) =
      if n ≤ words.length then some ((words.take n).map coinOf, .script (words.drop n)) else none := by
  induction n generalizing words with
  | zero => simp [times, pure_apply]
  | succ n ih =>
      cases words with
      | nil => rfl
      | cons w ws =>
          have hfirst : coin (.script (w :: ws)) = some (coinOf w, .script ws) := rfl
          rw [times, bind_apply, hfirst, Option.bind_some, bind_apply, ih]
          by_cases hn : n ≤ ws.length
          · simp [hn, pure_apply]
          · simp [hn]

end Draw

end StimulusBench
