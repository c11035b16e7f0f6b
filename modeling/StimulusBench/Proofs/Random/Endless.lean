import StimulusBench.Assembly
import StimulusBench.Proofs.Sequence.FirstBlock

/-!
# `StimulusBench.Proofs.Random.Endless` — draws that a key stream always answers

A script may run out, and a mask may be drawn again for ever. Neither happens to what a run draws: a key
stream has a word whenever it is asked for one, and a mask is drawn behind a coin that came up, which comes
up again when the stream does, at the latest. So a run has a value for every draw of its stream.

## Contents
- **Chains.** `Draw.Total`, and its closure under the steps of a draw.
- **Draws.** `Mutation.total_draw` and `Composer.total_drawAssembly`.
- **Streams.** `KeyStream.draw`, the value that a stream has for a draw.
-/

namespace StimulusBench

namespace Draw

variable {α β : Type}

/-! ## Chains -/

/-- **A draw that every key stream answers**, and that leaves a key stream. -/
def Total (d : Draw α) : Prop := ∀ s : KeyStream, ∃ a t, d (.keyStream s) = some (a, .keyStream t)

theorem total_pure (a : α) : Total (pure a : Draw α) := fun s => ⟨a, s, rfl⟩

theorem Total.bind {x : Draw α} {f : α → Draw β} (hx : x.Total) (hf : ∀ a, (f a).Total) :
    Total (x >>= f) := by
  intro s
  obtain ⟨a, t, ha⟩ := hx s
  obtain ⟨b, u, hb⟩ := hf a t
  exact ⟨b, u, bind_eq_some_iff.mpr ⟨a, _, ha, hb⟩⟩

theorem total_word32 : Total word32 := fun s => ⟨s.next.1, s.next.2, rfl⟩

theorem total_word64 : Total word64 := fun _ => ⟨_, _, rfl⟩

theorem total_byte : Total byte := total_word32.bind fun _ => total_pure _

theorem total_wordOf (wide : Bool) : Total (wordOf wide) := by
  cases wide with
  | true => exact total_word64.bind fun _ => total_pure _
  | false => exact total_word32.bind fun _ => total_pure _

theorem total_between (low high : Nat) : Total (between low high) := by
  rw [between_eq]
  refine (total_wordOf _).bind fun w => ?_
  unfold scale
  dsimp only
  split
  · exact total_pure _
  · split
    · exact (total_wordOf _).bind fun _ => total_pure _
    · exact total_pure _

theorem Total.five {d : Draw α} (h : d.Total) : Total (five d) :=
  h.bind fun _ => h.bind fun _ => h.bind fun _ => h.bind fun _ => h.bind fun _ => total_pure _

end Draw

/-! ## Draws -/

open Draw

/-- **A mutation can always be drawn.** A mask is drawn only behind a coin that came up, and one period
    later that coin is among those that are flipped for the mask. -/
theorem Mutation.total_draw : Total Mutation.draw := by
  intro s
  cases hcoin : s.coin with
  | false =>
      obtain ⟨values, t, hvalues⟩ := total_byte.five (s.skip 2)
      exact ⟨.noise values, t, bind_eq_some_iff.mpr ⟨false, _, by rw [coin_keyStream, hcoin],
        bind_eq_some_iff.mpr ⟨values, _, hvalues, rfl⟩⟩⟩
  | true =>
      have hagain : (s.skip 2).coinAt (KeyStream.period - 1) = true := by
        rw [KeyStream.coinAt_skip, Nat.sub_add_cancel (by decide), ← Nat.zero_add KeyStream.period,
          KeyStream.coinAt_add_period]
        exact hcoin
      obtain ⟨mask, t, hmask⟩ := Mask.exists_draw_keyStream hagain
      exact ⟨.partialCorruption mask, t, bind_eq_some_iff.mpr ⟨true, _, by rw [coin_keyStream, hcoin],
        bind_eq_some_iff.mpr ⟨mask, _, hmask, rfl⟩⟩⟩

theorem FragmentKind.total_drawMany (n : Nat) (drawn : List FragmentKind) :
    Total (FragmentKind.drawMany n drawn) := by
  induction n generalizing drawn with
  | zero => exact total_pure _
  | succ n ih => exact ((total_between 0 1).bind fun _ => total_pure _).bind fun kind => ih (kind :: drawn)

theorem Filler.total_drawRun (filler : Filler) : Total filler.drawRun :=
  (total_between 1 _).bind fun count => (FragmentKind.total_drawMany count []).bind fun _ => total_pure _

/-- **The scenarios of a corpus can always be drawn.** -/
theorem Composer.total_drawAssembly (composer : Composer) : Total composer.drawAssembly := by
  have hrun := composer.filler.total_drawRun
  have hlockout : Total composer.drawLockout := hrun.bind fun _ => total_pure _
  have hmisplaced : Total composer.drawMisplacedStart :=
    (total_between 1 _).bind fun _ => hrun.bind fun _ => total_pure _
  exact hlockout.bind fun _ => hmisplaced.bind fun _ => total_pure _

/-! ## Streams -/

namespace KeyStream

variable {α : Type}

/-- **The value that a key stream has for a draw**, and the stream behind it. -/
def draw (d : Draw α) (htotal : d.Total) (s : KeyStream) : α × KeyStream :=
  match hdrawn : d (.keyStream s) with
  | some (a, .keyStream t) => (a, t)
  | some (_, .script _) | none => absurd (htotal s) (by rw [hdrawn]; rintro ⟨_, _, ⟨⟩⟩)

variable {d : Draw α} {htotal : d.Total}

theorem apply_eq_draw (s : KeyStream) :
    d (.keyStream s) = some ((s.draw d htotal).1, .keyStream (s.draw d htotal).2) := by
  obtain ⟨_, _, hanswer⟩ := htotal s
  unfold draw
  split
  next hdrawn => exact hdrawn
  next hdrawn => cases hdrawn.symm.trans hanswer
  next hdrawn => cases hdrawn.symm.trans hanswer

end KeyStream

end StimulusBench
