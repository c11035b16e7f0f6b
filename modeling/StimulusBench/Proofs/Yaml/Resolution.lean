import StimulusBench.Proofs.Number.Numeral
import StimulusBench.Yaml.Resolution

/-!
# `StimulusBench.Proofs.Yaml.Resolution` — a plain numeral stands for its number

The digits of a number, as a plain scalar without tag, are no word and have no superfluous zero, so that
they stand for the number they are the digits of.

## Contents
- **Words.** A text that starts with a digit spells neither null nor a truth value.
- **Numbers.** `wholeNumber?_decimal`, and `resolve_decimal` for numbers of 64 bits.
-/

namespace StimulusBench.Yaml

open Numeral (decimal)

/-! ## Words -/

theorem ofList_ne_of_isDigit {c d : Char} (cs ds : List Char) (hc : Decimal.isDigit c = true)
    (hd : Decimal.isDigit d = false) : String.ofList (c :: cs) ≠ String.ofList (d :: ds) := by
  intro heq
  rw [(List.cons.inj (String.ofList_injective heq)).1, hd] at hc
  exact Bool.false_ne_true hc

theorem nullWord_of_isDigit {c : Char} (cs : List Char) (h : Decimal.isDigit c = true) :
    nullWord (String.ofList (c :: cs)) = false := by
  have hne := fun d ds => ofList_ne_of_isDigit (d := d) cs ds h
  simp only [nullWord, Bool.or_eq_false_iff, decide_eq_false_iff_not]
  exact ⟨⟨⟨hne 'n' _ rfl, hne 'N' _ rfl⟩, hne 'N' _ rfl⟩, hne '~' _ rfl⟩

theorem boolWord?_of_isDigit {c : Char} (cs : List Char) (h : Decimal.isDigit c = true) :
    boolWord? (String.ofList (c :: cs)) = none := by
  have hne := fun d ds => ofList_ne_of_isDigit (d := d) cs ds h
  unfold boolWord?
  rw [if_neg, if_neg]
  · rintro (h | h | h)
    · exact hne 'f' _ rfl h
    · exact hne 'F' _ rfl h
    · exact hne 'F' _ rfl h
  · rintro (h | h | h)
    · exact hne 't' _ rfl h
    · exact hne 'T' _ rfl h
    · exact hne 'T' _ rfl h

/-! ## Numbers -/

theorem magnitude?_decimal (n : Nat) : magnitude? (decimal n) = some n := by
  rcases Nat.eq_zero_or_pos n with rfl | hn
  · rfl
  obtain ⟨c, cs, hcs, -⟩ := Numeral.exists_decimal_eq n
  have hc : c ≠ '0' := Numeral.head_decimal_ne_zero hn hcs
  have hread : Numeral.ofDigits? 10 (c :: cs) = some n := by rw [← hcs, Numeral.ofDigits?_decimal]
  have hpad : zeroPadded (c :: cs) = false := by
    unfold zeroPadded
    split
    · exact absurd (List.cons.inj ‹_›).1 hc
    · rfl
  rw [hcs]
  unfold magnitude?
  split
  · exact absurd (List.cons.inj ‹_›).1 hc
  · exact absurd (List.cons.inj ‹_›).1 hc
  · exact absurd (List.cons.inj ‹_›).1 hc
  · rw [hpad]
    exact hread

theorem wholeNumber?_decimal (n : Nat) : wholeNumber? (decimal n) = some ⟨false, n⟩ := by
  obtain ⟨c, cs, hcs, hdigit, -⟩ := Numeral.exists_decimal_eq n
  have hread : magnitude? (c :: cs) = some n := hcs ▸ magnitude?_decimal n
  rw [hcs]
  unfold wholeNumber?
  split
  next ds heq =>
    rw [(List.cons.inj heq).1] at hdigit
    exact absurd hdigit (by decide)
  next ds heq =>
    rw [(List.cons.inj heq).1] at hdigit
    exact absurd hdigit (by decide)
  next =>
    rw [hread]
    rfl

/-- **The digits of a number of 64 bits** stand for the number. -/
theorem resolve_decimal {n : Nat} (h : n < 1 <<< 64) :
    resolve none (decimal n) .plain = .ok (.natural n) := by
  obtain ⟨c, cs, hcs, hdigit, -⟩ := Numeral.exists_decimal_eq n
  have hnumber : (wholeNumber? (decimal n)).bind resolveWhole = some (.ok (.natural n)) := by
    rw [wholeNumber?_decimal, Option.bind_some, resolveWhole, if_neg Bool.false_ne_true]
    exact if_pos h
  show resolvePlain (decimal n) = _
  rw [hcs] at hnumber ⊢
  unfold resolvePlain
  dsimp only
  rw [nullWord_of_isDigit cs hdigit, boolWord?_of_isDigit cs hdigit, hnumber]
  rfl

end StimulusBench.Yaml
