import StimulusBench.Number.Decimal

/-!
# `StimulusBench.Proofs.Number.Numeral` — decimal digits read back

A number is written without superfluous zeros, so that its digits are read back as the number and its
first digit is a zero only if the number is.

## Contents
- **Digits.** `exists_decimal_eq`: digits only, and at least one; `head_decimal_ne_zero`.
- **Reading back.** `ofDigits?_decimal`.
-/

namespace StimulusBench.Numeral

/-! ## Digits -/

theorem decimal_of_lt {n : Nat} (h : n < 10) : decimal n = [Nat.digitChar n] :=
  Nat.toDigits_of_lt_base h

/-- The last digit of a number with several digits stands behind those of the rest. -/
theorem decimal_of_le {n : Nat} (h : 10 ≤ n) :
    decimal n = decimal (n / 10) ++ [Nat.digitChar (n % 10)] := by
  unfold decimal
  rw [Nat.toDigits_eq_if (by decide), if_neg (Nat.not_lt.mpr h)]

theorem decimal_ne_nil (n : Nat) : decimal n ≠ [] := by
  rcases Nat.lt_or_ge n 10 with h | h
  · rw [decimal_of_lt h]
    exact List.cons_ne_nil _ _
  · rw [decimal_of_le h]
    exact List.append_ne_nil_of_right_ne_nil _ (List.cons_ne_nil _ _)

theorem isDigit_of_mem_decimal {n : Nat} {c : Char} (h : c ∈ decimal n) : Decimal.isDigit c = true := by
  have hdigit : c.isDigit = true := Nat.isDigit_of_mem_toDigits (by decide) (by decide) h
  simpa [Decimal.isDigit, Char.isDigit, Char.le_def] using hdigit

theorem ne_of_isDigit {c d : Char} (hc : Decimal.isDigit c = true) (hd : Decimal.isDigit d = false) :
    c ≠ d := by
  rintro rfl
  exact Bool.false_ne_true (hd.symm.trans hc)

/-- The digits of a number, one of them at least. -/
theorem exists_decimal_eq (n : Nat) :
    ∃ c cs, decimal n = c :: cs ∧ Decimal.isDigit c = true ∧ ∀ d ∈ cs, Decimal.isDigit d = true := by
  obtain ⟨c, cs, hcs⟩ := List.exists_cons_of_ne_nil (decimal_ne_nil n)
  have hall : ∀ d ∈ c :: cs, Decimal.isDigit d = true := fun d hd =>
    isDigit_of_mem_decimal (hcs ▸ hd : d ∈ decimal n)
  exact ⟨c, cs, hcs, List.forall_mem_cons.mp hall⟩

/-- **No superfluous zero.** A positive number does not start with one. -/
theorem head_decimal_ne_zero {n : Nat} (h : 0 < n) {c : Char} {cs : List Char}
    (heq : decimal n = c :: cs) : c ≠ '0' := by
  induction n using Nat.strongRecOn generalizing cs with
  | ind n ih =>
      rcases Nat.lt_or_ge n 10 with hn | hn
      · rw [decimal_of_lt hn] at heq
        obtain ⟨rfl, -⟩ := List.cons.inj heq
        exact (by decide : ∀ d < 10, 0 < d → Nat.digitChar d ≠ '0') n hn h
      · rw [decimal_of_le hn] at heq
        obtain ⟨d, ds, hrest⟩ := List.exists_cons_of_ne_nil (decimal_ne_nil (n / 10))
        rw [hrest, List.cons_append] at heq
        obtain ⟨rfl, -⟩ := List.cons.inj heq
        exact ih (n / 10) (by omega) (by omega) hrest

/-! ## Reading back -/

theorem digitValue?_digitChar {d : Nat} (h : d < 10) :
    digitValue? 10 (Nat.digitChar d) = some d := by
  revert d
  decide

theorem foldDigits?_append (radix acc : Nat) (xs ys : List Char) :
    foldDigits? radix acc (xs ++ ys) =
      (foldDigits? radix acc xs).bind fun v => foldDigits? radix v ys := by
  induction xs generalizing acc with
  | nil => rfl
  | cons c cs ih =>
      rw [List.cons_append, foldDigits?, foldDigits?]
      cases digitValue? radix c with
      | none => rfl
      | some d => exact ih _

theorem foldDigits?_decimal (n : Nat) : foldDigits? 10 0 (decimal n) = some n := by
  induction n using Nat.strongRecOn with
  | ind n ih =>
      rcases Nat.lt_or_ge n 10 with h | h
      · rw [decimal_of_lt h, foldDigits?, digitValue?_digitChar h]
        simp [foldDigits?]
      · have hlast : n % 10 < 10 := Nat.mod_lt n (by decide)
        rw [decimal_of_le h, foldDigits?_append, ih (n / 10) (by omega), Option.bind_some, foldDigits?,
          digitValue?_digitChar hlast]
        show some (n / 10 * 10 + n % 10) = some n
        rw [Nat.div_add_mod']

/-- **The digits of a number** are read back as the number. -/
theorem ofDigits?_decimal (n : Nat) : ofDigits? 10 (decimal n) = some n := by
  obtain ⟨c, cs, hcs, -⟩ := exists_decimal_eq n
  rw [hcs, ofDigits?, ← hcs, foldDigits?_decimal]

end StimulusBench.Numeral
