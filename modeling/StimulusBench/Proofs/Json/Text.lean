import Mathlib.Data.List.Forall2
import StimulusBench.Json.Reader
import StimulusBench.Proofs.Number.Numeral

/-!
# `StimulusBench.Proofs.Json.Text` — JSON texts that are read back

What a reader makes of a text depends on what is ahead of its cursor; where the cursor is only shows up in
faults. So a text is said to be read as a value if it is from any cursor with the text ahead of it, in front
of anything that does not go on with a number. Lists and objects are read as the values of their items and
members, whatever blanks stand between them, and a text that is read as a value is parsed as that value.

## Contents
- **Blanks.** `skipBlanks_rest`, `skipBlanks_skipBlanks`.
- **Numbers and words.** `number_decimal`, `ident_rest`, `string_rest`.
- **Values.** `Reads`; `Reads.indent`, `reads_number`, `reads_bool`.
- **Lists and objects.** `reads_list` for items behind commas, `reads_object` for members.
- **Whole texts.** `parse_of_reads`.
-/

namespace StimulusBench.Json

namespace Cursor

/-- A reading step succeeds with a value and leaves the given text ahead. -/
def Gives {α : Type} (x : Except Fault (α × Cursor)) (a : α) (rest : List Char) : Prop :=
  ∃ cur, x = .ok (a, cur) ∧ cur.rest = rest

variable {cur : Cursor} {bs cs rest : List Char} {c : Char} {size depth fuel : Nat}

theorem rest_skip (cur : Cursor) (c : Char) (rest : List Char) : (cur.skip c rest).rest = rest := rfl

/-! ## Blanks -/

/-- Nothing but blanks. -/
def Blank (bs : List Char) : Prop := ∀ b ∈ bs, isBlank b = true

-- The instance is named, or all characters might be gone through instead of those of the list.
instance : Decidable (Blank bs) := List.decidableBAll (isBlank · = true) bs

/-- Whether what is ahead starts with a character that is no blank, or ends. -/
def startsSolid : List Char → Bool
  | [] => true
  | c :: _ => !isBlank c

theorem skipBlanks_of_solid (h : startsSolid cur.rest = true) : cur.skipBlanks = cur := by
  obtain ⟨rest, p⟩ := cur
  cases rest with
  | nil => rfl
  | cons c cs =>
      have hc : isBlank c = false := by simpa [startsSolid] using h
      rw [skipBlanks, blanksFrom, if_neg (by simp [hc])]

/-- Behind blanks the cursor goes where it goes without them. -/
theorem exists_skipBlanks_eq (hbs : Blank bs) (h : cur.rest = bs ++ cs) :
    ∃ cur' : Cursor, cur'.rest = cs ∧ cur.skipBlanks = cur'.skipBlanks := by
  induction bs generalizing cur with
  | nil => exact ⟨cur, h, rfl⟩
  | cons b bs ih =>
      obtain ⟨hb, hbs⟩ := List.forall_mem_cons.mp hbs
      obtain ⟨cur', hcur', hsame⟩ := ih hbs (rest_skip cur b (bs ++ cs))
      refine ⟨cur', hcur', ?_⟩
      rw [← hsame, skipBlanks, h, List.cons_append, blanksFrom, if_pos hb]
      rfl

/-- **Blanks are skipped**, up to the first character that is none. -/
theorem skipBlanks_rest (hbs : Blank bs) (hcs : startsSolid cs = true) (h : cur.rest = bs ++ cs) :
    cur.skipBlanks.rest = cs := by
  obtain ⟨cur', hcur', hsame⟩ := exists_skipBlanks_eq hbs h
  rw [hsame, skipBlanks_of_solid (by rw [hcur', hcs]), hcur']

theorem startsSolid_blanksFrom (cs : List Char) (p : Position) :
    startsSolid (blanksFrom cs p).rest = true := by
  induction cs generalizing p with
  | nil => rfl
  | cons c cs ih =>
      rw [blanksFrom]
      split
      next => exact ih _
      next hc => simpa [startsSolid] using hc

/-- There is nothing to skip behind the blanks. -/
theorem skipBlanks_skipBlanks (cur : Cursor) : cur.skipBlanks.skipBlanks = cur.skipBlanks :=
  skipBlanks_of_solid (startsSolid_blanksFrom cur.rest cur.position)

/-! ## Numbers and words -/

/-- Whether a number ends where this is ahead. -/
def endsNumber : List Char → Bool
  | [] => true
  | c :: _ => !Decimal.isDigit c && c != '.' && c != 'e' && c != 'E'

theorem endsNumber_of_isBlank (h : isBlank c = true) : endsNumber (c :: cs) = true := by
  simp only [isBlank, Bool.or_eq_true, decide_eq_true_eq] at h
  rcases h with ((rfl | rfl) | rfl) | rfl <;> rfl

/-- Blanks end a number, and so does a character behind them that does. -/
theorem endsNumber_append (hbs : Blank bs) (hcs : endsNumber cs = true) : endsNumber (bs ++ cs) = true := by
  cases bs with
  | nil => exact hcs
  | cons b bs => exact endsNumber_of_isBlank (hbs b List.mem_cons_self)

theorem isDigit_iff : Decimal.isDigit c = true ↔ '0' ≤ c ∧ c ≤ '9' := by
  simp [Decimal.isDigit]

/-- Where a number has ended there are no more digits. -/
theorem digits_of_endsNumber (hrest : endsNumber rest = true) (acc count : Nat) (p : Position) :
    digits acc count rest p = (acc, count, ⟨rest, p⟩) := by
  cases rest with
  | nil => rfl
  | cons c cs =>
      simp only [endsNumber, Bool.and_eq_true, Bool.not_eq_true'] at hrest
      rw [digits, if_neg (by rw [← isDigit_iff, hrest.1.1.1]; exact Bool.false_ne_true)]

theorem digitValue?_of_isDigit (hc : Decimal.isDigit c = true) :
    Numeral.digitValue? 10 c = some (c.toNat - '0'.toNat) := by
  have hrange := isDigit_iff.mp hc
  have hsmall : c.toNat - '0'.toNat < 10 := by
    have hle : c.toNat ≤ '9'.toNat := hrange.2
    have hnine : '9'.toNat = '0'.toNat + 9 := rfl
    omega
  rw [Numeral.digitValue?, if_pos hrange]
  exact Option.filter_eq_some_iff.mpr ⟨rfl, decide_eq_true hsmall⟩

/-- More digits do not make a number smaller. -/
theorem le_of_foldDigits? {radix acc v : Nat} {ds : List Char} (hradix : 0 < radix)
    (h : Numeral.foldDigits? radix acc ds = some v) : acc ≤ v := by
  induction ds generalizing acc with
  | nil => exact Nat.le_of_eq (Option.some.inj h)
  | cons d ds ih =>
      rw [Numeral.foldDigits?] at h
      split at h
      next value _ =>
        calc acc ≤ acc * radix := Nat.le_mul_of_pos_right acc hradix
          _ ≤ acc * radix + value := Nat.le_add_right _ _
          _ ≤ v := ih h
      next => cases h

/-- **Digits below a bound** are all taken, if their value is below it. -/
theorem digitsBelow_append {bound acc v : Nat} {ds : List Char}
    (hds : ∀ d ∈ ds, Decimal.isDigit d = true) (hvalue : Numeral.foldDigits? 10 acc ds = some v)
    (hv : v < bound) (hrest : endsNumber rest = true) (count : Nat) (p : Position) :
    ∃ p', digitsBelow bound acc count (ds ++ rest) p = (v, count + ds.length, ⟨rest, p'⟩) := by
  induction ds generalizing acc count p with
  | nil =>
      cases hvalue
      refine ⟨p, ?_⟩
      cases rest with
      | nil => rfl
      | cons c cs =>
          simp only [endsNumber, Bool.and_eq_true, Bool.not_eq_true'] at hrest
          rw [List.nil_append, digitsBelow, if_neg, List.length_nil, Nat.add_zero]
          rintro ⟨hlow, hhigh, -⟩
          exact absurd (isDigit_iff.mpr ⟨hlow, hhigh⟩) (by rw [hrest.1.1.1]; exact Bool.false_ne_true)
  | cons d ds ih =>
      obtain ⟨hd, hds⟩ := List.forall_mem_cons.mp hds
      rw [Numeral.foldDigits?, digitValue?_of_isDigit hd] at hvalue
      have hbound : acc * 10 + (d.toNat - '0'.toNat) < bound :=
        Nat.lt_of_le_of_lt (le_of_foldDigits? (by decide) hvalue) hv
      obtain ⟨p', hp'⟩ := ih hds hvalue (count + 1) (after p d)
      refine ⟨p', ?_⟩
      rw [List.cons_append, digitsBelow,
        if_pos ⟨(isDigit_iff.mp hd).1, (isDigit_iff.mp hd).2, hbound⟩, hp', List.length_cons,
        Nat.add_assoc, Nat.add_comm 1]

/-- **A number** is read back from its digits, if it fits a word. -/
theorem number_decimal {n : Nat} (hn : n < 1 <<< 64) (hrest : endsNumber rest = true)
    (h : cur.rest = Numeral.decimal n ++ rest) : Gives (number false cur) (.int n) rest := by
  obtain ⟨c, cs, hcs, hc, hdigits⟩ := Numeral.exists_decimal_eq n
  rw [hcs, List.cons_append] at h
  -- a zero is taken alone, any other number with all its digits
  have hhead : ∃ p', (if c = '0' then (0, 1, cur.skip c (cs ++ rest))
      else digitsBelow (1 <<< 64) 0 0 (c :: (cs ++ rest)) cur.position) =
        (n, (c :: cs).length, ⟨rest, p'⟩) := by
    by_cases hzero : c = '0'
    · have hn0 : n = 0 := by
        refine Nat.eq_zero_of_not_pos fun hpos => ?_
        exact Numeral.head_decimal_ne_zero hpos hcs hzero
      subst hn0
      obtain ⟨-, rfl⟩ := List.cons.inj (hcs.symm.trans (Numeral.decimal_of_lt (by decide)))
      rw [if_pos hzero]
      exact ⟨_, rfl⟩
    · obtain ⟨p', hp'⟩ := digitsBelow_append (List.forall_mem_cons.mpr ⟨hc, hdigits⟩)
        (hcs ▸ Numeral.foldDigits?_decimal n) hn hrest 0 cur.position
      rw [if_neg hzero]
      rw [Nat.zero_add] at hp'
      exact ⟨p', hp'⟩
  obtain ⟨p', hhead⟩ := hhead
  refine ⟨⟨rest, p'⟩, ?_, rfl⟩
  unfold number
  rw [h]
  dsimp only
  rw [if_pos (isDigit_iff.mp hc), hhead]
  dsimp only
  rw [digits_of_endsNumber hrest]
  cases rest with
  | nil => simp [whole]
  | cons r rs =>
      simp only [endsNumber, Bool.and_eq_true, Bool.not_eq_true', bne_iff_ne] at hrest
      obtain ⟨⟨⟨hdigit, hpoint⟩, hlower⟩, hupper⟩ := hrest
      have hnone : ¬ ('0' ≤ r ∧ r ≤ '9') := by
        rw [← isDigit_iff, hdigit]
        exact Bool.false_ne_true
      rw [if_neg (by simp [hnone])]
      dsimp only
      split
      next heq => exact absurd (List.cons.inj heq).1 hpoint
      next heq => exact absurd (List.cons.inj heq).1 hlower
      next heq => exact absurd (List.cons.inj heq).1 hupper
      next => rw [if_pos rfl]; rfl

/-- **A word** is read letter by letter. -/
theorem ident_rest {letters : List Char} (h : cur.rest = letters ++ rest) :
    ∃ cur', ident letters cur = .ok cur' ∧ cur'.rest = rest := by
  induction letters generalizing cur with
  | nil => exact ⟨cur, rfl, h⟩
  | cons e es ih =>
      rw [ident, h]
      dsimp only [List.cons_append]
      rw [if_pos rfl]
      exact ih rfl

/-- Characters that stand for themselves in a string. -/
def Plain (cs : List Char) : Prop := ∀ c ∈ cs, c ≠ '\x22' ∧ c ≠ '\\' ∧ 32 ≤ c.toNat

instance : Decidable (Plain cs) :=
  List.decidableBAll (fun c => c ≠ '\x22' ∧ c ≠ '\\' ∧ 32 ≤ c.toNat) cs

/-- **A string** of characters that stand for themselves is read up to its closing quote. -/
theorem string_rest (hcs : Plain cs) (hfuel : cs.length < fuel) (acc : List Char)
    (h : cur.rest = cs ++ '\x22' :: rest) :
    Gives (string fuel acc cur) (String.ofList (acc.reverse ++ cs)) rest := by
  induction cs generalizing fuel acc cur with
  | nil =>
      obtain ⟨fuel, rfl⟩ : ∃ f, fuel = f + 1 := Nat.exists_eq_add_one.mpr hfuel
      refine ⟨cur.skip '\x22' rest, ?_, rfl⟩
      rw [string, h, List.append_nil]
      rfl
  | cons c cs ih =>
      obtain ⟨⟨hquote, hescape, hcontrol⟩, hplain⟩ := List.forall_mem_cons.mp hcs
      rw [List.length_cons] at hfuel
      obtain ⟨fuel, rfl⟩ : ∃ f, fuel = f + 1 := Nat.exists_eq_add_one.mpr (Nat.zero_lt_of_lt hfuel)
      obtain ⟨cur', hstring, hrest⟩ := ih hplain (Nat.lt_of_succ_lt_succ hfuel) (c :: acc)
        (rest_skip cur c (cs ++ '\x22' :: rest))
      refine ⟨cur', ?_, hrest⟩
      rw [List.reverse_cons, List.append_assoc] at hstring
      rw [string, h, List.cons_append]
      split
      next heq => cases heq
      next heq => exact absurd (List.cons.inj heq).1 hquote
      next heq => exact absurd (List.cons.inj heq).1 hescape
      next heq =>
        obtain ⟨rfl, rfl⟩ := List.cons.inj heq
        rw [if_neg (Nat.not_lt.mpr hcontrol)]
        exact hstring

/-! ## Values -/

/-- Whether the first thing ahead, behind any blanks, can be the start of a value. -/
def startsValue : List Char → Bool
  | [] => false
  | c :: cs => if isBlank c then startsValue cs else c != ']'

theorem startsValue_append (hbs : Blank bs) (hcs : startsValue cs = true) :
    startsValue (bs ++ cs) = true := by
  induction bs with
  | nil => exact hcs
  | cons b bs ih =>
      obtain ⟨hb, hbs⟩ := List.forall_mem_cons.mp hbs
      rw [List.cons_append, startsValue, if_pos hb]
      exact ih hbs

/-- Behind the blanks stands a character that is no closing bracket. -/
theorem exists_skipBlanks_of_startsValue (hcs : startsValue cs = true) (h : cur.rest = cs ++ rest) :
    ∃ d ds, cur.skipBlanks.rest = d :: ds ∧ d ≠ ']' := by
  induction cs generalizing cur with
  | nil => cases hcs
  | cons c cs ih =>
      by_cases hc : isBlank c = true
      · rw [startsValue, if_pos hc] at hcs
        obtain ⟨d, ds, hds, hd⟩ := ih hcs (rest_skip cur c (cs ++ rest))
        refine ⟨d, ds, ?_, hd⟩
        rw [skipBlanks, h, List.cons_append, blanksFrom, if_pos hc]
        exact hds
      · rw [startsValue, if_neg hc] at hcs
        refine ⟨c, cs ++ rest, ?_, bne_iff_ne.mp hcs⟩
        have hsolid : startsSolid cur.rest = true := by
          rw [h, List.cons_append, startsSolid]
          simpa using hc
        rw [skipBlanks_of_solid hsolid, h, List.cons_append]

/-- **A text is read as a value**, at most so many brackets deep, in front of anything that does not go
    on with a number. -/
structure Reads (depth : Nat) (t : List Char) (v : Json) : Prop where
  starts : startsValue t = true
  gives : ∀ (size : Nat) (cur : Cursor) (rest : List Char), cur.rest = t ++ rest → t.length < size →
    endsNumber rest = true → Gives (value size depth cur) v rest

variable {t : List Char} {v : Json}

/-- The reader of values skips blanks first. -/
theorem value_congr {cur cur' : Cursor} (h : cur.skipBlanks = cur'.skipBlanks) (size depth : Nat) :
    value size depth cur = value size depth cur' := by
  cases depth with
  | zero => rw [value, value, h]
  | succ depth => rw [value, value, h]

/-- **Blanks in front** of a value do not matter. -/
theorem Reads.indent (h : Reads depth t v) (hbs : Blank bs) : Reads depth (bs ++ t) v := by
  refine ⟨startsValue_append hbs h.starts, fun size cur rest hcur hsize hrest => ?_⟩
  rw [List.append_assoc] at hcur
  obtain ⟨cur', hcur', hsame⟩ := exists_skipBlanks_eq hbs hcur
  rw [value_congr hsame size depth]
  rw [List.length_append] at hsize
  exact h.gives size cur' rest hcur' (Nat.lt_of_le_of_lt (Nat.le_add_left _ _) hsize) hrest

/-- What is neither a list nor an object is a scalar, however deep. -/
theorem value_eq_scalar (h : cur.rest = c :: cs) (hblank : isBlank c = false) (hlist : c ≠ '[')
    (hobject : c ≠ '\x7b') (size depth : Nat) : value size depth cur = scalar size cur := by
  have hskip : cur.skipBlanks = cur := skipBlanks_of_solid (by simp [h, startsSolid, hblank])
  cases depth with
  | zero =>
      rw [value, hskip, h]
      split
      next heq => exact absurd (List.cons.inj heq).1 hlist
      next heq => exact absurd (List.cons.inj heq).1 hobject
      next => rfl
  | succ depth =>
      rw [value, hskip, h]
      split
      next heq => exact absurd (List.cons.inj heq).1 hlist
      next heq => exact absurd (List.cons.inj heq).1 hobject
      next => rfl

/-- What starts with a digit is a number. -/
theorem scalar_digit (h : cur.rest = c :: cs) (hc : Decimal.isDigit c = true) (size : Nat) :
    scalar size cur = number false cur := by
  have hne := fun d => Numeral.ne_of_isDigit (d := d) hc
  rw [scalar, h]
  split
  next heq => cases heq
  next heq => exact absurd (List.cons.inj heq).1 (hne _ rfl)
  next heq => exact absurd (List.cons.inj heq).1 (hne _ rfl)
  next heq => exact absurd (List.cons.inj heq).1 (hne _ rfl)
  next heq => exact absurd (List.cons.inj heq).1 (hne _ rfl)
  next heq => exact absurd (List.cons.inj heq).1 (hne _ rfl)
  next heq =>
    obtain ⟨rfl, -⟩ := List.cons.inj heq
    rw [if_pos (isDigit_iff.mp hc)]

/-- **A number that fits a word** is read from its digits. -/
theorem reads_number {n : Nat} (hn : n < 1 <<< 64) : Reads depth (Numeral.decimal n) (.int n) := by
  obtain ⟨c, cs, hcs, hc, -⟩ := Numeral.exists_decimal_eq n
  have hne := fun d => Numeral.ne_of_isDigit (d := d) hc
  have hblank : isBlank c = false := by
    simp [isBlank, hne ' ' rfl, hne '\n' rfl, hne '\t' rfl, hne '\r' rfl]
  constructor
  case starts =>
    rw [hcs, startsValue, hblank]
    exact bne_iff_ne.mpr (hne ']' rfl)
  case gives =>
    intro size cur rest h _ hrest
    have hahead : cur.rest = c :: (cs ++ rest) := by rw [h, hcs, List.cons_append]
    rw [value_eq_scalar hahead hblank (hne _ rfl) (hne _ rfl), scalar_digit hahead hc]
    exact number_decimal hn hrest h

/-- **A truth value** is read from its word. -/
theorem reads_bool (b : Bool) : Reads depth (if b then "true" else "false").toList (.bool b) := by
  refine ⟨by cases b <;> rfl, fun size cur rest h _ _ => ?_⟩
  cases b with
  | true =>
      have hahead : cur.rest = 't' :: 'r' :: 'u' :: 'e' :: rest := h
      obtain ⟨cur', hident, hrest⟩ : ∃ cur', ident ['r', 'u', 'e']
          (cur.skip 't' ('r' :: 'u' :: 'e' :: rest)) = .ok cur' ∧ cur'.rest = rest := ident_rest rfl
      refine ⟨cur', ?_, hrest⟩
      rw [value_eq_scalar hahead rfl (by decide) (by decide), scalar, hahead]
      simp only [hident]
      rfl
  | false =>
      have hahead : cur.rest = 'f' :: 'a' :: 'l' :: 's' :: 'e' :: rest := h
      obtain ⟨cur', hident, hrest⟩ : ∃ cur', ident ['a', 'l', 's', 'e']
          (cur.skip 'f' ('a' :: 'l' :: 's' :: 'e' :: rest)) = .ok cur' ∧ cur'.rest = rest := ident_rest rfl
      refine ⟨cur', ?_, hrest⟩
      rw [value_eq_scalar hahead rfl (by decide) (by decide), scalar, hahead]
      simp only [hident]
      rfl

/-! ## Lists and objects -/

/-- Texts behind one another, with commas between them. -/
def commaed : List (List Char) → List Char
  | [] => []
  | u :: us => u ++ us.flatMap (',' :: ·)

variable {u : List Char} {us : List (List Char)}

theorem length_le_flatMap (us : List (List Char)) : us.length ≤ (us.flatMap (',' :: ·)).length := by
  induction us with
  | nil => exact Nat.le_refl 0
  | cons u us ih =>
      simp only [List.flatMap_cons, List.length_append, List.length_cons]
      omega

theorem length_lt_flatMap (hu : u ∈ us) : u.length < (us.flatMap (',' :: ·)).length := by
  induction us with
  | nil => cases hu
  | cons w us ih =>
      simp only [List.flatMap_cons, List.length_append, List.length_cons]
      rcases List.mem_cons.mp hu with rfl | hu
      · omega
      · exact Nat.lt_add_left _ (ih hu)

/-- A comma ends a number, and so does what comes after the last of several items. -/
theorem endsNumber_flatMap (hbs : Blank bs) (hc : endsNumber (c :: rest) = true) (us : List (List Char)) :
    endsNumber (us.flatMap (',' :: ·) ++ (bs ++ c :: rest)) = true := by
  cases us with
  | nil => exact show endsNumber (bs ++ c :: rest) = true from endsNumber_append hbs hc
  | cons u us => rfl

theorem hasItem_first (hcs : startsValue cs = true) (h : cur.rest = cs ++ rest) :
    hasItem true cur = .ok (true, cur.skipBlanks) := by
  obtain ⟨d, ds, hds, hd⟩ := exists_skipBlanks_of_startsValue hcs h
  rw [hasItem, hds]
  split
  next heq => cases heq
  next heq => exact absurd (List.cons.inj heq).1 hd
  next => rfl
  next => rfl

theorem hasItem_next (hcs : startsValue cs = true) (h : cur.rest = ',' :: (cs ++ rest)) :
    hasItem false cur = .ok (true, (cur.skip ',' (cs ++ rest)).skipBlanks) := by
  obtain ⟨d, ds, hds, hd⟩ := exists_skipBlanks_of_startsValue hcs (rest_skip cur ',' (cs ++ rest))
  have hskip : cur.skipBlanks = cur := skipBlanks_of_solid (by rw [h]; rfl)
  unfold hasItem
  simp only [hskip, h]
  rw [if_neg Bool.false_ne_true, hds]
  split
  next heq => cases heq
  next heq => exact absurd (List.cons.inj heq).1 hd
  next => rfl

theorem hasItem_end (hbs : Blank bs) (h : cur.rest = bs ++ ']' :: rest) (first : Bool) :
    Gives (hasItem first cur) false (']' :: rest) := by
  have hskip : cur.skipBlanks.rest = ']' :: rest := skipBlanks_rest hbs rfl h
  refine ⟨cur.skipBlanks, ?_, hskip⟩
  rw [hasItem, hskip]
  rfl

/-- **The items of a list** behind the first are read one after the other. -/
theorem items_rest {vs : List Json} (h : List.Forall₂ (Reads depth) us vs) (hbs : Blank bs)
    (acc : List Json) (hsize : ∀ u ∈ us, u.length < size) (hfuel : us.length < fuel)
    (hcur : cur.rest = us.flatMap (',' :: ·) ++ (bs ++ ']' :: rest)) :
    Gives (items (value size depth) fuel false acc cur) (acc.reverse ++ vs) (']' :: rest) := by
  induction h generalizing fuel acc cur with
  | nil =>
      obtain ⟨fuel, rfl⟩ : ∃ f, fuel = f + 1 := Nat.exists_eq_add_one.mpr hfuel
      obtain ⟨cur', hend, hrest⟩ := hasItem_end hbs hcur false
      refine ⟨cur', ?_, hrest⟩
      rw [items, hend, List.append_nil]
      rfl
  | @cons u v us vs hread _ ih =>
      rw [List.length_cons] at hfuel
      obtain ⟨fuel, rfl⟩ : ∃ f, fuel = f + 1 := Nat.exists_eq_add_one.mpr (Nat.zero_lt_of_lt hfuel)
      obtain ⟨husize, hsize⟩ := List.forall_mem_cons.mp hsize
      rw [List.flatMap_cons, List.append_assoc, List.cons_append] at hcur
      obtain ⟨cur', hvalue, hrest'⟩ := hread.gives size (cur.skip ',' _) _ rfl husize
        (endsNumber_flatMap (c := ']') hbs rfl us)
      obtain ⟨cur'', hitems, hrest⟩ := ih (v :: acc) hsize (Nat.lt_of_succ_lt_succ hfuel) hrest'
      refine ⟨cur'', ?_, hrest⟩
      rw [List.reverse_cons, List.append_assoc] at hitems
      rw [items, hasItem_next hread.starts hcur]
      show (value size depth _ >>= fun x => items _ fuel false (x.1 :: acc) x.2) = _
      rw [value_congr (skipBlanks_skipBlanks _), hvalue]
      exact hitems

/-- **The items of a list** are read up to its closing bracket. -/
theorem items_commaed {vs : List Json} (h : List.Forall₂ (Reads depth) us vs) (hbs : Blank bs)
    (hsize : (commaed us).length < size) (hfuel : (commaed us).length + 1 < fuel)
    (hcur : cur.rest = commaed us ++ (bs ++ ']' :: rest)) :
    Gives (items (value size depth) fuel true [] cur) vs (']' :: rest) := by
  obtain ⟨fuel, rfl⟩ : ∃ f, fuel = f + 1 := Nat.exists_eq_add_one.mpr (Nat.zero_lt_of_lt hfuel)
  cases h with
  | nil =>
      obtain ⟨cur', hend, hrest⟩ := hasItem_end hbs hcur true
      refine ⟨cur', ?_, hrest⟩
      rw [items, hend]
      rfl
  | @cons u v us vs hread hreads =>
      rw [commaed, List.length_append] at hsize hfuel
      rw [commaed, List.append_assoc] at hcur
      have hcount := length_le_flatMap us
      have hbelow : ∀ w ∈ us, w.length < size := fun w hw => by
        have := length_lt_flatMap hw
        omega
      obtain ⟨cur', hvalue, hrest'⟩ := hread.gives size cur _ hcur (by omega)
        (endsNumber_flatMap (c := ']') hbs rfl us)
      have hmore : us.length < fuel := by omega
      obtain ⟨cur'', hitems, hrest⟩ := items_rest hreads hbs [v] hbelow hmore hrest'
      refine ⟨cur'', ?_, hrest⟩
      rw [items, hasItem_first hread.starts hcur]
      show (value size depth _ >>= fun x => items _ fuel false (x.1 :: []) x.2) = _
      rw [value_congr (skipBlanks_skipBlanks _), hvalue]
      exact hitems

/-- **A list** is read from the texts of its items, behind one another with commas between them. -/
theorem reads_list {vs : List Json} (h : List.Forall₂ (Reads depth) us vs) (hbs : Blank bs) :
    Reads (depth + 1) ('[' :: (commaed us ++ (bs ++ [']']))) (.array vs) := by
  refine ⟨rfl, fun size cur rest hcur hsize _ => ?_⟩
  simp only [List.cons_append, List.append_assoc, List.nil_append] at hcur
  simp only [List.length_cons, List.length_append] at hsize
  have hskip : cur.skipBlanks = cur := skipBlanks_of_solid (by rw [hcur]; rfl)
  have hfuel : (commaed us).length + 1 < size := by omega
  obtain ⟨cur', hitems, hrest⟩ := items_commaed h hbs (Nat.lt_of_succ_lt hfuel) hfuel
    (rest_skip cur '[' (commaed us ++ (bs ++ ']' :: rest)))
  refine ⟨cur'.skip ']' (cur'.rest.drop 1), ?_, by rw [hrest]; rfl⟩
  rw [value, hskip, hcur]
  show (items (value size depth) size true [] _ >>= fun x =>
    .ok (Json.array x.1, x.2.skip ']' (x.2.rest.drop 1))) = _
  rw [hitems]
  rfl

/-- **A text is read as a member of an object**: a name in quotes, a colon, and a value. -/
inductive IsMember (depth : Nat) : List Char → String × Json → Prop
  | mk {bs name t : List Char} {v : Json} (blank : Blank bs) (plain : Plain name)
      (reads : Reads depth t v) :
      IsMember depth (bs ++ '\x22' :: (name ++ '\x22' :: ':' :: t)) (String.ofList name, v)

theorem hasMember_first (hbs : Blank bs) (h : cur.rest = bs ++ '\x22' :: rest) :
    Gives (hasMember true cur) true rest := by
  have hskip : cur.skipBlanks.rest = '\x22' :: rest := skipBlanks_rest hbs rfl h
  refine ⟨cur.skipBlanks.skip '\x22' rest, ?_, rfl⟩
  rw [hasMember, hskip]
  rfl

theorem hasMember_next (hbs : Blank bs) (h : cur.rest = ',' :: (bs ++ '\x22' :: rest)) :
    Gives (hasMember false cur) true rest := by
  have hskip : cur.skipBlanks = cur := skipBlanks_of_solid (by rw [h]; rfl)
  have hname : (cur.skip ',' (bs ++ '\x22' :: rest)).skipBlanks.rest = '\x22' :: rest :=
    skipBlanks_rest hbs rfl (rest_skip _ _ _)
  refine ⟨(cur.skip ',' (bs ++ '\x22' :: rest)).skipBlanks.skip '\x22' rest, ?_, rfl⟩
  unfold hasMember
  simp only [hskip, h]
  rw [if_neg Bool.false_ne_true, hname]
  rfl

theorem hasMember_end (hbs : Blank bs) (h : cur.rest = bs ++ '\x7d' :: rest) (first : Bool) :
    Gives (hasMember first cur) false ('\x7d' :: rest) := by
  have hskip : cur.skipBlanks.rest = '\x7d' :: rest := skipBlanks_rest hbs rfl h
  refine ⟨cur.skipBlanks, ?_, hskip⟩
  rw [hasMember, hskip]
  rfl

theorem colon_rest (h : cur.rest = ':' :: rest) : ∃ cur', colon cur = .ok cur' ∧ cur'.rest = rest := by
  have hskip : cur.skipBlanks = cur := skipBlanks_of_solid (by rw [h]; rfl)
  refine ⟨cur.skip ':' rest, ?_, rfl⟩
  rw [colon, hskip, h]
  rfl

/-- **One member** is read behind the opening quote of its name. -/
theorem members_step {first : Bool} {name : List Char} (acc : List (String × Json))
    (hmore : Gives (hasMember first cur) true (name ++ '\x22' :: ':' :: (t ++ rest)))
    (hname : Plain name) (hread : Reads depth t v) (hsize : name.length < size) (hsize' : t.length < size)
    (hrest : endsNumber rest = true) :
    ∃ cur', members size (value size depth) (fuel + 1) first acc cur =
        members size (value size depth) fuel false ((String.ofList name, v) :: acc) cur' ∧
      cur'.rest = rest := by
  obtain ⟨cur₁, hmore, hcur₁⟩ := hmore
  obtain ⟨cur₂, hstring, hcur₂⟩ := string_rest hname hsize [] hcur₁
  obtain ⟨cur₃, hcolon, hcur₃⟩ := colon_rest hcur₂
  obtain ⟨cur₄, hvalue, hcur₄⟩ := hread.gives size cur₃ rest hcur₃ hsize' hrest
  refine ⟨cur₄, ?_, hcur₄⟩
  rw [members, hmore]
  show (string size [] cur₁ >>= fun x => colon x.2 >>= fun y => value size depth y >>= fun z =>
    members size (value size depth) fuel false ((x.1, z.1) :: acc) z.2) = _
  rw [hstring]
  show (colon cur₂ >>= fun y => value size depth y >>= fun z =>
    members size (value size depth) fuel false ((_, z.1) :: acc) z.2) = _
  rw [hcolon]
  show (value size depth cur₃ >>= fun z =>
    members size (value size depth) fuel false ((_, z.1) :: acc) z.2) = _
  rw [hvalue]
  rfl

/-- **The members of an object** behind the first are read one after the other. -/
theorem members_rest {ms : List (String × Json)} (h : List.Forall₂ (IsMember depth) us ms)
    (hbs : Blank bs) (acc : List (String × Json)) (hsize : ∀ u ∈ us, u.length < size)
    (hfuel : us.length < fuel)
    (hcur : cur.rest = us.flatMap (',' :: ·) ++ (bs ++ '\x7d' :: rest)) :
    Gives (members size (value size depth) fuel false acc cur) (acc.reverse ++ ms) ('\x7d' :: rest) := by
  induction h generalizing fuel acc cur with
  | nil =>
      obtain ⟨fuel, rfl⟩ : ∃ f, fuel = f + 1 := Nat.exists_eq_add_one.mpr hfuel
      obtain ⟨cur', hend, hrest⟩ := hasMember_end hbs hcur false
      refine ⟨cur', ?_, hrest⟩
      rw [members, hend, List.append_nil]
      rfl
  | @cons u m us ms hmember _ ih =>
      rw [List.length_cons] at hfuel
      obtain ⟨fuel, rfl⟩ : ∃ f, fuel = f + 1 := Nat.exists_eq_add_one.mpr (Nat.zero_lt_of_lt hfuel)
      obtain ⟨husize, hbelow⟩ := List.forall_mem_cons.mp hsize
      cases hmember with
      | @mk indent name t v hindent hname hread =>
          simp only [List.flatMap_cons, List.append_assoc, List.cons_append] at hcur
          simp only [List.length_append, List.length_cons] at husize
          have hnamesize : name.length < size := by omega
          obtain ⟨cur', hstep, hrest'⟩ := members_step acc (hasMember_next hindent hcur) hname hread
            hnamesize (by omega) (endsNumber_flatMap (c := '\x7d') hbs rfl us)
          obtain ⟨cur'', hmembers, hrest⟩ := ih _ hbelow (Nat.lt_of_succ_lt_succ hfuel) hrest'
          refine ⟨cur'', ?_, hrest⟩
          rw [List.reverse_cons, List.append_assoc] at hmembers
          rw [hstep]
          exact hmembers

/-- **The members of an object** are read up to its closing brace. -/
theorem members_commaed {ms : List (String × Json)} (h : List.Forall₂ (IsMember depth) us ms)
    (hbs : Blank bs) (hsize : (commaed us).length < size) (hfuel : (commaed us).length + 1 < fuel)
    (hcur : cur.rest = commaed us ++ (bs ++ '\x7d' :: rest)) :
    Gives (members size (value size depth) fuel true [] cur) ms ('\x7d' :: rest) := by
  obtain ⟨fuel, rfl⟩ : ∃ f, fuel = f + 1 := Nat.exists_eq_add_one.mpr (Nat.zero_lt_of_lt hfuel)
  cases h with
  | nil =>
      obtain ⟨cur', hend, hrest⟩ := hasMember_end hbs hcur true
      refine ⟨cur', ?_, hrest⟩
      rw [members, hend]
      rfl
  | @cons u m us ms hmember hmembers =>
      rw [commaed, List.length_append] at hsize hfuel
      have hcount := length_le_flatMap us
      have hbelow : ∀ w ∈ us, w.length < size := fun w hw => by
        have := length_lt_flatMap hw
        omega
      cases hmember with
      | @mk indent name t v hindent hname hread =>
          simp only [commaed, List.append_assoc, List.cons_append] at hcur
          simp only [List.length_append, List.length_cons] at hsize hfuel
          have hnamesize : name.length < size := by omega
          obtain ⟨cur', hstep, hrest'⟩ := members_step [] (hasMember_first hindent hcur) hname hread
            hnamesize (by omega) (endsNumber_flatMap (c := '\x7d') hbs rfl us)
          have hmore : us.length < fuel := by omega
          obtain ⟨cur'', hrun, hrest⟩ := members_rest hmembers hbs [_] hbelow hmore hrest'
          refine ⟨cur'', ?_, hrest⟩
          rw [hstep]
          exact hrun

/-- **An object** is read from the texts of its members, behind one another with commas between them. -/
theorem reads_object {ms : List (String × Json)} (h : List.Forall₂ (IsMember depth) us ms)
    (hbs : Blank bs) : Reads (depth + 1) ('\x7b' :: (commaed us ++ (bs ++ ['\x7d']))) (.object ms) := by
  refine ⟨rfl, fun size cur rest hcur hsize _ => ?_⟩
  simp only [List.cons_append, List.append_assoc, List.nil_append] at hcur
  simp only [List.length_cons, List.length_append] at hsize
  have hskip : cur.skipBlanks = cur := skipBlanks_of_solid (by rw [hcur]; rfl)
  have hfuel : (commaed us).length + 1 < size := by omega
  obtain ⟨cur', hmembers, hrest⟩ := members_commaed h hbs (Nat.lt_of_succ_lt hfuel) hfuel
    (rest_skip cur '\x7b' (commaed us ++ (bs ++ '\x7d' :: rest)))
  refine ⟨cur'.skip '\x7d' (cur'.rest.drop 1), ?_, by rw [hrest]; rfl⟩
  rw [value, hskip, hcur]
  show (members size (value size depth) size true [] _ >>= fun x =>
    .ok (Json.object x.1, x.2.skip '\x7d' (x.2.rest.drop 1))) = _
  rw [hmembers]
  rfl

end Cursor

/-! ## Whole texts -/

/-- **A whole text** is parsed as the value that it is read as, whatever blanks stand behind it. -/
theorem parse_of_reads {text : String} {t bs : List Char} {v : Json}
    (h : Cursor.Reads maxDepth t v) (hbs : Cursor.Blank bs) (htext : text.toList = t ++ bs) :
    parse text = .ok v := by
  have hstart : (Cursor.start text.toList).rest = t ++ bs := htext
  have hsize : t.length < text.length + 1 := by
    rw [← String.length_toList, htext, List.length_append]
    omega
  have hends : Cursor.endsNumber bs = true := by
    have hnil : Cursor.endsNumber (bs ++ []) = true := Cursor.endsNumber_append hbs rfl
    rwa [List.append_nil] at hnil
  obtain ⟨cur, hvalue, hrest⟩ := h.gives _ _ _ hstart hsize hends
  have hend : cur.skipBlanks.rest = [] := Cursor.skipBlanks_rest hbs rfl (by rw [hrest, List.append_nil])
  rw [parse, hvalue]
  dsimp only [bind, Except.bind]
  rw [hend]
  rfl

end StimulusBench.Json
