import Mathlib.Data.List.DropRight
import Mathlib.Data.List.Forall2
import StimulusBench.Proofs.Number.Numeral
import StimulusBench.Testbench

/-!
# `StimulusBench.Proofs.Testbench` — what a testbench tells about its records

A testbench shows of every record one clock cycle: the three inputs and, if the record has an assertion,
the two outputs. The lines of a record begin with an empty line, which no check is, so the lines of a
testbench fall apart into cycles in one way only. What is lost is the channel, of which one bit is left.

## Contents
- **Lines.** `linesOf` takes the lines of a text apart again, if each of them is `Unbroken`.
- **Cycles.** `Record.SameCycle`; `sameCycle_of_lines`: equal lines show equal cycles.
- **The text.** `render_inj_iff`: a testbench determines its cycles.
- **Marked lines.** `waits` and `asserts`; a line is `Unmarked` if it begins with neither mark.
- **Counting.** `CountsRecords`: a mark that is counted by counting records.
-/

namespace StimulusBench

namespace Testbench

/-! ## Lines -/

/-- The lines of a text, with what is behind the last line break as the last one. -/
def linesOf (text : String) : List (List Char) := text.toList.splitOn '\n'

/-- A text on one line. -/
def Unbroken (s : String) : Prop := '\n' ∉ s.toList

theorem unbroken_append {s s' : String} : Unbroken (s ++ s') ↔ Unbroken s ∧ Unbroken s' := by
  simp [Unbroken]

theorem unbroken_ofList {cs : List Char} (h : '\n' ∉ cs) : Unbroken (String.ofList cs) := by
  rwa [Unbroken, String.toList_ofList]

theorem unlines_cons (l : String) (ls : List String) :
    (unlines (l :: ls)).toList = l.toList ++ '\n' :: (unlines ls).toList := by
  simp [unlines]

theorem unlines_append (ls ls' : List String) :
    (unlines (ls ++ ls')).toList = (unlines ls).toList ++ (unlines ls').toList := by
  simp [unlines]

/-- **Lines are found again** in their text, if none of them holds a line break. -/
theorem linesOf_unlines {ls : List String} (h : ∀ l ∈ ls, Unbroken l) :
    linesOf (unlines ls) = ls.map String.toList ++ [[]] := by
  induction ls with
  | nil => rfl
  | cons l rest ih =>
      have hline : ∀ c ∈ l.toList, (c == '\n') = false := fun c hc =>
        beq_eq_false_iff_ne.mpr fun hbreak => h l List.mem_cons_self (hbreak ▸ hc)
      have hrest := ih fun l' hl' => h l' (List.mem_cons_of_mem _ hl')
      rw [linesOf, List.splitOn_eq_splitOnP] at hrest ⊢
      rw [unlines_cons, List.splitOnP_append_cons_of_forall_mem hline '\n' rfl, hrest]
      rfl

theorem unlines_inj {ls ls' : List String} (h : ∀ l ∈ ls, Unbroken l)
    (h' : ∀ l ∈ ls', Unbroken l) (hsame : unlines ls = unlines ls') : ls = ls' := by
  have hlines := linesOf_unlines h
  rw [hsame, linesOf_unlines h'] at hlines
  have hchars := List.append_cancel_right hlines
  exact (List.map_injective_iff.mpr fun _ _ => String.toList_inj.mp) hchars.symm

/-! ## Cycles -/

end Testbench

/-- **The same clock cycle**: the records drive the same levels and assert the same outputs. -/
structure Record.SameCycle (r r' : Record) : Prop where
  reset : r.isReset = r'.isReset
  number : r.value = r'.value
  first : r.start = r'.start
  outputs : r.extra = r'.extra

namespace Testbench

/-- The line that puts a byte on the data bus. -/
def numberLine (value : Value) : String :=
  "        number <= x\"" ++ String.ofList (Numeral.hexByte value) ++ "\";"

/-- The lines that check the outputs. -/
def checkLines : Option Assertion → List String
  | none => []
  | some a => [check "unlock" "Unlock" a.unlock, check "warning" "Warning" a.warning]

theorem recordLines_eq (r : Record) :
    recordLines r = "" :: drive "reset" r.isReset :: numberLine r.value :: drive "first" r.start ::
      waitLine :: checkLines r.extra := by
  obtain ⟨channel, value, start, extra⟩ := r
  cases extra <;> rfl

theorem recordLines_of_sameCycle {r r' : Record} (h : r.SameCycle r') :
    recordLines r = recordLines r' := by
  rw [recordLines_eq, recordLines_eq, h.reset, h.number, h.first, h.outputs]

theorem drive_reset_inj : ∀ b b', drive "reset" b = drive "reset" b' → b = b' := by decide

theorem drive_first_inj : ∀ b b', drive "first" b = drive "first" b' → b = b' := by decide

theorem check_unlock_inj : ∀ b b', check "unlock" "Unlock" b = check "unlock" "Unlock" b' → b = b' := by
  decide

theorem check_warning_inj :
    ∀ b b', check "warning" "Warning" b = check "warning" "Warning" b' → b = b' := by
  decide

theorem digitValue?_hexDigit {d : Nat} (h : d < 16) :
    Numeral.digitValue? 16 (Nat.digitChar d) = some d := by
  revert d
  decide

/-- The digits of a byte are read back as the byte. -/
theorem ofDigits?_hexByte (b : UInt8) : Numeral.ofDigits? 16 (Numeral.hexByte b) = some b.toNat := by
  have hlt := b.toNat_lt
  have hhigh := digitValue?_hexDigit (d := b.toNat / 16) (by omega)
  have hlow := digitValue?_hexDigit (d := b.toNat % 16) (by omega)
  simp only [Numeral.hexByte, Numeral.ofDigits?, Numeral.foldDigits?, hhigh, hlow]
  exact congrArg some (by omega)

theorem hexByte_inj {b b' : UInt8} (h : Numeral.hexByte b = Numeral.hexByte b') : b = b' := by
  have hread := ofDigits?_hexByte b
  rw [h, ofDigits?_hexByte] at hread
  exact UInt8.toNat_inj.mp (Option.some.inj hread).symm

theorem check_ne_empty (signal title : String) (b : Bool) : check signal title b ≠ "" := by
  intro h
  unfold check at h
  exact absurd (String.append_eq_empty_iff.mp h).2 (by decide)

theorem numberLine_inj {v v' : Value} (h : numberLine v = numberLine v') : v = v' := by
  unfold numberLine at h
  rw [String.append_left_inj, String.append_right_inj, String.ofList_inj] at h
  exact hexByte_inj h

/-- The lines of some records in a row. -/
def body (records : List Record) : List String := records.flatMap recordLines

theorem body_cons (r : Record) (rs : List Record) :
    body (r :: rs) = "" :: drive "reset" r.isReset :: numberLine r.value :: drive "first" r.start ::
      waitLine :: (checkLines r.extra ++ body rs) := by
  rw [body, List.flatMap_cons, recordLines_eq]
  rfl

/-- **Checks are told from records**: no check is empty, and every record begins with an empty line. -/
theorem body_ne_check (rs : List Record) (signal title : String) (b : Bool) (ls : List String) :
    body rs ≠ check signal title b :: ls := by
  cases rs with
  | nil => simp [body]
  | cons r rest =>
      rw [body_cons]
      intro h
      exact check_ne_empty signal title b (List.cons.inj h).1.symm

theorem checkLines_append_inj {e e' : Option Assertion} {rs rs' : List Record}
    (h : checkLines e ++ body rs = checkLines e' ++ body rs') : e = e' ∧ body rs = body rs' := by
  cases e with
  | none =>
      cases e' with
      | none => exact ⟨rfl, h⟩
      | some a' => exact absurd h (body_ne_check rs _ _ _ _)
  | some a =>
      cases e' with
      | none => exact absurd h.symm (body_ne_check rs' _ _ _ _)
      | some a' =>
          simp only [checkLines, List.cons_append, List.nil_append, List.cons.injEq] at h
          obtain ⟨hunlock, hwarning, hrest⟩ := h
          obtain ⟨unlock, warning⟩ := a
          obtain ⟨unlock', warning'⟩ := a'
          obtain rfl := check_unlock_inj _ _ hunlock
          obtain rfl := check_warning_inj _ _ hwarning
          exact ⟨rfl, hrest⟩

/-- **Equal lines show equal cycles**, one after the other. -/
theorem sameCycle_of_lines {rs rs' : List Record} (h : body rs = body rs') :
    List.Forall₂ Record.SameCycle rs rs' := by
  induction rs generalizing rs' with
  | nil =>
      cases rs' with
      | nil => exact .nil
      | cons r' rest' =>
          rw [body_cons] at h
          cases h
  | cons r rest ih =>
      cases rs' with
      | nil =>
          rw [body_cons] at h
          cases h
      | cons r' rest' =>
          simp only [body_cons, List.cons.injEq, true_and] at h
          obtain ⟨hreset, hnumber, hfirst, hchecks⟩ := h
          obtain ⟨hextra, hrest⟩ := checkLines_append_inj hchecks
          have hcycle : r.SameCycle r' :=
            ⟨drive_reset_inj _ _ hreset, numberLine_inj hnumber, drive_first_inj _ _ hfirst, hextra⟩
          exact .cons hcycle (ih hrest)

theorem body_of_sameCycle {rs rs' : List Record} (h : List.Forall₂ Record.SameCycle rs rs') :
    body rs = body rs' := by
  induction h with
  | nil => rfl
  | cons hcycle _ ih =>
      rw [body, List.flatMap_cons, recordLines_of_sameCycle hcycle]
      exact congrArg _ ih

/-! ## Lines without a break -/

theorem unbroken_hexByte (b : UInt8) : Unbroken (String.ofList (Numeral.hexByte b)) := by
  have hdigit : ∀ n < 16, '\n' ≠ Nat.digitChar n := by decide
  have hlt := b.toNat_lt
  apply unbroken_ofList
  simp only [Numeral.hexByte, List.mem_cons, List.not_mem_nil, or_false, not_or]
  exact ⟨hdigit _ (by omega), hdigit _ (by omega)⟩

theorem unbroken_decimalText (n : Nat) : Unbroken (Numeral.decimalText n) :=
  unbroken_ofList fun h => absurd (Numeral.isDigit_of_mem_decimal h) (by decide)

theorem unbroken_bit (b : Bool) : Unbroken (String.ofList [bit b]) := by
  cases b <;> exact unbroken_ofList (by decide)

theorem unbroken_drive {signal : String} (h : Unbroken signal) (b : Bool) : Unbroken (drive signal b) := by
  unfold drive
  simp only [unbroken_append]
  exact ⟨⟨⟨⟨unbroken_ofList (by decide), h⟩, unbroken_ofList (by decide)⟩, unbroken_bit b⟩,
    unbroken_ofList (by decide)⟩

theorem unbroken_check {signal title : String} (h : Unbroken signal) (htitle : Unbroken title) (b : Bool) :
    Unbroken (check signal title b) := by
  unfold check
  simp only [unbroken_append]
  exact ⟨⟨⟨⟨⟨⟨unbroken_ofList (by decide), h⟩, unbroken_ofList (by decide)⟩, unbroken_bit b⟩,
    unbroken_ofList (by decide)⟩, htitle⟩, unbroken_ofList (by decide)⟩

theorem unbroken_numberLine (v : Value) : Unbroken (numberLine v) := by
  unfold numberLine
  simp only [unbroken_append]
  exact ⟨⟨unbroken_ofList (by decide), unbroken_hexByte v⟩, unbroken_ofList (by decide)⟩

theorem unbroken_waitLine : Unbroken waitLine := unbroken_ofList (by decide)

theorem unbroken_checkLines {extra : Option Assertion} : ∀ l ∈ checkLines extra, Unbroken l := by
  cases extra with
  | none => exact fun _ h => absurd h List.not_mem_nil
  | some a =>
      simp only [checkLines, List.forall_mem_cons]
      exact ⟨unbroken_check (unbroken_ofList (by decide)) (unbroken_ofList (by decide)) _,
        unbroken_check (unbroken_ofList (by decide)) (unbroken_ofList (by decide)) _,
        fun _ h => absurd h List.not_mem_nil⟩

/-- No line of a record holds a line break. -/
theorem unbroken_body {rs : List Record} : ∀ l ∈ body rs, Unbroken l := by
  intro l h
  obtain ⟨r, -, hl⟩ := List.mem_flatMap.mp h
  rw [recordLines_eq] at hl
  simp only [List.mem_cons] at hl
  rcases hl with rfl | rfl | rfl | rfl | rfl | hl
  · exact unbroken_ofList List.not_mem_nil
  · exact unbroken_drive (unbroken_ofList (by decide)) _
  · exact unbroken_numberLine _
  · exact unbroken_drive (unbroken_ofList (by decide)) _
  · exact unbroken_waitLine
  · exact unbroken_checkLines l hl

/-! ## The text of a testbench -/

/-- **A testbench determines the cycles** it drives: what is in front of the records and behind them
    is the same for all records. -/
theorem render_inj_iff (bench : Testbench) (rs rs' : List Record) :
    bench.render rs = bench.render rs' ↔ List.Forall₂ Record.SameCycle rs rs' := by
  constructor
  · intro h
    have hchars := congrArg String.toList h
    simp only [render, lines, unlines_append] at hchars
    have hbody := List.append_cancel_left (List.append_cancel_right hchars)
    exact sameCycle_of_lines
      (unlines_inj unbroken_body unbroken_body (String.toList_inj.mp hbody))
  · intro h
    rw [render, render, lines, lines, show rs.flatMap recordLines = _ from body_of_sameCycle h]
    rfl

/-! ## Marked lines -/

/-- A character of white space. -/
def isSpace (c : Char) : Bool :=
  let n := c.toNat
  (0x09 ≤ n && n ≤ 0x0D) || n = 0x20 || n = 0x85 || n = 0xA0 || n = 0x1680
    || (0x2000 ≤ n && n ≤ 0x200A) || n = 0x2028 || n = 0x2029 || n = 0x202F || n = 0x205F || n = 0x3000

/-- A line without its indentation. -/
def indentless (line : List Char) : List Char := line.dropWhile isSpace

/-- What a line that lets a clock period pass holds between its white space. -/
def waitMark : List Char := "wait for CLK_PERIOD;".toList

/-- What a line that checks a signal begins with. -/
def assertMark : List Char := "assert ".toList

/-- Does the line let a clock period pass? -/
def waits (line : List Char) : Bool := (indentless line).rdropWhile isSpace = waitMark

/-- Does the line check the signal? -/
def asserts (signal : String) (line : List Char) : Bool :=
  (assertMark ++ signal.toList).isPrefixOf (indentless line)

theorem waits_eq_false {line : List Char} (h : ¬ waitMark <+: indentless line) : waits line = false :=
  decide_eq_false fun heq => h (heq ▸ List.rdropWhile_prefix isSpace _)

theorem asserts_eq_false {line : List Char} (h : ¬ assertMark <+: indentless line) (signal : String) :
    asserts signal line = false := by
  rw [asserts, Bool.eq_false_iff, ne_eq, List.isPrefixOf_iff_prefix]
  exact fun hprefix => h ((List.prefix_append _ _).trans hprefix)

/-- A line with neither mark. -/
structure Unmarked (line : List Char) : Prop where
  wait : ¬ waitMark <+: indentless line
  check : ¬ assertMark <+: indentless line

theorem indentless_blank (cs : List Char) : indentless (' ' :: cs) = indentless cs := rfl

theorem indentless_cons {c : Char} {cs : List Char} (h : isSpace c = false) :
    indentless (c :: cs) = c :: cs := by
  rw [indentless, List.dropWhile_cons_of_neg (by rw [h]; decide)]

theorem waitMark_eq : waitMark =
    ['w', 'a', 'i', 't', ' ', 'f', 'o', 'r', ' ', 'C', 'L', 'K', '_', 'P', 'E', 'R', 'I', 'O', 'D', ';'] := by
  unfold waitMark
  simp only [String.reduceToList]

theorem assertMark_eq : assertMark = ['a', 's', 's', 'e', 'r', 't', ' '] := by
  unfold assertMark
  simp only [String.reduceToList]

theorem unmarked_blank {cs : List Char} : Unmarked (' ' :: cs) ↔ Unmarked cs :=
  ⟨fun h => ⟨h.wait, h.check⟩, fun h => ⟨h.wait, h.check⟩⟩

theorem unmarked_nil : Unmarked [] := by
  constructor <;> simp [waitMark_eq, assertMark_eq, indentless]

theorem unmarked_cons {c : Char} {cs : List Char} (hspace : isSpace c = false)
    (hwait : ¬ waitMark <+: c :: cs) (hassert : c ≠ 'a') : Unmarked (c :: cs) := by
  rw [← indentless_cons hspace] at hwait
  refine ⟨hwait, ?_⟩
  rw [indentless_cons hspace, assertMark_eq, List.cons_prefix_cons]
  exact fun h => hassert h.1.symm

theorem unmarked_ofList {cs : List Char} (h : Unmarked cs) : Unmarked (String.ofList cs).toList := by
  rwa [String.toList_ofList]

theorem unmarked_ofList_append {cs : List Char} {rest : String} (h : Unmarked (cs ++ rest.toList)) :
    Unmarked (String.ofList cs ++ rest).toList := by
  rwa [String.toList_append, String.toList_ofList]

/-- Of the lines in front of the records the last one alone is marked. -/
theorem unmarked_preamble (bench : Testbench) :
    ∀ l ∈ bench.preamble.dropLast, Unmarked l.toList := by
  -- The characters of a literal are found by matching it with `String.ofList`; its bytes are not decoded.
  simp only [preamble, List.dropLast, List.forall_mem_cons, String.append_assoc]
  and_intros
  all_goals first
    | with_reducible apply unmarked_ofList_append
    | with_reducible apply unmarked_ofList
    | exact fun _ h => absurd h List.not_mem_nil
  all_goals try simp only [List.cons_append, unmarked_blank, unmarked_nil]
  all_goals exact unmarked_cons rfl (by simp [waitMark_eq]) (by decide)

theorem unbroken_preamble {bench : Testbench} (h : Unbroken bench.entity) :
    ∀ l ∈ bench.preamble, Unbroken l := by
  simp only [preamble, List.forall_mem_cons, unbroken_append]
  and_intros
  all_goals first
    | with_reducible exact h
    | with_reducible exact unbroken_waitLine
    | with_reducible exact unbroken_decimalText _
    | with_reducible exact unbroken_ofList (by decide)
    | exact fun _ h => absurd h List.not_mem_nil

theorem unbroken_closing : ∀ l ∈ closing, Unbroken l := by
  simp only [closing, List.forall_mem_cons]
  exact ⟨unbroken_ofList (by decide), unbroken_ofList (by decide), unbroken_ofList (by decide),
    fun _ h => absurd h List.not_mem_nil⟩

theorem unmarked_closing : ∀ l ∈ closing, Unmarked l.toList := by
  simp only [closing, List.forall_mem_cons]
  refine ⟨unmarked_ofList ?_, unmarked_ofList ?_, unmarked_ofList ?_, fun _ h => absurd h List.not_mem_nil⟩
  all_goals try simp only [unmarked_blank]
  all_goals exact unmarked_cons rfl (by simp [waitMark_eq]) (by decide)

theorem preamble_eq (bench : Testbench) : bench.preamble = bench.preamble.dropLast ++ [waitLine] := rfl

theorem unmarked_drive (signal : String) {c : Char} {cs : List Char} (h : signal.toList = c :: cs)
    (hspace : isSpace c = false) (hwait : c ≠ 'w') (hassert : c ≠ 'a') (b : Bool) :
    Unmarked (drive signal b).toList := by
  unfold drive
  simp only [String.append_assoc]
  apply unmarked_ofList_append
  simp only [List.cons_append, List.nil_append, unmarked_blank, String.toList_append, h]
  refine unmarked_cons hspace ?_ hassert
  rw [waitMark_eq, List.cons_prefix_cons]
  exact fun hprefix => hwait hprefix.1.symm

theorem unmarked_numberLine (v : Value) : Unmarked (numberLine v).toList := by
  unfold numberLine
  simp only [String.append_assoc]
  apply unmarked_ofList_append
  simp only [List.cons_append, unmarked_blank]
  exact unmarked_cons rfl (by simp [waitMark_eq]) (by decide)

theorem check_eq (signal title : String) (b : Bool) :
    ∃ rest, check signal title b = "        assert " ++ (signal ++ rest) := by
  unfold check
  simp only [String.append_assoc]
  exact ⟨_, rfl⟩

theorem indentless_ofList_append (cs : List Char) (rest : String) :
    indentless (String.ofList cs ++ rest).toList = indentless (cs ++ rest.toList) := by
  rw [String.toList_append, String.toList_ofList]

/-- A check begins with the mark and the signal. -/
theorem indentless_check (signal title : String) (b : Bool) :
    ∃ rest, indentless (check signal title b).toList = assertMark ++ (signal.toList ++ rest) := by
  obtain ⟨rest, hrest⟩ := check_eq signal title b
  refine ⟨rest.toList, ?_⟩
  rw [hrest]
  refine (indentless_ofList_append _ _).trans ?_
  simp only [List.cons_append, List.nil_append, indentless_blank, String.toList_append, assertMark_eq]
  exact indentless_cons rfl

theorem waits_check (signal title : String) (b : Bool) : waits (check signal title b).toList = false := by
  obtain ⟨rest, hrest⟩ := indentless_check signal title b
  apply waits_eq_false
  rw [hrest, waitMark_eq, assertMark_eq, List.cons_append, List.cons_prefix_cons]
  exact fun hprefix => absurd hprefix.1 (by decide)

theorem asserts_check (signal title : String) (b : Bool) :
    asserts signal (check signal title b).toList = true := by
  obtain ⟨rest, hrest⟩ := indentless_check signal title b
  rw [asserts, hrest, List.isPrefixOf_iff_prefix, ← List.append_assoc]
  exact List.prefix_append _ _

/-- A check of one signal is none of a signal that starts otherwise. -/
theorem asserts_check_of_ne (signal signal' : String) {c c' : Char} {cs cs' : List Char}
    (h : signal.toList = c :: cs) (h' : signal'.toList = c' :: cs') (hne : c' ≠ c) (title : String)
    (b : Bool) : asserts signal' (check signal title b).toList = false := by
  obtain ⟨rest, hrest⟩ := indentless_check signal title b
  rw [asserts, hrest, Bool.eq_false_iff, ne_eq, List.isPrefixOf_iff_prefix, List.prefix_append_right_inj,
    h, h', List.cons_append, List.cons_prefix_cons]
  exact fun hprefix => hne hprefix.1

theorem indentless_waitLine : indentless waitLine.toList = waitMark := by
  unfold waitLine
  refine (congrArg indentless String.toList_ofList).trans ?_
  simp only [indentless_blank, waitMark_eq]
  exact indentless_cons rfl

theorem waits_waitLine : waits waitLine.toList = true := by
  rw [waits, indentless_waitLine, waitMark_eq]
  decide

theorem asserts_waitLine (signal : String) : asserts signal waitLine.toList = false := by
  apply asserts_eq_false
  rw [indentless_waitLine, waitMark_eq, assertMark_eq, List.cons_prefix_cons]
  exact fun hprefix => absurd hprefix.1 (by decide)

/-! ## Counting -/

theorem countP_unmarked {marked : List Char → Bool} (h : ∀ line, Unmarked line → marked line = false)
    {ls : List String} (hls : ∀ l ∈ ls, Unmarked l.toList) : ls.countP (marked ·.toList) = 0 :=
  List.countP_eq_zero.mpr fun l hl => by simp [h _ (hls l hl)]

/-- Of the lines of a record the one that waits and the checks alone are marked. -/
theorem countP_recordLines {marked : List Char → Bool}
    (h : ∀ line, Unmarked line → marked line = false) (r : Record) :
    (recordLines r).countP (marked ·.toList) =
      (if marked waitLine.toList then 1 else 0) + (checkLines r.extra).countP (marked ·.toList) := by
  have hempty := h _ unmarked_nil
  have hreset := h _ (unmarked_drive "reset" String.toList_ofList rfl (by decide) (by decide) r.isReset)
  have hnumber := h _ (unmarked_numberLine r.value)
  have hfirst := h _ (unmarked_drive "first" String.toList_ofList rfl (by decide) (by decide) r.start)
  rw [recordLines_eq]
  simp only [List.countP_cons, String.toList_empty, hempty, hreset, hnumber, hfirst]
  simp
  omega

/-- A mark that is on one line of each counted record, on no line of the others, and in front of the
    records and behind them where a clock period passes at most. -/
structure CountsRecords (marked : List Char → Bool) (counted : Record → Bool) : Prop where
  unmarked : ∀ line, Unmarked line → marked line = false
  record : ∀ r, (recordLines r).countP (marked ·.toList) = if counted r then 1 else 0

theorem countsRecords_waits : CountsRecords waits fun _ => true where
  unmarked := fun _ h => waits_eq_false h.wait
  record := by
    intro r
    rw [countP_recordLines fun _ h => waits_eq_false h.wait, waits_waitLine]
    cases hextra : r.extra <;> simp [checkLines, waits_check]

theorem countsRecords_asserts_unlock : CountsRecords (asserts "unlock") (·.extra.isSome) where
  unmarked := fun _ h => asserts_eq_false h.check _
  record := by
    intro r
    rw [countP_recordLines fun _ h => asserts_eq_false h.check _, asserts_waitLine]
    have hother := asserts_check_of_ne "warning" "unlock" String.toList_ofList String.toList_ofList
      (by decide)
    cases hextra : r.extra <;> simp [checkLines, asserts_check, hother]

theorem countsRecords_asserts_warning : CountsRecords (asserts "warning") (·.extra.isSome) where
  unmarked := fun _ h => asserts_eq_false h.check _
  record := by
    intro r
    rw [countP_recordLines fun _ h => asserts_eq_false h.check _, asserts_waitLine]
    have hother := asserts_check_of_ne "unlock" "warning" String.toList_ofList String.toList_ofList
      (by decide)
    cases hextra : r.extra <;> simp [checkLines, asserts_check, hother]

theorem CountsRecords.countP_body {marked : List Char → Bool} {counted : Record → Bool}
    (h : CountsRecords marked counted) (rs : List Record) :
    (body rs).countP (marked ·.toList) = rs.countP counted := by
  induction rs with
  | nil => rfl
  | cons r rest ih =>
      rw [List.countP_cons, body, List.flatMap_cons, List.countP_append, h.record]
      exact (congrArg _ ih).trans (Nat.add_comm _ _)

/-- **Marked lines are counted** over the whole testbench: the records give theirs, and the last line
    in front of them may be one more. -/
theorem CountsRecords.countP_linesOf {marked : List Char → Bool} {counted : Record → Bool}
    (h : CountsRecords marked counted) {bench : Testbench} (hbench : Unbroken bench.entity)
    (rs : List Record) :
    (linesOf (bench.render rs)).countP marked =
      rs.countP counted + if marked waitLine.toList then 1 else 0 := by
  have hunbroken : ∀ l ∈ bench.lines rs, Unbroken l := by
    rw [lines]
    simp only [List.forall_mem_append]
    exact ⟨⟨unbroken_preamble hbench, unbroken_body⟩, unbroken_closing⟩
  have hfront := countP_unmarked h.unmarked (unmarked_preamble bench)
  have hbehind := countP_unmarked h.unmarked unmarked_closing
  have hlast := h.unmarked _ unmarked_nil
  have hbody := h.countP_body rs
  rw [body] at hbody
  rw [render, linesOf_unlines hunbroken, List.countP_append, List.countP_map, lines, preamble_eq]
  simp only [List.countP_append, Function.comp_def, hfront, hbehind, hbody, List.countP_singleton, hlast]
  simp
  omega

/-- **A testbench shows its cycles, no more and no less.** The same text drives the same cycles, so that
    they can be read from it; a clock period passes once in front of the records and once in each of them,
    and both outputs are checked once for each record with an assertion. -/
theorem render_determines_cycles (bench : Testbench) :
    (∀ rs rs', bench.render rs = bench.render rs' ↔ List.Forall₂ Record.SameCycle rs rs') ∧
      (∃ reader : String → List Record,
        ∀ rs, List.Forall₂ Record.SameCycle (reader (bench.render rs)) rs) ∧
      (Unbroken bench.entity → ∀ rs,
        (linesOf (bench.render rs)).countP waits = rs.length + 1 ∧
          (linesOf (bench.render rs)).countP (asserts "unlock") = rs.countP (·.extra.isSome) ∧
          (linesOf (bench.render rs)).countP (asserts "warning") = rs.countP (·.extra.isSome)) := by
  refine ⟨bench.render_inj_iff, ?_, ?_⟩
  · refine ⟨Function.invFun bench.render, fun rs => (bench.render_inj_iff _ _).mp ?_⟩
    exact Function.invFun_eq ⟨rs, rfl⟩
  · intro hbench rs
    have hwaits := countsRecords_waits.countP_linesOf hbench rs
    have hunlock := countsRecords_asserts_unlock.countP_linesOf hbench rs
    have hwarning := countsRecords_asserts_warning.countP_linesOf hbench rs
    rw [waits_waitLine, List.countP_true] at hwaits
    rw [asserts_waitLine] at hunlock hwarning
    exact ⟨hwaits, hunlock, hwarning⟩

/-- Two records in the testbench of the default entity: one with an assertion, on a channel of its own. -/
theorem render_determines_cycles_oneChecked :
    let records : List Record := [Record.data 0x5A true, ⟨9, 0, false, some ⟨true, false⟩⟩]
    (linesOf (default.render records)).countP waits = 3 ∧
      (linesOf (default.render records)).countP (asserts "unlock") = 1 ∧
      (linesOf (default.render records)).countP (asserts "warning") = 1 :=
  (render_determines_cycles default).2.2 (unbroken_ofList (by decide)) _

end Testbench

end StimulusBench
