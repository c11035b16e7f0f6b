import StimulusBench.Proofs.Json.Text
import StimulusBench.Proofs.Testbench
import StimulusBench.Replay

/-!
# `StimulusBench.Proofs.Replay.Printing` — what a printed report tells

A report is printed in lines or as an object. The lines begin with different words, so each of them is
found again by how it begins: those of the mismatches, the one with their number, and the verdict at the
end. The object is a JSON text, and reading it gives the numbers and the mismatches of the report back.

## Contents
- **Lines.** `Report.lines`, and `linesOf_plain`: a report printed in lines is these lines.
- **What they tell.** `Report.ToldBy`; `toldBy_lines`.
- **Objects.** `Report.tree`; `parse_json`: a report printed as an object is read as its tree.
-/

namespace StimulusBench

open Testbench (Unbroken linesOf linesOf_unlines unlines unbroken_append unbroken_decimalText
  unbroken_ofList)

namespace Report

/-! ## Lines -/

/-- The line of a mismatch, without its line break. -/
def recordLine (x : Mismatch) : String :=
  "  record " ++ Numeral.decimalText x.index ++ ": expected " ++ pairText x.expected
    ++ ", got " ++ pairText x.actual

/-- The lines of the counts and of the warning at the end. -/
def countLines (report : Report) : List String :=
  ["steps:         " ++ Numeral.decimalText report.steps,
    "assertions:    " ++ Numeral.decimalText report.assertions,
    "unlocks:       " ++ Numeral.decimalText report.unlocks,
    "final warning: " ++ boolText report.finalWarning]

/-- The line that says how many mismatches there are. -/
def mismatchesLine (count : Nat) : String := "mismatches:    " ++ Numeral.decimalText count

/-- The verdict on some mismatches. -/
def verdict (found : List Mismatch) : String := if found.isEmpty then "PASS" else "FAIL"

/-- The lines of a report. -/
def lines (report : Report) : List String :=
  report.countLines ++ mismatchesLine report.mismatches.length ::
    (report.mismatches.map recordLine ++ [verdict report.mismatches])

theorem plain_eq_unlines (report : Report) : report.plain = unlines report.lines := by
  have hverdict : (if report.passed then "PASS\n" else "FAIL\n") = verdict report.mismatches ++ "\n" := by
    unfold passed verdict
    split <;> rfl
  have hline : mismatchLine = fun x => recordLine x ++ "\n" := rfl
  unfold plain
  rw [hverdict, hline, ← String.toList_inj]
  unfold unlines lines countLines mismatchesLine
  simp only [String.toList_append, String.toList_join, List.map_append, List.map_cons, List.map_nil,
    List.map_map, List.flatMap_append, List.flatMap_cons, List.flatMap_nil, List.flatMap_map,
    List.cons_append, List.nil_append, List.append_assoc, List.append_nil, Function.comp_apply]

theorem unbroken_pairText (a : Assertion) : Unbroken (pairText a) := by
  unfold pairText
  simp only [unbroken_append]
  and_intros
  all_goals first
    | with_reducible exact unbroken_decimalText _
    | with_reducible exact unbroken_ofList (by decide)

theorem unbroken_recordLine (x : Mismatch) : Unbroken (recordLine x) := by
  unfold recordLine
  simp only [unbroken_append]
  and_intros
  all_goals first
    | with_reducible exact unbroken_decimalText _
    | with_reducible exact unbroken_pairText _
    | with_reducible exact unbroken_ofList (by decide)

theorem unbroken_verdict (found : List Mismatch) : Unbroken (verdict found) := by
  unfold verdict
  split
  · exact unbroken_ofList (by decide)
  · exact unbroken_ofList (by decide)

theorem unbroken_boolText (b : Bool) : Unbroken (boolText b) := by
  cases b with
  | false => exact unbroken_ofList (by decide)
  | true => exact unbroken_ofList (by decide)

/-- No line of a report holds a line break. -/
theorem unbroken_lines (report : Report) : ∀ l ∈ report.lines, Unbroken l := by
  unfold lines countLines mismatchesLine
  simp only [List.forall_mem_append, List.forall_mem_cons, List.forall_mem_map, unbroken_append]
  and_intros
  all_goals first
    | with_reducible exact unbroken_decimalText _
    | with_reducible exact unbroken_boolText _
    | with_reducible exact unbroken_verdict _
    | with_reducible exact unbroken_ofList (by decide)
    | exact fun x _ => unbroken_recordLine x
    | exact fun _ h => absurd h List.not_mem_nil

/-- **A report in lines**, with nothing behind the last one. -/
theorem linesOf_plain (report : Report) :
    linesOf report.plain = report.lines.map String.toList ++ [[]] := by
  rw [plain_eq_unlines, linesOf_unlines report.unbroken_lines]

/-! ## What they tell -/

/-- Does the line begin like that of a mismatch? -/
def isRecordLine (line : List Char) : Bool := "  record ".toList.isPrefixOf line

/-- Does the line begin like the one that says how many mismatches there are? -/
def isMismatchesLine (line : List Char) : Bool := "mismatches:".toList.isPrefixOf line

/-- **A report is told by some lines**: they begin with its counts and end with its verdict, the lines of
    records are those of its mismatches, in their order, and one line says how many of them there are. -/
structure ToldBy (report : Report) (lines : List (List Char)) : Prop where
  counts : lines.take 4 = report.countLines.map String.toList
  found : lines.filter isRecordLine = report.mismatches.map fun x => (recordLine x).toList
  count : lines.filter isMismatchesLine = [(mismatchesLine (lines.countP isRecordLine)).toList]
  verdict : lines.getLast? = some (verdict report.mismatches).toList

/-- The last line is a pass exactly if there is no mismatch. -/
theorem ToldBy.last_iff {report : Report} {lines : List (List Char)} (h : report.ToldBy lines) :
    lines.getLast? = some "PASS".toList ↔ report.mismatches = [] := by
  rw [h.verdict, Option.some.injEq, String.toList_inj]
  cases report.mismatches with
  | nil => exact ⟨fun _ => rfl, fun _ => rfl⟩
  | cons x rest =>
      have hfail : Report.verdict (x :: rest) ≠ "PASS" := show "FAIL" ≠ "PASS" by decide
      exact ⟨fun hpass => absurd hpass hfail, fun hnil => absurd hnil (List.cons_ne_nil x rest)⟩

theorem isRecordLine_recordLine (x : Mismatch) : isRecordLine (recordLine x).toList = true := by
  unfold isRecordLine recordLine
  simp only [String.append_assoc, String.toList_append, List.isPrefixOf_iff_prefix]
  exact List.prefix_append _ _

theorem isMismatchesLine_recordLine (x : Mismatch) : isMismatchesLine (recordLine x).toList = false := by
  unfold recordLine
  simp only [String.append_assoc, String.toList_append]
  rfl

theorem isRecordLine_mismatchesLine (n : Nat) : isRecordLine (mismatchesLine n).toList = false := by
  unfold mismatchesLine
  rw [String.toList_append]
  rfl

theorem isMismatchesLine_mismatchesLine (n : Nat) : isMismatchesLine (mismatchesLine n).toList = true := by
  unfold mismatchesLine
  rw [String.toList_append]
  rfl

/-- The lines of the counts, and the verdict, begin in no such way. -/
theorem isRecordLine_countLines (report : Report) :
    ∀ l ∈ report.countLines, isRecordLine l.toList = false ∧ isMismatchesLine l.toList = false := by
  unfold countLines
  simp only [List.forall_mem_cons, String.toList_append]
  exact ⟨⟨rfl, rfl⟩, ⟨rfl, rfl⟩, ⟨rfl, rfl⟩, ⟨rfl, rfl⟩, fun _ h => absurd h List.not_mem_nil⟩

theorem isRecordLine_verdict (found : List Mismatch) :
    isRecordLine (Report.verdict found).toList = false ∧
      isMismatchesLine (Report.verdict found).toList = false := by
  unfold Report.verdict
  split
  · exact ⟨rfl, rfl⟩
  · exact ⟨rfl, rfl⟩

/-- The lines of a kind to which neither the counts nor the verdict belong. -/
theorem filter_lines (report : Report) {kind : List Char → Bool}
    (hcounts : ∀ l ∈ report.countLines, kind l.toList = false)
    (hverdict : kind (Report.verdict report.mismatches).toList = false) :
    (report.lines.map String.toList).filter kind =
      [(mismatchesLine report.mismatches.length).toList].filter kind ++
        (report.mismatches.map fun x => (recordLine x).toList).filter kind := by
  have hfront : (report.countLines.map String.toList).filter kind = [] := by
    rw [List.filter_eq_nil_iff, List.forall_mem_map]
    intro l hl
    rw [hcounts l hl]
    exact Bool.false_ne_true
  have hback : [(Report.verdict report.mismatches).toList].filter kind = [] := by
    rw [List.filter_singleton, hverdict]
    rfl
  rw [lines, List.map_append, List.map_cons, List.map_append, List.map_map, List.filter_append, hfront,
    List.nil_append, ← List.singleton_append, List.filter_append, List.filter_append, List.map_singleton,
    hback, List.append_nil]
  rfl

theorem filter_isRecordLine_lines (report : Report) :
    (report.lines.map String.toList).filter isRecordLine =
      report.mismatches.map fun x => (recordLine x).toList := by
  have hall : ∀ l ∈ report.mismatches.map fun x => (recordLine x).toList, isRecordLine l = true :=
    List.forall_mem_map.mpr fun x _ => isRecordLine_recordLine x
  rw [filter_lines report (fun l hl => (report.isRecordLine_countLines l hl).1)
      (isRecordLine_verdict _).1, List.filter_singleton, isRecordLine_mismatchesLine,
    List.filter_eq_self.mpr hall]
  rfl

theorem filter_isMismatchesLine_lines (report : Report) :
    (report.lines.map String.toList).filter isMismatchesLine =
      [(mismatchesLine report.mismatches.length).toList] := by
  have hnone : (report.mismatches.map fun x => (recordLine x).toList).filter isMismatchesLine = [] := by
    rw [List.filter_eq_nil_iff, List.forall_mem_map]
    intro x _
    rw [isMismatchesLine_recordLine]
    exact Bool.false_ne_true
  rw [filter_lines report (fun l hl => (report.isRecordLine_countLines l hl).2)
      (isRecordLine_verdict _).2, List.filter_singleton, isMismatchesLine_mismatchesLine, hnone]
  rfl

/-- **A report is told by its lines.** -/
theorem toldBy_lines (report : Report) : report.ToldBy (report.lines.map String.toList) := by
  constructor
  case counts => rfl
  case found => exact report.filter_isRecordLine_lines
  case count =>
    rw [report.filter_isMismatchesLine_lines, List.countP_eq_length_filter,
      report.filter_isRecordLine_lines, List.length_map]
  case verdict =>
    rw [lines, ← List.cons_append, ← List.append_assoc, List.map_append, List.map_singleton,
      List.getLast?_concat]

end Report

/-! ## Objects -/

/-- The flags of an assertion as a JSON list. -/
def Assertion.tree (a : Assertion) : Json := .array [.int a.flags.1.toNat, .int a.flags.2.toNat]

/-- A mismatch as a JSON object. -/
def Mismatch.tree (x : Mismatch) : Json :=
  .object [("index", .int x.index), ("expected", x.expected.tree), ("actual", x.actual.tree)]

namespace Report

/-- A report as a JSON object. -/
def tree (report : Report) : Json :=
  .object [("steps", .int report.steps), ("assertions", .int report.assertions),
    ("unlocks", .int report.unlocks), ("final_warning", .bool report.finalWarning),
    ("mismatches", .array (report.mismatches.map Mismatch.tree))]

/-- The numbers of a report fit a word. -/
structure Fits (report : Report) : Prop where
  steps : report.steps < 1 <<< 64
  assertions : report.assertions < 1 <<< 64
  unlocks : report.unlocks < 1 <<< 64
  index : ∀ x ∈ report.mismatches, x.index < 1 <<< 64

open Json.Cursor (Blank Plain Reads IsMember commaed reads_number reads_bool reads_list reads_object)

variable {depth : Nat}

theorem toList_pairJson (a : Assertion) :
    (pairJson a).toList = '[' :: (commaed ["\n        ".toList ++ Numeral.decimal a.flags.1.toNat,
      "\n        ".toList ++ Numeral.decimal a.flags.2.toNat] ++ ("\n      ".toList ++ [']'])) := by
  unfold pairJson commaed Numeral.decimalText
  simp only [String.toList_append, String.toList_ofList, String.reduceToList, List.flatMap_cons,
    List.flatMap_nil, List.cons_append, List.nil_append, List.append_assoc, List.append_nil]

theorem reads_pairJson (a : Assertion) : Reads (depth + 1) (pairJson a).toList a.tree := by
  have hblank : Blank "\n        ".toList := by decide
  have hclosing : Blank "\n      ".toList := by decide
  have hflag (b : UInt8) : Reads depth ("\n        ".toList ++ Numeral.decimal b.toNat) (.int b.toNat) :=
    (reads_number (Nat.lt_trans b.toNat_lt (by decide))).indent hblank
  rw [toList_pairJson]
  exact reads_list (.cons (hflag a.flags.1) (.cons (hflag a.flags.2) .nil)) hclosing

/-- A member of an object on a line of its own. -/
def memberText (indent name : String) (t : List Char) : List Char :=
  indent.toList ++ '\x22' :: (name.toList ++ '\x22' :: ':' :: ([' '] ++ t))

theorem isMember_memberText {indent name : String} {t : List Char} {v : Json}
    (hindent : Blank indent.toList) (hname : Plain name.toList) (h : Reads depth t v) :
    IsMember depth (memberText indent name t) (name, v) := by
  have hmember := IsMember.mk hindent hname (h.indent (show Blank [' '] by decide))
  rwa [String.ofList_toList] at hmember

theorem toList_mismatchJson (x : Mismatch) :
    (mismatchJson x).toList = "    ".toList ++ '\x7b' :: (commaed
      [memberText "\n      " "index" (Numeral.decimal x.index),
        memberText "\n      " "expected" (pairJson x.expected).toList,
        memberText "\n      " "actual" (pairJson x.actual).toList] ++ ("\n    ".toList ++ ['\x7d'])) := by
  unfold mismatchJson memberText commaed Numeral.decimalText
  simp only [String.toList_append, String.toList_ofList, String.reduceToList, List.flatMap_cons,
    List.flatMap_nil, List.cons_append, List.nil_append, List.append_assoc, List.append_nil]

theorem reads_mismatchJson {x : Mismatch} (h : x.index < 1 <<< 64) :
    Reads (depth + 2) (mismatchJson x).toList x.tree := by
  have hblank : Blank "\n      ".toList := by decide
  have hopening : Blank "    ".toList := by decide
  have hclosing : Blank "\n    ".toList := by decide
  have hindex : IsMember (depth + 1) (memberText "\n      " "index" (Numeral.decimal x.index))
      ("index", .int x.index) := isMember_memberText hblank (by decide) (reads_number h)
  have hexpected : IsMember (depth + 1) (memberText "\n      " "expected" (pairJson x.expected).toList)
      ("expected", x.expected.tree) := isMember_memberText hblank (by decide) (reads_pairJson x.expected)
  have hactual : IsMember (depth + 1) (memberText "\n      " "actual" (pairJson x.actual).toList)
      ("actual", x.actual.tree) := isMember_memberText hblank (by decide) (reads_pairJson x.actual)
  rw [toList_mismatchJson]
  exact (reads_object (.cons hindex (.cons hexpected (.cons hactual .nil))) hclosing).indent hopening

/-- The mismatches as a list. -/
def mismatchesJson (found : List Mismatch) : String :=
  match found with
  | [] => "[]"
  | ms => "[\n" ++ String.intercalate ",\n" (ms.map mismatchJson) ++ "\n  ]"

theorem toList_intercalate_cons (s : String) (rest : List String) :
    (String.intercalate ",\n" (s :: rest)).toList =
      s.toList ++ rest.flatMap fun s => ',' :: '\n' :: s.toList := by
  induction rest generalizing s with
  | nil => rw [String.intercalate_singleton, List.flatMap_nil, List.append_nil]
  | cons s' rest ih =>
      rw [String.intercalate_cons_cons, String.toList_append, String.toList_append, ih, List.flatMap_cons,
        List.append_assoc]
      rfl

/-- Every mismatch stands on lines of its own. -/
def mismatchText (x : Mismatch) : List Char := '\n' :: (mismatchJson x).toList

theorem toList_mismatchesJson_cons (x : Mismatch) (rest : List Mismatch) :
    (mismatchesJson (x :: rest)).toList =
      '[' :: (commaed ((x :: rest).map mismatchText) ++ ("\n  ".toList ++ [']'])) := by
  show ("[\n" ++ String.intercalate ",\n" (mismatchJson x :: rest.map mismatchJson) ++ "\n  ]").toList = _
  rw [String.toList_append, String.toList_append, toList_intercalate_cons, List.flatMap_map, List.map_cons,
    commaed, List.flatMap_map, List.append_assoc, List.append_assoc, List.append_assoc]
  simp only [mismatchText, String.reduceToList, List.cons_append, List.nil_append]

theorem reads_mismatchesJson {found : List Mismatch} (h : ∀ x ∈ found, x.index < 1 <<< 64) :
    Reads (depth + 3) (mismatchesJson found).toList (.array (found.map Mismatch.tree)) := by
  have hitems : List.Forall₂ (Reads (depth + 2)) (found.map mismatchText) (found.map Mismatch.tree) := by
    rw [List.forall₂_map_left_iff, List.forall₂_map_right_iff, List.forall₂_same]
    exact fun x hx => (reads_mismatchJson (h x hx)).indent (show Blank ['\n'] by decide)
  cases found with
  | nil => exact reads_list hitems (show Blank [] by decide)
  | cons x rest =>
      rw [toList_mismatchesJson_cons]
      exact reads_list hitems (show Blank "\n  ".toList by decide)

theorem json_eq (report : Report) :
    report.json = "\x7b\n  \"steps\": " ++ Numeral.decimalText report.steps
      ++ ",\n  \"assertions\": " ++ Numeral.decimalText report.assertions
      ++ ",\n  \"unlocks\": " ++ Numeral.decimalText report.unlocks
      ++ ",\n  \"final_warning\": " ++ boolText report.finalWarning
      ++ ",\n  \"mismatches\": " ++ mismatchesJson report.mismatches ++ "\n\x7d" := rfl

theorem toList_json (report : Report) :
    report.json.toList = '\x7b' :: (commaed
      [memberText "\n  " "steps" (Numeral.decimal report.steps),
        memberText "\n  " "assertions" (Numeral.decimal report.assertions),
        memberText "\n  " "unlocks" (Numeral.decimal report.unlocks),
        memberText "\n  " "final_warning" (boolText report.finalWarning).toList,
        memberText "\n  " "mismatches" (mismatchesJson report.mismatches).toList]
          ++ (['\n'] ++ ['\x7d'])) := by
  refine (congrArg String.toList report.json_eq).trans ?_
  unfold memberText commaed Numeral.decimalText
  simp only [String.toList_append, String.toList_ofList, String.reduceToList, List.flatMap_cons,
    List.flatMap_nil, List.cons_append, List.nil_append, List.append_assoc, List.append_nil]

/-- **A report as an object** is read as its tree. -/
theorem reads_json {report : Report} (h : report.Fits) :
    Reads (depth + 4) report.json.toList report.tree := by
  have hblank : Blank "\n  ".toList := by decide
  have hsteps : IsMember (depth + 3) (memberText "\n  " "steps" (Numeral.decimal report.steps))
      ("steps", .int report.steps) := isMember_memberText hblank (by decide) (reads_number h.steps)
  have hassertions : IsMember (depth + 3)
      (memberText "\n  " "assertions" (Numeral.decimal report.assertions))
      ("assertions", .int report.assertions) :=
    isMember_memberText hblank (by decide) (reads_number h.assertions)
  have hunlocks : IsMember (depth + 3) (memberText "\n  " "unlocks" (Numeral.decimal report.unlocks))
      ("unlocks", .int report.unlocks) := isMember_memberText hblank (by decide) (reads_number h.unlocks)
  have hwarning : IsMember (depth + 3)
      (memberText "\n  " "final_warning" (boolText report.finalWarning).toList)
      ("final_warning", .bool report.finalWarning) :=
    isMember_memberText hblank (by decide) (reads_bool report.finalWarning)
  have hmismatches : IsMember (depth + 3)
      (memberText "\n  " "mismatches" (mismatchesJson report.mismatches).toList)
      ("mismatches", .array (report.mismatches.map Mismatch.tree)) :=
    isMember_memberText hblank (by decide) (reads_mismatchesJson h.index)
  rw [toList_json]
  exact reads_object (.cons hsteps (.cons hassertions (.cons hunlocks (.cons hwarning
    (.cons hmismatches .nil))))) (show Blank ['\n'] by decide)

/-- **A printed object** is parsed as the tree of the report. -/
theorem parse_json {report : Report} (h : report.Fits) :
    Json.parse (report.json ++ "\n") = .ok report.tree := by
  have hread : Reads Json.maxDepth report.json.toList report.tree := reads_json h
  exact Json.parse_of_reads hread (show Blank ['\n'] by decide) (by rw [String.toList_append]; rfl)

end Report

end StimulusBench
