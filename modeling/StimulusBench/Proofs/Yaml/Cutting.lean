import StimulusBench.Proofs.Number.Numeral
import StimulusBench.Proofs.Yaml.View

/-!
# `StimulusBench.Proofs.Yaml.Cutting` — the tokens of nested lists of numbers

Lists of numbers are written with six kinds of tokens: opening and closing brackets, commas, dashes,
numerals, and the end of the text. For each of them this module says what cutting it does to a view.

## Contents
- **Marks aside.** `At.push`, `At.skip`, `At.saveKey`.
- **Brackets and commas.** `At.cut_openBracket`, `At.cut_closeBracket`, `At.cut_comma`.
- **Dashes.** `At.cut_dash_open` starts a list, `At.cut_dash_next` goes on with one.
- **Numerals.** `plain_digits` reads digits; `At.cut_numeral_flow` and `At.cut_numeral_block`.
- **The end.** `Sees.cutAll_end`, and `tokens_of_leads` for the text as a whole.
-/

namespace StimulusBench.Yaml

namespace Scanner

variable {s t : Scanner} {v w : View} {cs : List Char}

/-! ## Marks aside -/

theorem At.push (h : At s v) (kind : TokenKind) (m : Mark) :
    At (s.push kind m) { v with kinds := v.kinds ++ [kind] } := by
  refine { h with kinds := ?_ }
  show (_ :: s.tokens).reverse.map _ = _
  rw [List.reverse_cons, List.map_append, h.kinds]
  rfl

theorem At.skip (h : At s v) (n : Nat) :
    At (s.skip n) { v with chars := v.chars.drop n, column := v.column + n } :=
  { h with
    chars := congrArg (List.drop n) h.chars
    column := congrArg (· + n) h.column }

/-- A key that may start here is optional if it does not stand where only a key may stand. -/
theorem At.saveKey (h : At s v) (hopt : v.brackets = 0 → v.indent ≠ v.column) :
    ∃ key, s.saveKey = .ok { s with key } ∧ At { s with key } v := by
  have hkeys := allOptional_cons.mp h.optional
  unfold Scanner.saveKey
  split
  next =>
    -- only a key in the column of the block around it is required
    have hrequired : (!s.inFlow && decide (s.indent = s.column)) = false := by
      rw [h.inFlow, h.indent, Scanner.column, h.column]
      rcases Nat.eq_zero_or_pos v.brackets with hb | hb
      · rw [decide_eq_false (hopt hb), Bool.and_false]
      · rw [decide_eq_true hb]
        rfl
    refine ⟨_, by rw [h.dropKey]; rfl, h.withKeys rfl (allOptional_cons.mpr ⟨?_, hkeys.2⟩)⟩
    intro k hk
    rw [Option.some.inj (List.mem_singleton.mp hk)]
    exact hrequired
  next => exact ⟨s.key, rfl, h⟩

/-! ## Brackets and commas -/

theorem cut_openBracket_eq (h : s.cursor.chars = '[' :: cs) :
    s.cut = s.cutFlowStart .flowListStart := by
  unfold cut
  rw [h]
  simp [atDocumentIndicator]

theorem cut_closeBracket_eq (h : s.cursor.chars = ']' :: cs) :
    s.cut = s.cutFlowEnd .flowListEnd := by
  unfold cut
  rw [h]
  simp [atDocumentIndicator]

theorem cut_comma_eq (h : s.cursor.chars = ',' :: cs) : s.cut = s.cutFlowEntry := by
  unfold cut
  rw [h]
  simp [atDocumentIndicator]

/-- **An opening bracket.** -/
theorem At.cut_openBracket (h : At s v) (hchars : v.chars = '[' :: cs)
    (hopt : v.brackets = 0 → v.indent ≠ v.column) :
    ∃ t, s.cut = .ok t ∧
      At t { v with
        kinds := v.kinds ++ [.flowListStart]
        brackets := v.brackets + 1
        keyAllowed := true
        chars := cs
        column := v.column + 1 } := by
  obtain ⟨key, hsave, hs⟩ := h.saveKey hopt
  have hpushed := (hs.push .flowListStart s.cursor.mark).skip 1
  rw [cut_openBracket_eq (h.chars.trans hchars), cutFlowStart, hsave]
  refine ⟨_, rfl, { hpushed with
    brackets := congrArg (· + 1) h.brackets
    keyAllowed := rfl
    chars := hpushed.chars.trans (congrArg (List.drop 1) hchars)
    optional := allOptional_cons.mpr ⟨allOptional_none, hs.optional⟩ }⟩

/-- **A closing bracket.** -/
theorem At.cut_closeBracket (h : At s v) (hchars : v.chars = ']' :: cs) {n : Nat}
    (hopen : v.brackets = n + 1) :
    ∃ t, s.cut = .ok t ∧
      At t { v with
        kinds := v.kinds ++ [.flowListEnd]
        brackets := n
        keyAllowed := false
        chars := cs
        column := v.column + 1 } := by
  -- the key of the text around the brackets comes back, optional as it was
  obtain ⟨key, keys, hkeys⟩ := List.exists_cons_of_length_eq_add_one (h.brackets.trans hopen)
  have hlength : keys.length = n := by
    have hcount := h.brackets.trans hopen
    rw [hkeys, List.length_cons] at hcount
    exact Nat.succ.inj hcount
  have hpushed := (h.push .flowListEnd s.cursor.mark).skip 1
  rw [cut_closeBracket_eq (h.chars.trans hchars), cutFlowEnd, h.dropKey]
  refine ⟨_, rfl, ?_⟩
  dsimp only
  rw [hkeys]
  exact { hpushed with
    brackets := hlength
    keyAllowed := rfl
    chars := hpushed.chars.trans (congrArg (List.drop 1) hchars)
    optional := hkeys ▸ (allOptional_cons.mp h.optional).2 }

/-- **A comma.** -/
theorem At.cut_comma (h : At s v) (hchars : v.chars = ',' :: cs) :
    ∃ t, s.cut = .ok t ∧
      At t { v with
        kinds := v.kinds ++ [.flowEntry]
        keyAllowed := true
        chars := cs
        column := v.column + 1 } := by
  have hpushed := (h.push .flowEntry s.cursor.mark).skip 1
  rw [cut_comma_eq (h.chars.trans hchars), cutFlowEntry, h.dropKey]
  exact ⟨_, rfl, { hpushed with
    keyAllowed := rfl
    chars := hpushed.chars.trans (congrArg (List.drop 1) hchars)
    optional := allOptional_cons.mpr ⟨allOptional_none, (allOptional_cons.mp h.optional).2⟩ }⟩

/-! ## Dashes -/

theorem cut_dash_eq (h : s.cursor.chars = '-' :: ' ' :: cs) : s.cut = s.cutBlockEntry := by
  unfold cut
  rw [h]
  simp [atDocumentIndicator, wordEnds, isBlank]

/-- A dash in a column that is rolled to already. -/
theorem At.cut_dash_of_rolled (h : At s v) (hchars : v.chars = '-' :: ' ' :: cs)
    (hkey : v.keyAllowed = true)
    (hrolled : At (s.rollIndent s.column none .blockListStart s.cursor.mark) w)
    (hsame : w.chars = v.chars) :
    ∃ t, s.cut = .ok t ∧
      At t { w with
        kinds := w.kinds ++ [.blockEntry]
        keyAllowed := true
        chars := ' ' :: cs
        column := w.column + 1 } := by
  have hallowed : (!s.inFlow && !s.keyAllowed) = false := by
    rw [h.keyAllowed, hkey]
    exact Bool.and_false _
  have hpushed := (hrolled.push .blockEntry
    (s.rollIndent s.column none .blockListStart s.cursor.mark).cursor.mark).skip 1
  rw [cut_dash_eq (h.chars.trans hchars), cutBlockEntry, hallowed, if_neg Bool.false_ne_true,
    hrolled.dropKey]
  exact ⟨_, rfl, { hpushed with
    keyAllowed := rfl
    chars := hpushed.chars.trans (congrArg (List.drop 1) (hsame.trans hchars))
    optional := allOptional_cons.mpr
      ⟨allOptional_none, (allOptional_cons.mp hrolled.optional).2⟩ }⟩

/-- **The first dash of a list** lies deeper than the block around it. -/
theorem At.cut_dash_open (h : At s v) (hchars : v.chars = '-' :: ' ' :: cs) (hflow : v.brackets = 0)
    (hkey : v.keyAllowed = true) (hdeeper : v.indent < v.column) :
    ∃ t, s.cut = .ok t ∧
      At t { v with
        kinds := v.kinds ++ [.blockListStart, .blockEntry]
        indent := v.column
        outerIndents := v.indent :: v.outerIndents
        chars := ' ' :: cs
        column := v.column + 1 } := by
  have hroll : s.rollIndent s.column none .blockListStart s.cursor.mark =
      { s with outerIndents := s.indent :: s.outerIndents, indent := s.column }.push
        .blockListStart s.cursor.mark := by
    have hcolumn : s.indent < s.column := by
      rw [h.indent, Scanner.column, h.column]
      exact hdeeper
    unfold rollIndent
    rw [h.inFlow, hflow, if_neg (by decide), if_pos hcolumn]
  have hrolled : At (s.rollIndent s.column none .blockListStart s.cursor.mark)
      { v with
        kinds := v.kinds ++ [.blockListStart]
        indent := v.column
        outerIndents := v.indent :: v.outerIndents } := by
    rw [hroll]
    exact { h.push .blockListStart s.cursor.mark with
      indent := congrArg Int.ofNat h.column
      outerIndents := by
        show s.indent :: s.outerIndents = _
        rw [h.indent, h.outerIndents] }
  obtain ⟨t, hcut, ht⟩ := h.cut_dash_of_rolled hchars hkey hrolled rfl
  refine ⟨t, hcut, ?_⟩
  rw [List.append_assoc, ← hkey] at ht
  exact ht

/-- **A further dash of a list** stands in the column of the first. -/
theorem At.cut_dash_next (h : At s v) (hchars : v.chars = '-' :: ' ' :: cs) (hflow : v.brackets = 0)
    (hkey : v.keyAllowed = true) (hsame : v.indent = v.column) :
    ∃ t, s.cut = .ok t ∧
      At t { v with
        kinds := v.kinds ++ [.blockEntry]
        chars := ' ' :: cs
        column := v.column + 1 } := by
  have hroll : s.rollIndent s.column none .blockListStart s.cursor.mark = s := by
    have hcolumn : ¬ s.indent < s.column := by
      rw [h.indent, Scanner.column, h.column, hsame]
      exact Int.lt_irrefl _
    unfold rollIndent
    rw [h.inFlow, hflow, if_neg (by decide), if_neg hcolumn]
  obtain ⟨t, hcut, ht⟩ := h.cut_dash_of_rolled hchars hkey (hroll.symm ▸ h) rfl
  refine ⟨t, hcut, ?_⟩
  rw [← hkey] at ht
  exact ht

/-! ## Numerals -/

theorem isBreak_of_isDigit {c : Char} (h : Decimal.isDigit c = true) : isBreak c = false := by
  have hne := fun d => Numeral.ne_of_isDigit (d := d) h
  simp [isBreak, hne '\n' rfl, hne '\r' rfl, hne '\u0085' rfl, hne '\u2028' rfl, hne '\u2029' rfl]

theorem isSolid_of_isDigit {c : Char} (h : Decimal.isDigit c = true) : isSolid c = true := by
  have hne := fun d => Numeral.ne_of_isDigit (d := d) h
  simp [isSolid, isBreak_of_isDigit h, hne ' ' rfl, hne '\t' rfl, hne '#' rfl,
    hne byteOrderMark (by decide)]

/-- One digit of a plain scalar. -/
theorem plain_digit (inFlow : Bool) (indent : Int) (acc : List Char) (m : Mark) {c : Char}
    (h : Decimal.isDigit c = true) (cs : List Char) :
    plain inFlow indent acc .none m (c :: cs) = plain inFlow indent (c :: acc) .none m.next cs := by
  have hne := fun d => Numeral.ne_of_isDigit (d := d) h
  conv => lhs; unfold plain
  split
  next heq => cases heq
  next heq => exact absurd (List.cons.inj heq).1 (hne '\r' rfl)
  next heq =>
    obtain ⟨rfl, rfl⟩ := List.cons.inj heq
    simp [isBreak_of_isDigit h, isBlank, isFlowIndicator, closeGap, Gap.folded, hne ' ' rfl,
      hne '\t' rfl, hne ':' rfl, hne ',' rfl, hne '[' rfl, hne ']' rfl, hne '\x7b' rfl, hne '\x7d' rfl]

/-- Several digits of a plain scalar. -/
theorem plain_digits (inFlow : Bool) (indent : Int) (acc : List Char) (m : Mark) {ds : List Char}
    (h : ∀ c ∈ ds, Decimal.isDigit c = true) (cs : List Char) :
    plain inFlow indent acc .none m (ds ++ cs) =
      plain inFlow indent (ds.reverse ++ acc) .none (m.forward ds.length) cs := by
  induction ds generalizing acc m with
  | nil => rfl
  | cons c ds ih =>
      rw [List.cons_append, plain_digit inFlow indent acc m (h c List.mem_cons_self),
        ih _ _ fun d hd => h d (List.mem_cons_of_mem c hd), List.reverse_cons, List.append_assoc,
        List.length_cons, Nat.add_comm]
      simp only [Mark.next, Mark.forward, Nat.add_assoc]
      rfl

/-- Inside brackets a plain scalar ends in front of a comma or a closing bracket. -/
theorem plain_flowEnd (indent : Int) (acc : List Char) (m : Mark) {d : Char}
    (hd : d = ',' ∨ d = ']') (cs : List Char) :
    plain true indent acc .none m (d :: cs) = .ok ⟨acc.reverse, false, ⟨d :: cs, m⟩⟩ := by
  rcases hd with rfl | rfl <;> rfl

/-- Behind a line break, the blanks in front of the next word are no part of a plain scalar. -/
theorem plain_indentation (inFlow : Bool) (indent : Int) (acc first more : List Char) (m : Mark)
    (n : Nat) (cs : List Char) :
    plain inFlow indent acc (.breaks first more) m (List.replicate n ' ' ++ cs) =
      plain inFlow indent acc (.breaks first more) (m.forward n) cs := by
  induction n generalizing m with
  | zero => rfl
  | succ n ih =>
      rw [List.replicate_succ, List.cons_append]
      conv => lhs; unfold plain
      simp [isBreak, isBlank, Gap.blank, ih, Mark.next, Mark.forward, Nat.add_assoc, Nat.add_comm 1 n]

/-- What follows an item of a list in lines: the end of the text, or a dash no deeper than the list. -/
def ItemEnds (indent : Int) (column : Nat) (cs : List Char) : Prop :=
  cs = [] ∨ (column : Int) ≤ indent ∧ ∃ more, cs = '-' :: ' ' :: more

/-- Outside of brackets a plain scalar ends with its line if a dash follows that lies no deeper than
    the list it is an item of. -/
theorem plain_lineEnd {indent : Int} (acc : List Char) (m : Mark) {n : Nat} {cs : List Char}
    (hends : ItemEnds indent n cs) :
    plain false (indent + 1) acc .none m ('\n' :: (List.replicate n ' ' ++ cs)) =
      .ok ⟨acc.reverse, true, ⟨cs, (m.newLine 1).forward n⟩⟩ := by
  show plain false (indent + 1) acc (.breaks ['\n'] []) (m.newLine 1) _ = _
  rw [plain_indentation]
  rcases hends with rfl | ⟨hcolumn, more, rfl⟩
  · rfl
  · have hdedented : (((m.newLine 1).forward n).column : Int) < indent + 1 := by
      show ((0 + n : Nat) : Int) < indent + 1
      omega
    unfold plain
    simp [isBreak, isBlank, Gap.hasBreak, hdedented]

theorem cut_digit_eq {c : Char} (hc : Decimal.isDigit c = true) (h : s.cursor.chars = c :: cs) :
    s.cut = s.cutPlain := by
  -- a digit is none of the characters that start another token
  have hne := fun d => Numeral.ne_of_isDigit (d := d) hc
  have hdocument : atDocumentIndicator s.cursor.mark (c :: cs) = false := by
    unfold atDocumentIndicator
    split
    next heq => exact absurd (List.cons.inj heq).1 (hne '-' rfl)
    next heq => exact absurd (List.cons.inj heq).1 (hne '.' rfl)
    next => exact Bool.and_false _
  have hstarts : startsPlain s.inFlow c cs = true := by
    simp [startsPlain, isBlank, isBreak_of_isDigit hc, isIndicator, hne ' ' rfl, hne '\t' rfl,
      hne '-' rfl, hne '?' rfl, hne ':' rfl, hne ',' rfl, hne '[' rfl, hne ']' rfl, hne '\x7b' rfl,
      hne '\x7d' rfl, hne '#' rfl, hne '&' rfl, hne '*' rfl, hne '!' rfl, hne '|' rfl, hne '>' rfl,
      hne '\'' rfl, hne '\x22' rfl, hne '%' rfl, hne '@' rfl, hne '\x60' rfl]
  unfold cut
  rw [h]
  simp [hdocument, hstarts, hne '%' rfl, hne '[' rfl, hne '\x7b' rfl, hne ']' rfl, hne '\x7d' rfl,
    hne ',' rfl, hne '-' rfl, hne '?' rfl, hne ':' rfl, hne '*' rfl, hne '&' rfl, hne '!' rfl,
    hne '|' rfl, hne '>' rfl, hne '\'' rfl, hne '\x22' rfl]

/-- A numeral, where it is known how a plain scalar ends behind its digits. -/
theorem At.cut_numeral (h : At s v) {n column : Nat} {more : List Char}
    (hchars : v.chars = Numeral.decimal n ++ more) (hopt : v.brackets = 0 → v.indent ≠ v.column)
    {broke : Bool}
    (hends : ∀ m : Mark, m.column = v.column + (Numeral.decimal n).length →
      ∃ behind, plain (decide (0 < v.brackets)) (v.indent + 1) (Numeral.decimal n).reverse .none m more =
        .ok ⟨Numeral.decimal n, broke, behind⟩ ∧ behind.chars = cs ∧ behind.mark.column = column) :
    ∃ t, s.cut = .ok t ∧
      At t { v with
        kinds := v.kinds ++ [.scalar (Numeral.decimal n) .plain]
        keyAllowed := broke
        chars := cs
        column := column } := by
  obtain ⟨c, ds, hds, hdigit, -⟩ := Numeral.exists_decimal_eq n
  have hcut : s.cut = s.cutPlain := by
    apply cut_digit_eq hdigit
    rw [h.chars, hchars, hds, List.cons_append]
  obtain ⟨key, hsave, hs⟩ := h.saveKey hopt
  obtain ⟨behind, hplain, hbehind, hcolumn⟩ :=
    hends (s.cursor.mark.forward (Numeral.decimal n).length) (congrArg (· + _) h.column)
  have hread : plain s.inFlow (s.indent + 1) [] .none s.cursor.mark s.cursor.chars =
      .ok ⟨Numeral.decimal n, broke, behind⟩ := by
    rw [h.inFlow, h.indent, h.chars, hchars,
      plain_digits _ _ _ _ fun _ => Numeral.isDigit_of_mem_decimal, List.append_nil]
    exact hplain
  have hpushed := hs.push (.scalar (Numeral.decimal n) .plain) s.cursor.mark
  rw [hcut, cutPlain, hsave]
  show ∃ t, (plain s.inFlow (s.indent + 1) [] .none s.cursor.mark s.cursor.chars >>= _) = .ok t ∧ _
  rw [hread]
  exact ⟨_, rfl, { hpushed with keyAllowed := rfl, chars := hbehind, column := hcolumn }⟩

/-- **A numeral inside brackets** ends in front of a comma or a closing bracket. -/
theorem At.cut_numeral_flow (h : At s v) {n : Nat} {d : Char}
    (hchars : v.chars = Numeral.decimal n ++ d :: cs) (hd : d = ',' ∨ d = ']')
    (hflow : 0 < v.brackets) :
    ∃ t, s.cut = .ok t ∧
      At t { v with
        kinds := v.kinds ++ [.scalar (Numeral.decimal n) .plain]
        keyAllowed := false
        chars := d :: cs
        column := v.column + (Numeral.decimal n).length } := by
  apply h.cut_numeral hchars fun hzero => absurd hzero (Nat.ne_of_gt hflow)
  intro m hm
  rw [decide_eq_true hflow, plain_flowEnd _ _ _ hd, List.reverse_reverse]
  exact ⟨_, rfl, rfl, hm⟩

/-- **A numeral in lines** ends with its line, and the indentation of the next line is passed. -/
theorem At.cut_numeral_block (h : At s v) {n column : Nat}
    (hchars : v.chars = Numeral.decimal n ++ '\n' :: (List.replicate column ' ' ++ cs))
    (hends : ItemEnds v.indent column cs) (hflow : v.brackets = 0) (hdeeper : v.indent < v.column) :
    ∃ t, s.cut = .ok t ∧
      At t { v with
        kinds := v.kinds ++ [.scalar (Numeral.decimal n) .plain]
        keyAllowed := true
        chars := cs
        column := column } := by
  apply h.cut_numeral hchars fun _ => Int.ne_of_lt hdeeper
  intro m _
  rw [hflow, show decide (0 < 0) = false from rfl, plain_lineEnd _ _ hends, List.reverse_reverse]
  exact ⟨_, rfl, rfl, Nat.zero_add column⟩

/-! ## The end -/

theorem View.kinds_unrolled_moved (v : View) (n : Nat) (column : Int) :
    (View.unrolled { v with column := n } column).kinds = (v.unrolled column).kinds := by
  unfold View.unrolled
  dsimp only
  split <;> rfl

/-- Without brackets and without a possible key, no token is held back. -/
theorem settled_eq (hkey : s.key = none) (houter : s.outerKeys = []) :
    s.settled = s.tokens.reverse := by
  unfold settled
  rw [hkey, houter]
  show (s.tokens.drop (s.count - s.count)).reverse = _
  rw [Nat.sub_self, List.drop_zero]

theorem At.cut_end (h : At s v) (hend : v.chars = []) (hflow : v.brackets = 0) :
    ∃ t, s.cut = .ok t ∧ t.done = true ∧ t.key = none ∧ t.outerKeys = [] ∧
      t.tokens.reverse.map (·.kind) = (v.unrolled (-1)).kinds ++ [.streamEnd] := by
  have hcut : s.cut = s.cutEnd := by
    unfold cut
    rw [h.chars, hend]
  -- a text that does not end with a line break ends where the next line would start
  let m := if s.cursor.mark.column = 0 then s.cursor.mark
    else ⟨s.cursor.mark.index, s.cursor.mark.line + 1, 0⟩
  let moved : Scanner := { s with cursor := ⟨[], m⟩ }
  have hmoved : At moved { v with column := m.column } :=
    { h with chars := hend.symm, column := rfl }
  have hclosed := hmoved.unrolled (-1)
  have houter : (moved.unrollIndent (-1)).outerKeys = [] := by
    rw [← List.length_eq_zero_iff, hclosed.brackets, View.brackets_unrolled]
    exact hflow
  have hkinds := (hclosed.push .streamEnd m).kinds
  dsimp only at hkinds
  rw [View.kinds_unrolled_moved] at hkinds
  rw [hcut, cutEnd]
  show ∃ t, ((moved.unrollIndent (-1)).dropKey >>= _) = .ok t ∧ _
  rw [hclosed.dropKey]
  exact ⟨_, rfl, rfl, rfl, houter, hkinds⟩

/-- **The end of the text** closes the blocks that are open, and no token is held back. -/
theorem Sees.cutAll_end (h : Sees s v) (hend : v.chars = []) (hflow : v.brackets = 0) (fuel : Nat) :
    ∃ list, s.cutAll (fuel + 1) = ⟨list, none⟩ ∧
      list.map (·.kind) = (v.unrolled (-1)).kinds ++ [.streamEnd] := by
  obtain ⟨s₁, hstale, hs₁⟩ := At.dropStaleKeys h
  have hs₂ := hs₁.unrolled s₁.column
  obtain ⟨t, hcut, hdone, hkey, houter, hkinds⟩ := hs₂.cut_end
    ((View.chars_unrolled v _).trans hend) ((View.brackets_unrolled v _).trans hflow)
  -- behind the last token there is no key left to go stale
  have hdrop : t.dropStaleKeys = .ok t := by
    unfold Scanner.dropStaleKeys
    rw [houter, hkey]
    show Except.ok { t with key := none, outerKeys := [] } = _
    rw [← houter, ← hkey]
  have hnext : s.next = .ok t := by
    rw [next_eq, hstale]
    show ((s₁.unrollIndent s₁.column).cut >>= fun s => s.dropStaleKeys) = _
    rw [hcut]
    exact hdrop
  refine ⟨t.tokens.reverse, ?_, ?_⟩
  · rw [cutAll, hnext]
    dsimp only
    rw [hdone, if_pos rfl, settled_eq hkey houter]
  · have hcolumn : (-1 : Int) ≤ s₁.column := Int.le_trans (by decide) (Int.natCast_nonneg _)
    rw [hkinds, View.unrolled_unrolled hcolumn]

/-- What is seen of a text in front of its first character. -/
def View.ofText (cs : List Char) : View where
  kinds := []
  indent := -1
  outerIndents := []
  brackets := 0
  keyAllowed := true
  chars := cs
  column := 0

theorem at_start (cs : List Char) : At (start cs) (.ofText cs) where
  kinds := rfl
  indent := rfl
  outerIndents := rfl
  brackets := rfl
  keyAllowed := rfl
  chars := rfl
  column := rfl
  optional := allOptional_none
  running := rfl

/-- **The tokens of a text** whose characters are allowed, if cutting leads to its end. -/
theorem tokens_of_leads (hallowed : cs.all isAllowed = true) (hsolid : startsSolid cs = true)
    (hleads : Leads (.ofText cs) w) (hend : w.chars = []) (hflow : w.brackets = 0) :
    ∃ list, Tokens.ofChars cs = ⟨list, none⟩ ∧
      list.map (·.kind) = (w.unrolled (-1)).kinds ++ [.streamEnd] := by
  obtain ⟨n, hn, hrun⟩ := hleads
  obtain ⟨t, ht, hcut⟩ := hrun (start cs) ((at_start cs).sees hsolid)
  have hlength : n ≤ cs.length := Nat.le_trans (Nat.le_add_right n _) hn
  obtain ⟨list, hlist, hkinds⟩ := ht.cutAll_end hend hflow (cs.length + 1 - n)
  refine ⟨list, ?_, hkinds⟩
  rw [Tokens.ofChars, if_pos hallowed, ← hlist, ← hcut]
  congr 1
  omega

end Scanner

end StimulusBench.Yaml
