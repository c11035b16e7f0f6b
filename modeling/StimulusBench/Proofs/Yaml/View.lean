import StimulusBench.Yaml.Token

/-!
# `StimulusBench.Proofs.Yaml.View` — what the scanner has to know

Of all the scanner carries along, the next token of a text without mapping keys depends on little: the
open blocks and brackets, whether a key may start, and the text ahead with its column. Marks only ever
show up in faults, and a possible key that is not required is dropped without notice. A `View` holds what
is left, and the kinds of the tokens so far; `Leads` says that cutting takes every scanner that looks like
one view to one that looks like another.

## Contents
- **Blanks.** `skipBlanks` over blanks, line breaks and solid characters.
- **Possible keys.** `AllOptional`: dropping keys is never a fault.
- **Views.** `View`, `At` (the scanner stands there) and `Sees` (it stands there behind blanks).
- **Open blocks.** `View.unrolled` and `At.unrolled`; closing in two steps is closing in one.
- **Runs.** `Leads`, its composition, and `Leads.cut` for one token.
-/

namespace StimulusBench.Yaml

namespace Scanner

/-! ## Blanks -/

/-- A character that no blank skipping passes over. -/
def isSolid (c : Char) : Bool :=
  !isBreak c && !(c = ' ') && !(c = '\t') && !(c = '#') && !(c = byteOrderMark)

/-- Whether what is ahead starts with a solid character or ends. -/
def startsSolid : List Char → Bool
  | [] => true
  | c :: _ => isSolid c

theorem skipBlanks_of_startsSolid {cs : List Char} (h : startsSolid cs = true)
    (inFlow keyAllowed : Bool) (m : Mark) :
    skipBlanks inFlow false keyAllowed m cs = (keyAllowed, ⟨cs, m⟩) := by
  cases cs with
  | nil => rfl
  | cons c cs =>
      simp only [startsSolid, isSolid, Bool.and_eq_true, Bool.not_eq_true', decide_eq_false_iff_not]
        at h
      obtain ⟨⟨⟨⟨hbreak, hblank⟩, htab⟩, hcomment⟩, hmark⟩ := h
      -- a carriage return has a case of its own, for the line feed that may follow it
      have hreturn : c ≠ '\r' := by
        rintro rfl
        exact absurd hbreak (by decide)
      unfold skipBlanks
      split
      next heq => cases heq
      next heq => exact absurd (List.cons.inj heq).1 hreturn
      next heq =>
        obtain ⟨rfl, rfl⟩ := List.cons.inj heq
        simp [hbreak, hblank, htab, hcomment, hmark]

theorem skipBlanks_blank (inFlow keyAllowed : Bool) (m : Mark) (cs : List Char) :
    skipBlanks inFlow false keyAllowed m (' ' :: cs) = skipBlanks inFlow false keyAllowed m.next cs :=
  rfl

theorem skipBlanks_lineFeed (inFlow keyAllowed : Bool) (m : Mark) (cs : List Char) :
    skipBlanks inFlow false keyAllowed m ('\n' :: cs) =
      skipBlanks inFlow false (keyAllowed || !inFlow) (m.newLine 1) cs := rfl

theorem skipBlanks_blanks (inFlow keyAllowed : Bool) (m : Mark) (n : Nat) (cs : List Char) :
    skipBlanks inFlow false keyAllowed m (List.replicate n ' ' ++ cs) =
      skipBlanks inFlow false keyAllowed (m.forward n) cs := by
  induction n generalizing m with
  | zero => rfl
  | succ n ih =>
      rw [List.replicate_succ, List.cons_append, skipBlanks_blank, ih]
      simp only [Mark.next, Mark.forward, Nat.add_assoc, Nat.add_comm 1 n]

/-! ## Possible keys -/

/-- No possible key is required, so that dropping one is never a fault. -/
def AllOptional (keys : List (Option PossibleKey)) : Prop :=
  ∀ k, some k ∈ keys → k.required = false

theorem allOptional_cons {key : Option PossibleKey} {keys : List (Option PossibleKey)} :
    AllOptional (key :: keys) ↔ AllOptional [key] ∧ AllOptional keys := by
  constructor
  · intro h
    exact ⟨fun k hk => h k (List.mem_cons.mpr (Or.inl (List.mem_singleton.mp hk))),
      fun k hk => h k (List.mem_cons_of_mem _ hk)⟩
  · rintro ⟨hkey, hkeys⟩ k hk
    rcases List.mem_cons.mp hk with hk | hk
    · exact hkey k (List.mem_singleton.mpr hk)
    · exact hkeys k hk

theorem allOptional_none : AllOptional [none] := by
  intro k hk
  cases List.mem_singleton.mp hk

theorem fresh?_optional (m : Mark) {key : Option PossibleKey} (h : AllOptional [key]) :
    ∃ key', fresh? m key = .ok key' ∧ AllOptional [key'] := by
  cases key with
  | none => exact ⟨none, rfl, h⟩
  | some k =>
      have hk : k.required = false := h k List.mem_cons_self
      unfold fresh?
      dsimp only
      split
      · rw [if_neg (by simp [hk])]
        exact ⟨none, rfl, allOptional_none⟩
      · exact ⟨some k, rfl, h⟩

theorem mapM_fresh?_optional (m : Mark) {keys : List (Option PossibleKey)} (h : AllOptional keys) :
    ∃ keys', keys.mapM (fresh? m) = .ok keys' ∧ keys'.length = keys.length ∧ AllOptional keys' := by
  induction keys with
  | nil => exact ⟨[], rfl, rfl, h⟩
  | cons key keys ih =>
      obtain ⟨hkey, hkeys⟩ := allOptional_cons.mp h
      obtain ⟨key', hfresh, hkey'⟩ := fresh?_optional m hkey
      obtain ⟨keys', hmap, hlength, hkeys'⟩ := ih hkeys
      refine ⟨key' :: keys', ?_, congrArg (· + 1) hlength, allOptional_cons.mpr ⟨hkey', hkeys'⟩⟩
      rw [List.mapM_cons, hfresh, hmap]
      rfl

/-- **Stale keys that are optional** go without a fault, and all else stays. -/
theorem dropStaleKeys_optional {s : Scanner} (h : AllOptional (s.key :: s.outerKeys)) :
    ∃ key outerKeys, s.dropStaleKeys = .ok { s with key, outerKeys } ∧
      outerKeys.length = s.outerKeys.length ∧ AllOptional (key :: outerKeys) := by
  obtain ⟨hkey, hkeys⟩ := allOptional_cons.mp h
  obtain ⟨key, hfresh, hkey'⟩ := fresh?_optional s.cursor.mark hkey
  obtain ⟨outerKeys, hmap, hlength, hkeys'⟩ := mapM_fresh?_optional s.cursor.mark hkeys
  refine ⟨key, outerKeys, ?_, hlength, allOptional_cons.mpr ⟨hkey', hkeys'⟩⟩
  unfold dropStaleKeys
  rw [hmap, hfresh]
  rfl

theorem dropKey_optional {s : Scanner} (h : AllOptional [s.key]) :
    s.dropKey = .ok { s with key := none } := by
  unfold dropKey
  split
  next k hk =>
    have hrequired : k.required = false := h k (List.mem_singleton.mpr hk.symm)
    rw [if_neg (by simp [hrequired])]
  next hk => rw [← hk]

/-! ## Views -/

/-- What the tokens of a text without mapping keys depend on. -/
structure View where
  /-- The kinds of the tokens so far, the oldest first. -/
  kinds : List TokenKind
  indent : Int
  outerIndents : List Int
  /-- How many brackets are open. -/
  brackets : Nat
  keyAllowed : Bool
  chars : List Char
  column : Nat

/-- The scanner stands in front of the text of a view. -/
structure At (s : Scanner) (v : View) : Prop where
  kinds : s.tokens.reverse.map (·.kind) = v.kinds
  indent : s.indent = v.indent
  outerIndents : s.outerIndents = v.outerIndents
  brackets : s.outerKeys.length = v.brackets
  keyAllowed : s.keyAllowed = v.keyAllowed
  chars : s.cursor.chars = v.chars
  column : s.cursor.mark.column = v.column
  optional : AllOptional (s.key :: s.outerKeys)
  running : s.done = false

/-- The scanner behind the blanks ahead. -/
def pastBlanks (s : Scanner) : Scanner :=
  let (keyAllowed, cursor) := skipBlanks s.inFlow false s.keyAllowed s.cursor.mark s.cursor.chars
  { s with keyAllowed, cursor }

/-- The scanner stands in front of the text of a view, blanks aside. -/
def Sees (s : Scanner) (v : View) : Prop := At s.pastBlanks v

variable {s t : Scanner} {u v w : View}

theorem At.inFlow (h : At s v) : s.inFlow = decide (0 < v.brackets) := by
  rw [← h.brackets, Scanner.inFlow]
  cases s.outerKeys <;> rfl

theorem At.withKeys (h : At s v) {key : Option PossibleKey} {outerKeys : List (Option PossibleKey)}
    (hlength : outerKeys.length = s.outerKeys.length) (hkeys : AllOptional (key :: outerKeys)) :
    At { s with key, outerKeys } v :=
  { h with brackets := hlength.trans h.brackets, optional := hkeys }

theorem At.dropStaleKeys (h : At s v) : ∃ t, s.dropStaleKeys = .ok t ∧ At t v := by
  obtain ⟨key, outerKeys, hdrop, hlength, hkeys⟩ := dropStaleKeys_optional h.optional
  exact ⟨_, hdrop, h.withKeys hlength hkeys⟩

theorem At.dropKey (h : At s v) : s.dropKey = .ok { s with key := none } :=
  dropKey_optional (allOptional_cons.mp h.optional).1

/-- In front of solid text there are no blanks to pass. -/
theorem At.sees (h : At s v) (hsolid : startsSolid v.chars = true) : Sees s v := by
  have hskip : s.pastBlanks = s := by
    unfold pastBlanks
    rw [skipBlanks_of_startsSolid (h.chars ▸ hsolid)]
  unfold Sees
  rw [hskip]
  exact h

/-- A blank in front of solid text is passed. -/
theorem At.sees_blank {cs : List Char} (h : At s v) (hchars : v.chars = ' ' :: cs)
    (hsolid : startsSolid cs = true) : Sees s { v with chars := cs, column := v.column + 1 } := by
  have hskip : s.pastBlanks = { s with cursor := ⟨cs, s.cursor.mark.next⟩ } := by
    unfold pastBlanks
    rw [h.chars, hchars, skipBlanks_blank, skipBlanks_of_startsSolid hsolid]
  unfold Sees
  rw [hskip]
  exact { h with chars := rfl, column := congrArg (· + 1) h.column }

/-- Outside of brackets a line break in front of solid text is passed with the indentation behind it,
    and a key may start there. -/
theorem At.sees_line {cs : List Char} {n : Nat} (h : At s v) (hflow : v.brackets = 0)
    (hchars : v.chars = '\n' :: (List.replicate n ' ' ++ cs)) (hsolid : startsSolid cs = true) :
    Sees s { v with chars := cs, column := n, keyAllowed := true } := by
  have hout : s.inFlow = false := by
    rw [h.inFlow, hflow]
    rfl
  have hskip : s.pastBlanks =
      { s with keyAllowed := true, cursor := ⟨cs, (s.cursor.mark.newLine 1).forward n⟩ } := by
    unfold pastBlanks
    rw [h.chars, hchars, skipBlanks_lineFeed, skipBlanks_blanks, skipBlanks_of_startsSolid hsolid, hout,
      Bool.not_false, Bool.or_true]
  unfold Sees
  rw [hskip]
  exact { h with keyAllowed := rfl, chars := rfl, column := Nat.zero_add n }

/-! ## Open blocks -/

/-- A block no deeper than the column stays open, and so do those around it. -/
theorem openAt_of_le {column indent : Int} (h : indent ≤ column) (closed : Nat) (outer : List Int) :
    openAt column closed indent outer = (closed, indent, outer) := by
  cases outer with
  | nil => rfl
  | cons o os => rw [openAt, if_neg (Int.not_lt.mpr h)]

/-- Closed blocks are counted on top of those closed before. -/
theorem openAt_add (column : Int) (before closed : Nat) (indent : Int) (outer : List Int) :
    openAt column (before + closed) indent outer =
      (before + (openAt column closed indent outer).1, (openAt column closed indent outer).2) := by
  induction outer generalizing closed indent with
  | nil => rfl
  | cons o os ih =>
      unfold openAt
      split
      · exact ih (closed + 1) o
      · rfl

/-- **Closing blocks in two steps**, the second to a column no deeper, is closing them in one. -/
theorem openAt_openAt {column column' : Int} (hle : column' ≤ column) {closed closed' : Nat}
    {indent indent' : Int} {outer outer' : List Int}
    (h : openAt column closed indent outer = (closed', indent', outer')) :
    openAt column' closed' indent' outer' = openAt column' closed indent outer := by
  induction outer generalizing closed indent with
  | nil =>
      obtain ⟨rfl, rfl, rfl⟩ := h
      rfl
  | cons o os ih =>
      unfold openAt at h
      split at h
      next hlt =>
        rw [ih h]
        exact (if_pos (Int.lt_of_le_of_lt hle hlt)).symm
      next => cases h; rfl

/-- The view with the blocks closed that lie deeper than a column. -/
def View.unrolled (v : View) (column : Int) : View :=
  if v.brackets = 0 then
    let (closed, indent, outerIndents) := openAt column 0 v.indent v.outerIndents
    { v with kinds := v.kinds ++ List.replicate closed .blockEnd, indent, outerIndents }
  else v

theorem View.unrolled_inFlow (h : 0 < v.brackets) (column : Int) : v.unrolled column = v :=
  if_neg (Nat.ne_of_gt h)

/-- Where no block lies deeper, none is closed. -/
theorem View.unrolled_of_le {column : Int} (h : v.indent ≤ column) : v.unrolled column = v := by
  unfold View.unrolled
  split
  · rw [openAt_of_le h]
    show { v with kinds := v.kinds ++ [] } = v
    rw [List.append_nil]
  · rfl

/-- Where only the innermost block lies deeper, it alone is closed. -/
theorem View.unrolled_innermost {indent : Int} {outer : List Int} (hflow : v.brackets = 0)
    (houter : v.outerIndents = indent :: outer) (h : indent < v.indent) :
    v.unrolled indent =
      { v with kinds := v.kinds ++ [.blockEnd], indent, outerIndents := outer } := by
  unfold View.unrolled
  rw [if_pos hflow, houter, openAt, if_pos h, openAt_of_le (Int.le_refl _)]
  rfl

theorem View.unrolled_unrolled {column column' : Int} (hle : column' ≤ column) :
    (v.unrolled column).unrolled column' = v.unrolled column' := by
  by_cases hflow : v.brackets = 0
  · unfold View.unrolled
    rw [if_pos hflow, if_pos hflow]
    rcases hfirst : openAt column 0 v.indent v.outerIndents with ⟨closed, indent, outer⟩
    -- the second step starts its count at nothing, while one step would go on counting
    have hboth := openAt_openAt hle hfirst
    rw [← Nat.add_zero closed, openAt_add] at hboth
    dsimp only
    rw [if_pos hflow, ← hboth, List.append_assoc, List.replicate_append_replicate]
  · rw [View.unrolled_inFlow (Nat.pos_of_ne_zero hflow)]

@[simp] theorem View.brackets_unrolled (v : View) (column : Int) :
    (v.unrolled column).brackets = v.brackets := by
  unfold View.unrolled
  split <;> rfl

@[simp] theorem View.chars_unrolled (v : View) (column : Int) : (v.unrolled column).chars = v.chars := by
  unfold View.unrolled
  split <;> rfl

@[simp] theorem View.column_unrolled (v : View) (column : Int) :
    (v.unrolled column).column = v.column := by
  unfold View.unrolled
  split <;> rfl

theorem At.unrolled (h : At s v) (column : Int) : At (s.unrollIndent column) (v.unrolled column) := by
  unfold unrollIndent View.unrolled
  by_cases hflow : v.brackets = 0
  · have hout : s.inFlow = false := by
      rw [h.inFlow, hflow]
      rfl
    rw [hout, if_pos hflow, ← h.indent, ← h.outerIndents]
    rcases openAt column 0 s.indent s.outerIndents with ⟨closed, indent, outer⟩
    refine { h with kinds := ?_, indent := rfl, outerIndents := rfl }
    show (List.replicate closed _ ++ s.tokens).reverse.map _ = v.kinds ++ List.replicate closed _
    rw [List.reverse_append, List.map_append, h.kinds, List.reverse_replicate, List.map_replicate]
  · have hin : s.inFlow = true := by
      rw [h.inFlow]
      exact decide_eq_true (Nat.pos_of_ne_zero hflow)
    rw [hin, if_neg hflow]
    exact h

/-! ## Runs -/

theorem next_eq (s : Scanner) :
    s.next = (do
      let s ← s.pastBlanks.dropStaleKeys
      let s ← (s.unrollIndent s.column).cut
      s.dropStaleKeys) := rfl

/-- **Cutting leads** every scanner that sees one view to one that sees another, in a number of steps
    that is the same for all of them and no greater than the number of characters passed. -/
def Leads (v w : View) : Prop :=
  ∃ n, n + w.chars.length ≤ v.chars.length ∧
    ∀ s, Sees s v → ∃ t, Sees t w ∧ ∀ fuel, s.cutAll (n + fuel) = t.cutAll fuel

theorem Leads.refl (v : View) : Leads v v :=
  ⟨0, Nat.le_of_eq (Nat.zero_add _), fun s hs => ⟨s, hs, fun fuel => by rw [Nat.zero_add]⟩⟩

theorem Leads.trans (huv : Leads u v) (hvw : Leads v w) : Leads u w := by
  obtain ⟨n, hn, hfirst⟩ := huv
  obtain ⟨k, hk, hsecond⟩ := hvw
  refine ⟨n + k, by omega, ?_⟩
  intro s hs
  obtain ⟨t, ht, hst⟩ := hfirst s hs
  obtain ⟨r, hr, htr⟩ := hsecond t ht
  exact ⟨r, hr, fun fuel => by rw [Nat.add_assoc, hst, htr]⟩

/-- **One token.** It is cut where the blocks that end in front of it are closed, and blanks behind it
    are passed before the next one. -/
theorem Leads.cut (hcut : ∀ s, At s (u.unrolled u.column) → ∃ t, s.cut = .ok t ∧ At t v)
    (hblanks : ∀ t, At t v → Sees t w) (hlt : w.chars.length < u.chars.length) : Leads u w := by
  refine ⟨1, by omega, ?_⟩
  intro s hs
  -- behind the blanks: stale keys go, blocks are closed, the token is cut, and stale keys go again
  obtain ⟨s₁, hstale, hs₁⟩ := At.dropStaleKeys hs
  have hcolumn : s₁.column = u.column := congrArg Int.ofNat hs₁.column
  obtain ⟨s₂, hs₂, hat⟩ := hcut (s₁.unrollIndent s₁.column) (hcolumn ▸ hs₁.unrolled _)
  obtain ⟨t, hfresh, ht⟩ := hat.dropStaleKeys
  have hnext : s.next = .ok t := by
    rw [next_eq, hstale]
    show ((s₁.unrollIndent s₁.column).cut >>= fun s => s.dropStaleKeys) = _
    rw [hs₂]
    exact hfresh
  refine ⟨t, hblanks t ht, ?_⟩
  intro fuel
  rw [Nat.add_comm, cutAll, hnext]
  dsimp only
  rw [ht.running, if_neg Bool.false_ne_true]

end Scanner

end StimulusBench.Yaml
