import StimulusBench.Proofs.Yaml.FlowText

/-!
# `StimulusBench.Proofs.Yaml.BlockText` — the tokens of a nest in lines

A nest in lines is cut into a dash and the tokens of the item for every item of a list. Where a list ends
no character says so: its block is closed when the next token stands in a column further left, which may
close several lists at once. The induction over the nest therefore says what is seen *once the blocks
deeper than the list around it are closed*, and nothing about when that happens.

## Contents
- **Tokens.** `blockKinds`, the kinds of the tokens of a nest in lines.
- **Dashes.** `leads_firstDash` opens the block of a list, `leads_nextDash` goes on with it.
- **Items.** `CutInLines` is what the induction proves of a nest; `leads_blockItems`, `cutInLines`.
- **Texts.** `tokens_block`: the tokens of a nest as a text of its own.
-/

namespace StimulusBench

namespace Listing

open Yaml (TokenKind)

/-! ## Tokens -/

mutual

/-- The kinds of the tokens of a nest in lines. -/
def blockKinds : Listing → List TokenKind
  | .number n => [.scalar (Numeral.decimal n) .plain]
  | .list [] => [.flowListStart, .flowListEnd]
  | .list (item :: rest) =>
    .blockListStart :: .blockEntry :: (blockKinds item ++ (blockKindsOfRest rest ++ [.blockEnd]))

/-- The kinds of the tokens of the items from the second one on. -/
def blockKindsOfRest : List Listing → List TokenKind
  | [] => []
  | item :: rest => .blockEntry :: (blockKinds item ++ blockKindsOfRest rest)

end

end Listing

namespace Yaml.Scanner

open Listing

variable {v w : View} {cs : List Char}

theorem startsSolid_blockAt (column : Nat) (l : Listing) (more : List Char) :
    startsSolid (l.blockAt column ++ more) = true := by
  match l with
  | .number n =>
      rw [blockAt, List.append_assoc]
      exact startsSolid_decimal n _
  | .list [] => rfl
  | .list (item :: rest) => rfl

/-- The view at the text in some column, with some tokens more. -/
def View.below (v : View) (kinds : List TokenKind) (column : Nat) (cs : List Char) : View :=
  { v with kinds := v.kinds ++ kinds, chars := cs, column }

theorem View.below_below (kinds kinds' : List TokenKind) (column column' : Nat) (cs cs' : List Char) :
    (v.below kinds column cs).below kinds' column' cs' = v.below (kinds ++ kinds') column' cs' := by
  simp only [View.below, List.append_assoc]

/-- The view inside a block that opens here. -/
def View.opened (v : View) : View :=
  { v with indent := v.column, outerIndents := v.indent :: v.outerIndents }

/-! ## Dashes -/

/-- The first dash of a list, with the blank behind it, opens the block of the list. -/
theorem leads_firstDash (hflow : v.brackets = 0) (hkey : v.keyAllowed = true)
    (hdeeper : v.indent < v.column) (hchars : v.chars = '-' :: ' ' :: cs)
    (hsolid : startsSolid cs = true) :
    Leads v (v.opened.below [.blockListStart, .blockEntry] (v.column + 2) cs) := by
  apply Leads.cut (v := v.opened.below [.blockListStart, .blockEntry] (v.column + 1) (' ' :: cs))
  · intro s hs
    rw [View.unrolled_of_le (Int.le_of_lt hdeeper)] at hs
    exact hs.cut_dash_open hchars hflow hkey hdeeper
  · intro t ht
    exact ht.sees_blank rfl hsolid
  · rw [hchars]
    exact Nat.lt_succ_of_lt (Nat.lt_succ_self _)

/-- A further dash of a list closes the blocks inside the item before it. -/
theorem leads_nextDash (hopen : w.unrolled v.column = v) (hflow : v.brackets = 0)
    (hkey : v.keyAllowed = true) (hsame : v.indent = v.column) (hchars : v.chars = '-' :: ' ' :: cs)
    (hsolid : startsSolid cs = true) : Leads w (v.below [.blockEntry] (v.column + 2) cs) := by
  have hcolumn : w.column = v.column := by rw [← View.column_unrolled, hopen]
  have hwchars : w.chars = '-' :: ' ' :: cs := by rw [← View.chars_unrolled, hopen, hchars]
  apply Leads.cut (v := v.below [.blockEntry] (v.column + 1) (' ' :: cs))
  · intro s hs
    rw [hcolumn, hopen] at hs
    exact hs.cut_dash_next hchars hflow hkey hsame
  · intro t ht
    exact ht.sees_blank rfl hsolid
  · rw [hwchars]
    exact Nat.lt_succ_of_lt (Nat.lt_succ_self _)

/-! ## Items -/

theorem ItemEnds.startsSolid {indent : Int} {column : Nat} (h : ItemEnds indent column cs) :
    startsSolid cs = true := by
  rcases h with rfl | ⟨-, more, rfl⟩ <;> rfl

theorem ItemEnds.mono {indent indent' : Int} {column : Nat} (h : ItemEnds indent column cs)
    (hle : indent ≤ indent') : ItemEnds indent' column cs :=
  h.imp_right fun ⟨hcolumn, hmore⟩ => ⟨Int.le_trans hcolumn hle, hmore⟩

/-- **A nest in lines** that lies deeper than the list around it is cut into its tokens, up to the end
    of the blocks it opens: they are closed where a token stands no deeper than that list. -/
def CutInLines (l : Listing) : Prop :=
  ∀ (v : View) (column : Nat) (cs : List Char), v.brackets = 0 → v.keyAllowed = true →
    v.indent < v.column → v.chars = l.blockAt v.column ++ (List.replicate column ' ' ++ cs) →
    ItemEnds v.indent column cs →
    ∃ w, Leads v w ∧ w.unrolled v.indent = v.below l.blockKinds column cs

theorem cutInLines_number (n : Nat) : CutInLines (.number n) := by
  intro v column cs hflow hkey hdeeper hchars hends
  rw [blockAt, List.append_assoc] at hchars
  refine ⟨v.below (blockKinds (.number n)) column cs, ?_, View.unrolled_of_le (Int.le_refl _)⟩
  apply Leads.cut
  · intro s hs
    rw [View.unrolled_of_le (Int.le_of_lt hdeeper)] at hs
    have hcut := hs.cut_numeral_block hchars hends hflow hdeeper
    rw [← hkey] at hcut
    exact hcut
  · intro t ht
    exact ht.sees hends.startsSolid
  · rw [hchars, List.length_append, List.singleton_append, List.length_cons, List.length_append]
    show cs.length < _
    omega

theorem cutInLines_nil : CutInLines (.list []) := by
  intro v column cs hflow hkey hdeeper hchars hends
  refine ⟨v.below (blockKinds (.list [])) column cs, ?_, View.unrolled_of_le (Int.le_refl _)⟩
  have hnone : ∀ item ∈ ([] : List Listing), CutInBrackets item := fun item _ => cutInBrackets item
  refine leads_bracketed hnone (fun _ => hdeeper) hchars ?_ ?_
  · intro t ht
    have hline := ht.sees_line hflow rfl hends.startsSolid
    rw [← hkey] at hline
    exact hline
  · show cs.length ≤ ('\n' :: (List.replicate column ' ' ++ cs)).length
    rw [List.length_cons, List.length_append]
    omega

/-- An item behind the dash of the list around it. -/
theorem CutInLines.behind_dash {l : Listing} (h : CutInLines l) {before column : Nat}
    (hflow : v.brackets = 0) (hkey : v.keyAllowed = true) (hindent : v.indent = before)
    (hcolumn : v.column = before + 2)
    (hchars : v.chars = l.blockAt (before + 2) ++ (List.replicate column ' ' ++ cs))
    (hends : ItemEnds before column cs) :
    ∃ w, Leads v w ∧ w.unrolled before = v.below l.blockKinds column cs := by
  have hdeeper : v.indent < v.column := by omega
  rw [← hcolumn] at hchars
  rw [← hindent] at hends ⊢
  exact h v column cs hflow hkey hdeeper hchars hends

/-- **The items of a list**, seen behind the dash of the first. -/
theorem leads_blockItems {item : Listing} {rest : List Listing}
    (hitems : ∀ l ∈ item :: rest, CutInLines l) {before column : Nat} (hflow : v.brackets = 0)
    (hkey : v.keyAllowed = true) (hindent : v.indent = before) (hcolumn : v.column = before + 2)
    (hchars : v.chars = item.blockAt (before + 2) ++
      (blockRest before rest ++ (List.replicate column ' ' ++ cs)))
    (hends : ItemEnds before column cs) :
    ∃ w, Leads v w ∧
      w.unrolled before = v.below (item.blockKinds ++ blockKindsOfRest rest) column cs := by
  have hitem := hitems item List.mem_cons_self
  -- on the items behind the first, whose dash closes what the item before it left open
  induction rest generalizing v item with
  | nil =>
      rw [blockKindsOfRest, List.append_nil]
      exact hitem.behind_dash hflow hkey hindent hcolumn hchars hends
  | cons next rest ih =>
      -- the item before the dash ends in front of the blanks that indent it
      let behind := next.blockAt (before + 2) ++
        (blockRest before rest ++ (List.replicate column ' ' ++ cs))
      let u := v.below item.blockKinds before ('-' :: ' ' :: behind)
      have hline : blockRest before (next :: rest) ++ (List.replicate column ' ' ++ cs) =
          List.replicate before ' ' ++ '-' :: ' ' :: behind := by
        simp only [blockRest, behind, List.append_assoc, List.cons_append]
      rw [hline] at hchars
      obtain ⟨w, hleads, hopen⟩ := hitem.behind_dash hflow hkey hindent hcolumn hchars
        (Or.inr ⟨Int.le_refl _, behind, rfl⟩)
      let x := u.below [.blockEntry] (before + 2) behind
      have hdash : Leads w x :=
        leads_nextDash (v := u) hopen hflow hkey hindent rfl (startsSolid_blockAt _ next _)
      have hmore := fun l hl => hitems l (List.mem_cons_of_mem _ hl)
      obtain ⟨w', hrest, hclosed⟩ := ih (v := x) hmore hflow hkey hindent rfl rfl
        (hmore next List.mem_cons_self)
      refine ⟨w', hleads.trans (hdash.trans hrest), ?_⟩
      rw [hclosed, View.below_below, View.below_below]
      rfl

theorem cutInLines_cons {item : Listing} {rest : List Listing}
    (hitems : ∀ l ∈ item :: rest, CutInLines l) : CutInLines (.list (item :: rest)) := by
  intro v column cs hflow hkey hdeeper hchars hends
  simp only [blockAt, List.cons_append, List.append_assoc] at hchars
  let u := v.opened.below [.blockListStart, .blockEntry] (v.column + 2)
    (item.blockAt (v.column + 2) ++ (blockRest v.column rest ++ (List.replicate column ' ' ++ cs)))
  have hfirst : Leads v u :=
    leads_firstDash hflow hkey hdeeper hchars (startsSolid_blockAt _ item _)
  obtain ⟨w, hleads, hopen⟩ := leads_blockItems (v := u) hitems hflow hkey rfl rfl rfl
    (hends.mono (Int.le_of_lt hdeeper))
  refine ⟨w, hfirst.trans hleads, ?_⟩
  -- what is left open is the block of this list alone
  rw [← View.unrolled_unrolled (Int.le_of_lt hdeeper), hopen, View.below_below,
    View.unrolled_innermost (v := v.opened.below _ column cs) hflow rfl hdeeper]
  simp [View.below, View.opened, blockKinds]

/-- **Every nest** is cut into its tokens in lines. -/
theorem cutInLines (l : Listing) : CutInLines l := by
  induction l with
  | number n => exact cutInLines_number n
  | list items ih =>
      cases items with
      | nil => exact cutInLines_nil
      | cons item rest => exact cutInLines_cons ih

/-! ## Texts -/

/-- **The tokens of a nest in lines**, as a text of its own. -/
theorem tokens_block (l : Listing) :
    ∃ list, Tokens.ofChars (l.blockAt 0) = ⟨list, none⟩ ∧
      list.map (·.kind) = l.blockKinds ++ [.streamEnd] := by
  obtain ⟨w, hleads, hopen⟩ := cutInLines l (.ofText (l.blockAt 0)) 0 [] rfl rfl (Int.negSucc_lt_zero 0)
    (List.append_nil _).symm (Or.inl rfl)
  have hend : w.chars = [] := by rw [← View.chars_unrolled, hopen]; rfl
  have hflow : w.brackets = 0 := by rw [← View.brackets_unrolled, hopen]; rfl
  have hsolid : startsSolid (l.blockAt 0) = true := by
    rw [← List.append_nil (l.blockAt 0)]
    exact startsSolid_blockAt 0 l []
  have htokens := tokens_of_leads (all_isAllowed_blockAt 0 l) hsolid hleads hend hflow
  rw [show w.unrolled (-1) = _ from hopen] at htokens
  exact htokens

end Yaml.Scanner

end StimulusBench
