import StimulusBench.Proofs.Testbench
import StimulusBench.Proofs.Yaml.Root

/-!
# `StimulusBench.Proofs.TestbenchText` — a testbench is no corpus

A testbench read as YAML begins with a plain scalar: its first lines hold nothing that ends one, up to the
colon of the first port. A plain scalar with characters is no list and no blank root, whatever follows it,
and so no corpus is read from a testbench.

## Contents
- **Plain roots.** `DocumentEvents.opensPlain` and what is read from such a document.
- **Testbenches.** `opensPlain_opening` for the first lines; `Corpus.ofYaml_render_ne`.
-/

namespace StimulusBench

namespace Yaml

/-! ## Plain roots -/

/-- Whether a document begins with a plain scalar that is not empty and has neither anchor nor tag. -/
def DocumentEvents.opensPlain : DocumentEvents → Bool
  | ⟨(.scalar ⟨none, none⟩ text .plain, _) :: _, _, _⟩ => !text.isEmpty
  | _ => false

namespace NodeDocument

theorem nodes_of_opensPlain {d : DocumentEvents} (h : d.opensPlain = true) :
    ∃ text mark rest, (ofEvents d).nodes = (.scalar none text .plain, mark) :: rest ∧
      text.isEmpty = false := by
  unfold DocumentEvents.opensPlain at h
  split at h
  next text mark events fault alone =>
    obtain ⟨rest, hrest⟩ := number_first (.scalar none text .plain, mark) events .none 1 []
    refine ⟨text, mark, rest, ?_, by simpa using h⟩
    unfold ofEvents
    rw [if_neg (by simp)]
    dsimp only
    rw [number]
    split <;> exact hrest
  next => cases h

/-- **No stimuli are read** from a document that begins with a plain scalar. -/
theorem stimuli_ne_of_opensPlain {d : DocumentEvents} (h : d.opensPlain = true) (ss : List Stimulus) :
    (ofEvents d).stimuli ≠ .ok ss := by
  intro hstimuli
  obtain ⟨text, mark, rest, hnodes, htext⟩ := nodes_of_opensPlain h
  rcases list_or_blank_of_stimuli hstimuli with
    ⟨tag, mark', rest', hlist⟩ | ⟨⟨node, mark', rest', hroot, hblank⟩, -⟩
  · cases hnodes.symm.trans hlist
  · cases hnodes.symm.trans hroot
    simp [NodeEvent.isBlank, htext] at hblank

end NodeDocument

end Yaml

/-! ## Testbenches -/

open Yaml

namespace Testbench

/-- The first lines of a testbench of the default entity, with the first port. -/
def opening : List String := default.preamble.take 12

theorem render_eq_opening (records : List Record) :
    ∃ rest, (default.render records).toList = (unlines opening).toList ++ rest := by
  refine ⟨(unlines (default.preamble.drop 12 ++ body records ++ closing)).toList, ?_⟩
  rw [← unlines_append, opening, ← List.append_assoc, ← List.append_assoc, List.take_append_drop]
  rfl

-- The characters of the opening are known, so that the scanner can be run up to the colon that ends the
-- first scalar; what follows it is never looked at.
set_option maxRecDepth 8000 in
/-- **The opening is a plain scalar** on several lines, whatever follows it. -/
theorem opensPlain_opening (rest : List Char)
    (hallowed : ((unlines opening).toList ++ rest).all isAllowed = true) :
    (DocumentEvents.ofTokens (.ofChars ((unlines opening).toList ++ rest))).opensPlain = true := by
  obtain ⟨cs, hcs⟩ : ∃ cs, cs = (unlines opening).toList ++ rest := ⟨_, rfl⟩
  rw [← hcs] at hallowed ⊢
  rw [Tokens.ofChars, if_pos hallowed]
  simp only [opening, default, defaultEntity, preamble, List.take_succ_cons, List.take_zero, unlines_cons,
    String.toList_append, String.reduceToList, List.cons_append, List.nil_append] at hcs
  rw [hcs]
  rfl

end Testbench

/-- **No testbench is a corpus**, whatever follows it. -/
theorem Corpus.ofYaml_render_ne (records : List Record) (more : String) (c : Corpus) :
    Corpus.ofYaml (Testbench.default.render records ++ more) ≠ .ok c := by
  intro h
  obtain ⟨entries, hstimuli, -⟩ := bind_eq_ok_iff.mp h
  obtain ⟨rest, hrest⟩ := Testbench.render_eq_opening records
  rw [NodeDocument.ofText, String.toList_append, hrest, List.append_assoc] at hstimuli
  by_cases hallowed :
      ((Testbench.unlines Testbench.opening).toList ++ (rest ++ more.toList)).all isAllowed = true
  · exact NodeDocument.stimuli_ne_of_opensPlain (Testbench.opensPlain_opening _ hallowed) _ hstimuli
  · rw [Tokens.ofChars, if_neg hallowed] at hstimuli
    cases hstimuli

end StimulusBench
