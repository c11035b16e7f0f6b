import StimulusBench.Content
import StimulusBench.Json.Value

/-!
# `StimulusBench.Listing` — nested lists of numbers

Records, stimuli and corpora are all written as nested lists of numbers. A listing is such a nest,
free of what its numbers mean; each of its written forms shows the same nest in another format.

## Contents
- **Nests.** `Listing`.
- **Written forms.** `bracketed` on one line, `block` in lines with dashes, `json` as a JSON value.
- **As content.** `content`, what a reader of any of these forms finds.
-/

namespace StimulusBench

/-- A nest of lists with numbers at the leaves. -/
inductive Listing
  | number (value : Nat)
  | list (items : List Listing)
  deriving Repr

namespace Listing

/-! ## On one line -/

mutual

/-- Lists in brackets, with a comma and a blank between two items. -/
def bracketed : Listing → List Char
  | .number n => Numeral.decimal n
  | .list items => '[' :: bracketedItems items ++ [']']

/-- The items of a list in brackets. -/
def bracketedItems : List Listing → List Char
  | [] => []
  | [item] => bracketed item
  | item :: rest => bracketed item ++ ',' :: ' ' :: bracketedItems rest

end

/-! ## In lines -/

mutual

/-- A nest behind a dash, or at the start of a text: every item of a list stands behind a dash of
    its own in the given column, the first one on the line where the list begins. An empty list is
    written in brackets. -/
def blockAt (column : Nat) : Listing → List Char
  | .number n => Numeral.decimal n ++ ['\n']
  | .list [] => ['[', ']', '\n']
  | .list (item :: rest) => '-' :: ' ' :: blockAt (column + 2) item ++ blockRest column rest

/-- The items of a list from the second one on, each on a new line. -/
def blockRest (column : Nat) : List Listing → List Char
  | [] => []
  | item :: rest =>
    List.replicate column ' ' ++ '-' :: ' ' :: blockAt (column + 2) item ++ blockRest column rest

end

/-- A nest as a document of its own. -/
def block (l : Listing) : String := String.ofList (blockAt 0 l)

/-! ## As values -/

mutual

/-- A nest as a JSON value. -/
def json : Listing → Json
  | .number n => .int n
  | .list items => .array (jsonItems items)

/-- The items of a list as JSON values. -/
def jsonItems : List Listing → List Json
  | [] => []
  | item :: rest => json item :: jsonItems rest

end

mutual

/-- A nest as content of a document. -/
def content : Listing → Content
  | .number n => .natural n
  | .list items => .list (contentItems items)

/-- The items of a list as content of a document. -/
def contentItems : List Listing → List Content
  | [] => []
  | item :: rest => content item :: contentItems rest

end

end Listing

end StimulusBench
