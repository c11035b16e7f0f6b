import StimulusBench.Record

/-!
# `StimulusBench.Stimulus` — trees of records

A stimulus is a record or a group of stimuli; a corpus is the list at the top. Only the order of the
records at the leaves matters to whoever replays it.

## Contents
- **Trees.** `Stimulus`, `Corpus`, `Corpus.flatten`.
- **Written forms.** `Corpus.listing`, printed as `Corpus.text` on one line and as `Corpus.yaml`
  with one item per line.
-/

namespace StimulusBench

/-- A node of the stimulus tree. -/
inductive Stimulus
  | record (record : Record)
  | group (children : List Stimulus)
  deriving Repr

namespace Stimulus

/-- The group of the given records. -/
def ofRecords (records : List Record) : Stimulus := .group (records.map .record)

mutual

/-- The records at the leaves, from left to right. -/
def flatten : Stimulus → List Record
  | .record r => [r]
  | .group children => flattenAll children

/-- The records at the leaves of several trees, from left to right. -/
def flattenAll : List Stimulus → List Record
  | [] => []
  | s :: rest => flatten s ++ flattenAll rest

end

mutual

/-- A record as its list, a group as the list of its children. -/
def listing : Stimulus → Listing
  | .record r => r.listing
  | .group children => .list (listingAll children)

/-- The listings of several trees. -/
def listingAll : List Stimulus → List Listing
  | [] => []
  | s :: rest => listing s :: listingAll rest

end

mutual

/-- Whether two trees are the same. -/
def same : Stimulus → Stimulus → Bool
  | .record r, .record r' => r == r'
  | .group cs, .group cs' => sameAll cs cs'
  | _, _ => false

/-- Whether two lists of trees are the same. -/
def sameAll : List Stimulus → List Stimulus → Bool
  | [], [] => true
  | s :: rest, s' :: rest' => same s s' && sameAll rest rest'
  | _, _ => false

end

end Stimulus

/-- The list at the top of a stimulus tree. -/
structure Corpus where
  entries : List Stimulus
  deriving Repr

namespace Corpus

/-- All records from left to right. -/
def flatten (corpus : Corpus) : List Record := Stimulus.flattenAll corpus.entries

/-- The list of the entries. -/
def listing (corpus : Corpus) : Listing := .list (Stimulus.listingAll corpus.entries)

/-- The printed form: nested brackets on one line. -/
def text (corpus : Corpus) : String := String.ofList corpus.listing.bracketed

/-- The document form: one item per line. -/
def yaml (corpus : Corpus) : String := corpus.listing.block

/-- Whether two corpora are the same. -/
def same (c c' : Corpus) : Bool := Stimulus.sameAll c.entries c'.entries

end Corpus

end StimulusBench
