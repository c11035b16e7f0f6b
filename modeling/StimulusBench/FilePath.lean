/-!
# `StimulusBench.FilePath` — paths and the places they lead to

A path is walked name by name, from the working directory or from the root. A place is what such a walk
ends at, told by the names that lead to it from the root without a detour. Paths that are spelled
differently may lead to one place.

## Contents
- **The working directory.** `WorkingDirectory`.
- **Places.** `Place`, `Place.child`, `Place.climb`, and `Place.follow` for any name in a path.
- **Paths.** `FilePath.ofText` splits the text of a path into names; `FilePath.places`.
-/

namespace StimulusBench

/-! ## The working directory -/

/-- The name of the root, which no file can have. -/
def rootName : String := "/"

/-- Whether a name leads on from every directory, without an entry of its own. -/
def leadsAnywhere (name : String) : Bool := name = "." || name = ".." || name = rootName

/-- The directory that a run works in. -/
class WorkingDirectory where
  /-- The names that lead there from the root, the last one first. -/
  names : List String
  proper : ∀ name ∈ names, leadsAnywhere name = false

/-- The working directory where it does not matter which one it is. -/
instance (priority := low) WorkingDirectory.anywhere : WorkingDirectory :=
  ⟨["stimulus", "tmp"], by simp [leadsAnywhere, rootName]⟩

/-! ## Places -/

/-- Where a walk can end. Most places differ in their depth already. -/
structure Place where
  /-- How many names lead there. -/
  depth : Nat
  /-- The names that lead there from the root, the last one first. -/
  names : List String
  depth_eq : depth = names.length
  deriving Repr, DecidableEq

namespace Place

/-- The root. -/
def root : Place := ⟨0, [], rfl⟩

/-- The place with a name in a directory. -/
def child (place : Place) (name : String) : Place :=
  ⟨place.depth + 1, name :: place.names, congrArg (· + 1) place.depth_eq⟩

/-- The directory above a place. The root is above itself. -/
def climb (place : Place) : Place :=
  ⟨place.depth - 1, place.names.tail, by rw [List.length_tail, place.depth_eq]⟩

/-- The place that a name in a path leads to. -/
def follow (place : Place) (name : String) : Place :=
  if name = "." then place
  else if name = ".." then place.climb
  else if name = rootName then root
  else place.child name

variable [WorkingDirectory]

/-- The working directory. -/
def working : Place := ⟨_, WorkingDirectory.names, rfl⟩

/-- Whether a place is the working directory or above it: such a place is a directory. -/
def isAbove (place : Place) : Bool := place.names.isSuffixOf working.names

/-- Whether a place is below the working directory, or is that directory. -/
def isInside (place : Place) : Bool := working.names.isSuffixOf place.names

/-- A text that leads to a place. -/
def text (place : Place) : String :=
  if place.isInside then
    match (place.names.take (place.depth - working.depth)).reverse with
    | [] => "."
    | names => String.intercalate "/" names
  else "/" ++ String.intercalate "/" place.names.reverse

end Place

/-! ## Paths -/

/-- The pieces of a text between slashes. -/
def splitSlashes : List Char → List (List Char)
  | [] => [[]]
  | c :: cs =>
    if c = '/' then [] :: splitSlashes cs
    else match splitSlashes cs with
      | piece :: pieces => (c :: piece) :: pieces
      | [] => [[c]]

/-- A name in a path, and the bytes of the path's text up to the end of the name. -/
abbrev PathName := String × Nat

/-- The pieces of a text as names, the first of them after so many bytes. -/
def namesFrom (offset : Nat) : List (List Char) → List PathName
  | [] => []
  | piece :: rest =>
    let stop := offset + (String.ofList piece).utf8ByteSize
    (String.ofList piece, stop) :: namesFrom (stop + 1) rest

/-- A path. -/
structure FilePath where
  names : List String
  /-- The names of the directories above the last name. -/
  parents : List String
  /-- Whether a slash follows the last name. -/
  trailing : Bool
  /-- The bytes of the text. -/
  size : Nat
  /-- The bytes of the text up to the last of the parents. -/
  parentSize : Nat
  deriving Repr, DecidableEq

namespace FilePath

/-- The names above the last one. A name that stands for the directory it is in counts only at the
    very front. -/
def above : List PathName → List PathName
  | [] => []
  | first :: rest => (first :: rest.filter (·.1 ≠ ".")).dropLast

/-- The path that a text spells. Slashes next to each other count as one; a slash at the front stands
    for the root. -/
def ofText (text : String) : FilePath :=
  let pieces := splitSlashes text.toList
  let root := if pieces.head?.any List.isEmpty && !text.isEmpty then [(rootName, 1)] else []
  let names := root ++ (namesFrom 0 pieces).filter (!·.1.isEmpty)
  let parents := above names
  { names := names.map (·.1)
    parents := parents.map (·.1)
    trailing := pieces.getLast?.any List.isEmpty
    size := text.utf8ByteSize
    parentSize := (parents.getLast?.map (·.2)).getD 0 }

/-- The places that some names lead through from a place, with the one they lead to. -/
def placesFrom (here : Place) : List String → List Place
  | [] => []
  | name :: rest => here.follow name :: placesFrom (here.follow name) rest

/-- The places that a path leads through, with the one it leads to. -/
def places [WorkingDirectory] (path : FilePath) : List Place := placesFrom .working path.names

end FilePath

end StimulusBench
