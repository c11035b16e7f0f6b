import StimulusBench.FilePath

/-!
# `StimulusBench.FileTree` — files and directories

The file system as far as the library uses it: reading a file, making the directories above one, and
opening one to be written anew or to be appended to. A path is walked name by name; every name but
the last has to lead to a directory.

## Contents
- **Faults.** `OsFault` and its wording.
- **Trees.** `FileTree`, its look-up and its single change, `FileTree.set`; `FileTree.inside`.
- **Walking.** `checkPath`, `resolveDirectory`, `resolveLast`.
- **Reading and writing.** `read`, `makeParents`, `writable`, `write`, `prepare`, `append`.
-/

namespace StimulusBench

/-! ## Faults -/

/-- Why the operating system refuses. -/
inductive OsFault
  | noEntry
  | exists
  | notDirectory
  | isDirectory
  | nameTooLong
  | zeroByte
  /-- Any other refusal, in the system's own words. -/
  | other (message : String)
  deriving Repr, DecidableEq

/-- The wording of a refusal. -/
def OsFault.message : OsFault → String
  | .noEntry => "No such file or directory (os error 2)"
  | .exists => "File exists (os error 17)"
  | .notDirectory => "Not a directory (os error 20)"
  | .isDirectory => "Is a directory (os error 21)"
  | .nameTooLong => "File name too long (os error 36)"
  | .zeroByte => "file name contained an unexpected NUL byte"
  | .other message => message

/-! ## Trees -/

/-- What a path leads to. -/
inductive FileEntry
  | file (contents : String)
  | directory
  deriving Repr, DecidableEq

/-- Files and directories by their places. The working directory and those above it are directories
    without an entry of their own. -/
structure FileTree where
  entries : List (Place × FileEntry)
  deriving Repr, DecidableEq

namespace FileTree

variable [WorkingDirectory]

/-- No files and no directories. -/
def empty : FileTree := ⟨[]⟩

/-- What stands at a place. -/
def get? (tree : FileTree) (place : Place) : Option FileEntry :=
  if place.isAbove then some .directory else tree.entries.lookup place

/-- The entries with one of them changed, or added to the end. -/
def setEntry (place : Place) (entry : FileEntry) :
    List (Place × FileEntry) → List (Place × FileEntry)
  | [] => [(place, entry)]
  | (place', entry') :: rest =>
    if place' = place then (place, entry) :: rest
    else (place', entry') :: setEntry place entry rest

/-- The tree with one entry changed or added. -/
def set (tree : FileTree) (place : Place) (entry : FileEntry) : FileTree :=
  ⟨setEntry place entry tree.entries⟩

/-- The entries below the working directory. -/
def inside (tree : FileTree) : List (Place × FileEntry) :=
  tree.entries.filter fun (place, _) => place.isInside

/-! ## Walking -/

/-- Whether a name can be a name in a directory at all. -/
def checkName (name : String) : Except OsFault Unit :=
  if 255 < name.utf8ByteSize then .error .nameTooLong else .ok ()

/-- How many bytes the text of a path must stay below. -/
def pathLimit : Nat := 4096

/-- Whether the names and the size of a path let the operating system look at it at all. -/
def checkPath (names : List String) (size : Nat) : Except OsFault Unit := do
  if names.any (·.toList.contains '\x00') then throw .zeroByte
  if size = 0 then throw .noEntry
  if pathLimit ≤ size then throw .nameTooLong

/-- The directory that some names lead to from another one. -/
def resolveDirectory (tree : FileTree) (here : Place) : List String → Except OsFault Place
  | [] => .ok here
  | name :: rest =>
    if leadsAnywhere name then resolveDirectory tree (here.follow name) rest
    else do
      checkName name
      match tree.get? (here.child name) with
      | none => .error .noEntry
      | some (.file _) => .error .notDirectory
      | some .directory => resolveDirectory tree (here.child name) rest

/-- Where a path leads to, whether anything stands there or not. Nothing for a path that ends at a
    directory by the last name alone. -/
def resolveLast (tree : FileTree) (path : FilePath) : Except OsFault (Option Place) := do
  checkPath path.names path.size
  match path.names.getLast? with
  | none => return none
  | some last =>
    let above ← tree.resolveDirectory .working path.names.dropLast
    if leadsAnywhere last then return none
    else
      checkName last
      return some (above.child last)

/-! ## Reading and writing -/

/-- The contents of a file. -/
def read (tree : FileTree) (path : String) : Except OsFault String := do
  let p := FilePath.ofText path
  match ← tree.resolveLast p with
  | none => throw .isDirectory
  | some place =>
    match tree.get? place with
    | none => throw .noEntry
    | some .directory => throw .isDirectory
    | some (.file contents) => if p.trailing then throw .notDirectory else return contents

/-- Makes the directories of some names from a place on, as far as they are missing; those made
    before a refusal stay. A file in the way is no directory to walk through; as the last name, or
    once a directory was made, it is met by the attempt to make one in its place. -/
def makeDirectoriesFrom (tree : FileTree) (made : Bool) (here : Place) :
    List String → FileTree × Except OsFault Unit
  | [] => (tree, .ok ())
  | name :: rest =>
    if leadsAnywhere name then tree.makeDirectoriesFrom made (here.follow name) rest
    else
      match checkName name with
      | .error fault => (tree, .error fault)
      | .ok () =>
        let place := here.child name
        match tree.get? place with
        | none => (tree.set place .directory).makeDirectoriesFrom true place rest
        | some .directory => tree.makeDirectoriesFrom made place rest
        | some (.file _) =>
          (tree, .error (if made || rest.isEmpty then .exists else .notDirectory))

/-- Makes the directories that some names lead to from the working directory. -/
def makeDirectories (tree : FileTree) (names : List String) : FileTree × Except OsFault Unit :=
  tree.makeDirectoriesFrom false .working names

/-- Makes the directories above a file. -/
def makeParents (tree : FileTree) (path : FilePath) : FileTree × Except OsFault Unit :=
  if path.parents.isEmpty then (tree, .ok ())
  else
    match checkPath path.parents path.parentSize with
    | .error fault => (tree, .error fault)
    | .ok () => tree.makeDirectories path.parents

/-- The place of the file that a path opens for writing, whether it is there or not. -/
def writable (tree : FileTree) (path : FilePath) : Except OsFault Place := do
  match ← tree.resolveLast path with
  | none => throw .isDirectory
  | some place =>
    if path.trailing then throw .isDirectory
    match tree.get? place with
    | some .directory => throw .isDirectory
    | _ => return place

/-- Makes the directories above a file and opens it, with a change to what it holds. -/
def openWith (tree : FileTree) (path : String) (change : Option String → String) :
    FileTree × Except OsFault Place :=
  let p := FilePath.ofText path
  match tree.makeParents p with
  | (tree, .error fault) => (tree, .error fault)
  | (tree, .ok ()) =>
    match tree.writable p with
    | .error fault => (tree, .error fault)
    | .ok place =>
      let held := match tree.get? place with
        | some (.file contents) => some contents
        | _ => none
      (tree.set place (.file (change held)), .ok place)

/-- Writes a file, whatever it held before. -/
def write (tree : FileTree) (path contents : String) : FileTree × Except OsFault Unit :=
  let (tree, outcome) := tree.openWith path fun _ => contents
  (tree, outcome.map fun _ => ())

/-- Opens a file to be appended to; one that is missing is begun. -/
def prepare (tree : FileTree) (path : String) : FileTree × Except OsFault Place :=
  tree.openWith path (·.getD "")

/-- Appends to a file that was opened before. -/
def append (tree : FileTree) (place : Place) (text : String) : FileTree :=
  match tree.get? place with
  | some (.file contents) => tree.set place (.file (contents ++ text))
  | _ => tree

end FileTree

end StimulusBench
