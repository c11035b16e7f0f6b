import StimulusBench.FileTree
import StimulusBench.Proofs.Outcome

/-!
# `StimulusBench.Proofs.FileTree` — what writing changes and what it leaves alone

Nothing is ever removed from a tree. Directories are made where nothing stood, and a file is changed at
the one place that the path opened for it leads to. Where a path leads depends on its names alone, and
directories stay directories, so that a path that was good for reading stays good for reading.

## Contents
- **Destinations.** `FilePath.destination`, where a path leads by its names, and two spellings of one
  destination.
- **Look-up.** `get?_set`.
- **Changes.** `FileTree.Changes`: a tree changed in files at some places only.
- **Directories.** `changes_makeParents`.
- **Walking.** `resolveLast_of_directories`: what directories allow stays allowed.
- **Reading and writing.** `read_of_directories`, `changes_openWith`, `write_eq_ok`.
- **Appending.** `changes_append`, `get?_append_self`.
-/

namespace StimulusBench

/-! ## Destinations -/

/-- Where a path leads by its names, whatever stands there. -/
def FilePath.destination [WorkingDirectory] (path : FilePath) : Place :=
  path.names.foldl Place.follow .working

/-- A place is known by its names. -/
theorem Place.eq_of_names {p q : Place} (h : p.names = q.names) : p = q := by
  obtain ⟨_, names, rfl⟩ := p
  obtain ⟨_, names', rfl⟩ := q
  cases h
  rfl

theorem FileTree.follow_eq_child {name : String} (h : leadsAnywhere name = false) (here : Place) :
    here.follow name = here.child name := by
  simp only [leadsAnywhere, Bool.or_eq_false_iff, decide_eq_false_iff_not] at h
  obtain ⟨⟨hdot, hup⟩, hroot⟩ := h
  rw [Place.follow, if_neg hdot, if_neg hup, if_neg hroot]

/-- Names that files can have are added to those of a place. -/
theorem Place.names_foldl_follow {names : List String} (h : ∀ name ∈ names, leadsAnywhere name = false)
    (here : Place) : (names.foldl Place.follow here).names = names.reverse ++ here.names := by
  induction names generalizing here with
  | nil => rfl
  | cons name rest ih =>
      obtain ⟨hname, hrest⟩ := List.forall_mem_cons.mp h
      rw [List.foldl_cons, ih hrest, FileTree.follow_eq_child hname, Place.child, List.reverse_cons,
        List.append_assoc]
      rfl

namespace FilePath

variable [WorkingDirectory] {p q : FilePath}

/-- **A path from the root** through the working directory leads where the rest of it leads from there. -/
theorem destination_of_absolute (h : p.names = rootName :: WorkingDirectory.names.reverse ++ q.names) :
    p.destination = q.destination := by
  have hworking : WorkingDirectory.names.reverse.foldl Place.follow .root = .working := by
    apply Place.eq_of_names
    rw [Place.names_foldl_follow fun name hname => WorkingDirectory.proper name (List.mem_reverse.mp hname),
      List.reverse_reverse]
    exact List.append_nil _
  rw [destination, destination, h, List.cons_append, List.foldl_cons, List.foldl_append]
  exact congrArg (q.names.foldl Place.follow) hworking

/-- **A path through the directory above** and back by the name of the working directory makes a detour. -/
theorem destination_of_detour {name : String} {above : List String}
    (hname : WorkingDirectory.names = name :: above) (h : p.names = ".." :: name :: q.names) :
    p.destination = q.destination := by
  have hproper : leadsAnywhere name = false := WorkingDirectory.proper name (hname ▸ List.mem_cons_self)
  have hback : (Place.working.follow "..").follow name = .working := by
    apply Place.eq_of_names
    rw [FileTree.follow_eq_child hproper]
    show name :: WorkingDirectory.names.tail = WorkingDirectory.names
    rw [hname, List.tail_cons]
  rw [destination, destination, h, List.foldl_cons, List.foldl_cons, hback]

end FilePath

namespace FileTree

variable {tree tree' tree'' : FileTree} {place : Place} {path text : String}

/-! ## Look-up -/

theorem lookup_setEntry (place q : Place) (entry : FileEntry) (entries : List (Place × FileEntry)) :
    (setEntry place entry entries).lookup q = if q = place then some entry else entries.lookup q := by
  induction entries with
  | nil =>
      rw [setEntry, List.lookup_cons]
      by_cases hq : q = place
      · rw [if_pos hq, beq_iff_eq.mpr hq]
      · rw [if_neg hq, beq_eq_false_iff_ne.mpr hq]
  | cons e rest ih =>
      obtain ⟨place', entry'⟩ := e
      rw [setEntry]
      split
      next heq =>
        subst heq
        rw [List.lookup_cons, List.lookup_cons]
        by_cases hq : q = place'
        · rw [if_pos hq, beq_iff_eq.mpr hq]
        · rw [if_neg hq, beq_eq_false_iff_ne.mpr hq]
      next hne =>
        rw [List.lookup_cons, List.lookup_cons]
        by_cases hq : q = place'
        · rw [beq_iff_eq.mpr hq, if_neg fun heq => hne (hq.symm.trans heq)]
        · rw [beq_eq_false_iff_ne.mpr hq, ih]

variable [WorkingDirectory]

/-- **The one entry** that is set changes, unless its place is above the working directory. -/
theorem get?_set (tree : FileTree) (place q : Place) (entry : FileEntry) :
    (tree.set place entry).get? q =
      if q.isAbove then some .directory else if q = place then some entry else tree.get? q := by
  rw [get?, get?, set, lookup_setEntry]
  split
  · rfl
  · rfl

theorem isAbove_eq_false (h : tree.get? place ≠ some .directory) : place.isAbove = false := by
  cases habove : place.isAbove with
  | false => rfl
  | true => exact absurd (by rw [get?, habove]; rfl) h

theorem get?_set_self (h : tree.get? place ≠ some .directory) (entry : FileEntry) :
    (tree.set place entry).get? place = some entry := by
  rw [get?_set, isAbove_eq_false h, if_pos rfl]
  rfl

theorem get?_set_of_ne {q : Place} (hne : q ≠ place) (entry : FileEntry) :
    (tree.set place entry).get? q = tree.get? q := by
  rw [get?_set, if_neg hne, get?]
  split <;> rfl

/-! ## Changes -/

/-- No directory of the first tree is lost in the second one. -/
def KeepsDirectories (tree tree' : FileTree) : Prop :=
  ∀ q, tree.get? q = some .directory → tree'.get? q = some .directory

/-- **A tree changed at some places**: there, files may be begun and changed. Elsewhere directories may
    be made where nothing stood, and no directory is lost. -/
structure Changes (written : Place → Prop) (tree tree' : FileTree) : Prop where
  directories : tree.KeepsDirectories tree'
  elsewhere : ∀ q, ¬ written q →
    tree'.get? q = tree.get? q ∨ tree.get? q = none ∧ tree'.get? q = some .directory

namespace Changes

variable {written written' : Place → Prop}

theorem refl (tree : FileTree) : Changes written tree tree :=
  ⟨fun _ h => h, fun _ _ => .inl rfl⟩

theorem trans (h : Changes written tree tree') (h' : Changes written tree' tree'') :
    Changes written tree tree'' := by
  refine ⟨fun q hq => h'.directories q (h.directories q hq), fun q hq => ?_⟩
  rcases h.elsewhere q hq with hsame | ⟨hnone, hmade⟩
  · rw [← hsame]
    exact h'.elsewhere q hq
  · exact .inr ⟨hnone, h'.directories q hmade⟩

theorem mono (h : Changes written tree tree') (hle : ∀ q, written q → written' q) :
    Changes written' tree tree' :=
  ⟨h.directories, fun q hq => h.elsewhere q fun hw => hq (hle q hw)⟩

/-- **A file elsewhere** stays as it is. -/
theorem file (h : Changes written tree tree') (hplace : ¬ written place)
    (hfile : tree.get? place = some (.file text)) : tree'.get? place = some (.file text) := by
  rcases h.elsewhere place hplace with hsame | ⟨hnone, -⟩
  · rw [hsame, hfile]
  · rw [hnone] at hfile
    cases hfile

end Changes

variable {written : Place → Prop}

theorem changes_set_directory (h : tree.get? place = none) :
    Changes written tree (tree.set place .directory) := by
  have hself : (tree.set place .directory).get? place = some .directory :=
    get?_set_self (by rw [h]; exact fun heq => nomatch heq) _
  constructor
  · intro q hq
    by_cases hplace : q = place
    · rw [hplace, hself]
    · rw [get?_set_of_ne hplace, hq]
  · intro q _
    by_cases hplace : q = place
    · rw [hplace]
      exact .inr ⟨h, hself⟩
    · exact .inl (get?_set_of_ne hplace _)

theorem changes_set_file (h : tree.get? place ≠ some .directory) (text : String) :
    Changes (· = place) tree (tree.set place (.file text)) := by
  constructor
  · intro q hq
    have hne : q ≠ place := by
      rintro rfl
      exact h hq
    rw [get?_set_of_ne hne, hq]
  · exact fun q hne => .inl (get?_set_of_ne hne _)

/-! ## Directories -/

theorem changes_makeDirectoriesFrom (names : List String) (tree : FileTree) (made : Bool) (here : Place) :
    Changes written tree (tree.makeDirectoriesFrom made here names).1 := by
  induction names generalizing tree made here with
  | nil => exact .refl tree
  | cons name rest ih =>
      -- a directory is made where nothing stood; at a file the walk ends with what was made so far
      rw [makeDirectoriesFrom]
      split
      · exact ih tree made _
      · split
        · exact .refl tree
        · dsimp only
          split
          next hnone => exact (changes_set_directory hnone).trans (ih _ true _)
          next => exact ih tree made _
          next => exact .refl tree

/-- **Making directories** changes no file. -/
theorem changes_makeParents (tree : FileTree) (p : FilePath) :
    Changes written tree (tree.makeParents p).1 := by
  rw [makeParents]
  split
  · exact .refl tree
  · split
    · exact .refl tree
    · exact changes_makeDirectoriesFrom _ tree false _

/-! ## Walking -/

/-- **One name of a walk** leads on by itself, or to a directory with that name. -/
theorem resolveDirectory_cons_eq_ok_iff {here : Place} {name : String} {rest : List String} :
    tree.resolveDirectory here (name :: rest) = .ok place ↔
      (leadsAnywhere name = false → checkName name = .ok () ∧
        tree.get? (here.follow name) = some .directory) ∧
      tree.resolveDirectory (here.follow name) rest = .ok place := by
  rw [resolveDirectory]
  cases hleads : leadsAnywhere name with
  | true => simp
  | false =>
      rw [if_neg Bool.false_ne_true, bind_eq_ok_iff, follow_eq_child hleads]
      constructor
      · rintro ⟨_, hname, h⟩
        split at h
        next => cases h
        next => cases h
        next hdirectory => exact ⟨fun _ => ⟨hname, hdirectory⟩, h⟩
      · rintro ⟨hstep, h⟩
        obtain ⟨hname, hdirectory⟩ := hstep rfl
        refine ⟨(), hname, ?_⟩
        rw [hdirectory]
        exact h

/-- A walk ends where its names lead. -/
theorem eq_of_resolveDirectory {here : Place} {names : List String}
    (h : tree.resolveDirectory here names = .ok place) : place = names.foldl Place.follow here := by
  induction names generalizing here with
  | nil =>
      cases h
      rfl
  | cons name rest ih => exact ih (resolveDirectory_cons_eq_ok_iff.mp h).2

/-- **A walk stays possible** while directories stay directories. -/
theorem resolveDirectory_of_directories
    (hkept : tree.KeepsDirectories tree') {here : Place} {names : List String}
    (h : tree.resolveDirectory here names = .ok place) : tree'.resolveDirectory here names = .ok place := by
  induction names generalizing here with
  | nil => exact h
  | cons name rest ih =>
      rw [resolveDirectory_cons_eq_ok_iff] at h ⊢
      refine ⟨fun hleads => ?_, ih h.2⟩
      obtain ⟨hname, hdirectory⟩ := h.1 hleads
      exact ⟨hname, hkept _ hdirectory⟩

theorem resolveLast_eq_ok_some_iff {p : FilePath} :
    tree.resolveLast p = .ok (some place) ↔
      checkPath p.names p.size = .ok () ∧ ∃ last above, p.names.getLast? = some last ∧
        tree.resolveDirectory .working p.names.dropLast = .ok above ∧ leadsAnywhere last = false ∧
        checkName last = .ok () ∧ place = above.child last := by
  rw [resolveLast, bind_eq_ok_iff]
  constructor
  · rintro ⟨_, hpath, h⟩
    split at h
    next => cases h
    next last hlast =>
      obtain ⟨above, habove, h⟩ := bind_eq_ok_iff.mp h
      split at h
      next => cases h
      next hleads =>
        obtain ⟨_, hname, h⟩ := bind_eq_ok_iff.mp h
        cases h
        exact ⟨hpath, last, above, hlast, habove, Bool.eq_false_iff.mpr hleads, hname, rfl⟩
  · rintro ⟨hpath, last, above, hlast, habove, hleads, hname, rfl⟩
    refine ⟨(), hpath, ?_⟩
    rw [hlast]
    refine bind_eq_ok_iff.mpr ⟨above, habove, ?_⟩
    rw [hleads, if_neg Bool.false_ne_true]
    exact bind_eq_ok_iff.mpr ⟨(), hname, rfl⟩

/-- A path leads to its destination, if it leads to a file at all. -/
theorem eq_destination_of_resolveLast {p : FilePath} (h : tree.resolveLast p = .ok (some place)) :
    place = p.destination := by
  obtain ⟨-, last, above, hlast, habove, hleads, -, rfl⟩ := resolveLast_eq_ok_some_iff.mp h
  obtain ⟨front, hfront⟩ := List.getLast?_eq_some_iff.mp hlast
  rw [FilePath.destination, hfront, List.foldl_append, List.foldl_cons, List.foldl_nil,
    follow_eq_child hleads]
  rw [hfront, List.dropLast_concat] at habove
  rw [eq_of_resolveDirectory habove]

theorem resolveLast_of_directories (hkept : tree.KeepsDirectories tree') {p : FilePath}
    (h : tree.resolveLast p = .ok (some place)) : tree'.resolveLast p = .ok (some place) := by
  rw [resolveLast_eq_ok_some_iff] at h ⊢
  obtain ⟨hpath, last, above, hlast, habove, hrest⟩ := h
  exact ⟨hpath, last, above, hlast, resolveDirectory_of_directories hkept habove, hrest⟩

/-! ## Reading and writing -/

theorem read_eq_ok_iff :
    tree.read path = .ok text ↔ ∃ place, tree.resolveLast (FilePath.ofText path) = .ok (some place) ∧
      tree.get? place = some (.file text) ∧ (FilePath.ofText path).trailing = false := by
  rw [read, bind_eq_ok_iff]
  constructor
  · rintro ⟨place?, hplace, h⟩
    split at h
    next => cases h
    next place =>
      split at h
      next => cases h
      next => cases h
      next contents hfile =>
        split at h
        next => cases h
        next htrailing =>
          cases h
          exact ⟨place, hplace, hfile, Bool.eq_false_iff.mpr htrailing⟩
  · rintro ⟨place, hplace, hfile, htrailing⟩
    refine ⟨some place, hplace, ?_⟩
    dsimp only
    rw [hfile, htrailing]
    rfl

/-- **A file that could be read** can be read still, as what now stands at the place. -/
theorem read_of_directories {text' : String} (hkept : tree.KeepsDirectories tree')
    (hread : tree.read path = .ok text)
    (hfile : tree'.get? (FilePath.ofText path).destination = some (.file text')) :
    tree'.read path = .ok text' := by
  obtain ⟨place, hplace, -, htrailing⟩ := read_eq_ok_iff.mp hread
  rw [← eq_destination_of_resolveLast hplace] at hfile
  exact read_eq_ok_iff.mpr ⟨place, resolveLast_of_directories hkept hplace, hfile, htrailing⟩

theorem writable_eq_ok_iff {p : FilePath} :
    tree.writable p = .ok place ↔ tree.resolveLast p = .ok (some place) ∧ p.trailing = false ∧
      tree.get? place ≠ some .directory := by
  rw [writable, bind_eq_ok_iff]
  constructor
  · rintro ⟨place?, hplace, h⟩
    cases place? with
    | none => cases h
    | some place' =>
        cases htrailing : p.trailing with
        | true =>
            rw [htrailing] at h
            cases h
        | false =>
            rw [htrailing] at h
            dsimp only at h
            rw [if_neg Bool.false_ne_true] at h
            split at h
            next => cases h
            next hfree =>
              cases h
              exact ⟨hplace, rfl, hfree⟩
  · rintro ⟨hplace, htrailing, hfree⟩
    refine ⟨some place, hplace, ?_⟩
    rw [htrailing]
    dsimp only
    rw [if_neg Bool.false_ne_true]
    split
    next hdirectory => exact absurd hdirectory hfree
    next => rfl

/-- The text of the file at a place. -/
def held? (tree : FileTree) (place : Place) : Option String :=
  match tree.get? place with
  | some (.file contents) => some contents
  | _ => none

/-- **A file that was opened** is changed where its path leads, behind the directories above it. -/
theorem openWith_eq_ok_iff {change : Option String → String} :
    tree.openWith path change = (tree', .ok place) ↔
      ∃ made, tree.makeParents (FilePath.ofText path) = (made, .ok ()) ∧
        made.writable (FilePath.ofText path) = .ok place ∧
        tree' = made.set place (.file (change (made.held? place))) := by
  unfold openWith
  dsimp only
  constructor
  · intro h
    split at h
    next => cases h
    next made hmade =>
      split at h
      next => cases h
      next place' hplace =>
        cases h
        exact ⟨made, hmade, hplace, rfl⟩
  · rintro ⟨made, hmade, hplace, rfl⟩
    rw [hmade]
    dsimp only
    rw [hplace]
    rfl

/-- **Opening a file** changes no other one. -/
theorem changes_openWith (tree : FileTree) (path : String) (change : Option String → String) :
    Changes (· = (FilePath.ofText path).destination) tree (tree.openWith path change).1 := by
  have hparents : Changes (· = (FilePath.ofText path).destination) tree
      (tree.makeParents (FilePath.ofText path)).1 := changes_makeParents tree _
  unfold openWith
  dsimp only
  split
  next hmade =>
    rw [hmade] at hparents
    exact hparents
  next made hmade =>
    rw [hmade] at hparents
    split
    next => exact hparents
    next place hplace =>
      obtain ⟨hlast, -, hfree⟩ := writable_eq_ok_iff.mp hplace
      rw [← eq_destination_of_resolveLast hlast] at hparents ⊢
      exact hparents.trans (changes_set_file hfree _)

/-- **Writing a file** changes no other one. -/
theorem changes_write (tree : FileTree) (path text : String) :
    Changes (· = (FilePath.ofText path).destination) tree (tree.write path text).1 :=
  changes_openWith tree path fun _ => text

theorem write_eq_ok (h : tree.write path text = (tree', .ok ())) :
    tree'.get? (FilePath.ofText path).destination = some (.file text) ∧ tree'.read path = .ok text := by
  cases hopen : tree.openWith path fun _ => text with
  | mk opened outcome =>
      rw [write, hopen] at h
      cases outcome with
      | error fault => cases h
      | ok place =>
          cases h
          obtain ⟨made, -, hplace, rfl⟩ := openWith_eq_ok_iff.mp hopen
          obtain ⟨hlast, htrailing, hfree⟩ := writable_eq_ok_iff.mp hplace
          have hfile := get?_set_self hfree (.file text)
          have hkept := (changes_set_file hfree text).directories
          refine ⟨eq_destination_of_resolveLast hlast ▸ hfile, ?_⟩
          exact read_eq_ok_iff.mpr ⟨place, resolveLast_of_directories hkept hlast, hfile, htrailing⟩

/-! ## Appending -/

/-- **Appending to a file** changes no other one. -/
theorem changes_append (tree : FileTree) (place : Place) (text : String) :
    Changes (· = place) tree (tree.append place text) := by
  rw [append]
  split
  next contents hfile => exact changes_set_file (by rw [hfile]; exact fun h => nomatch h) _
  next => exact .refl tree

theorem get?_append_self {contents : String} (h : tree.get? place = some (.file contents))
    (text : String) : (tree.append place text).get? place = some (.file (contents ++ text)) := by
  rw [append, h]
  exact get?_set_self (by rw [h]; exact fun heq => nomatch heq) _

/-- **A file that was prepared** is at the destination of its path. -/
theorem eq_destination_of_openWith {change : Option String → String}
    (h : tree.openWith path change = (tree', .ok place)) : place = (FilePath.ofText path).destination := by
  obtain ⟨made, -, hplace, -⟩ := openWith_eq_ok_iff.mp h
  exact eq_destination_of_resolveLast (writable_eq_ok_iff.mp hplace).1

end FileTree

end StimulusBench
