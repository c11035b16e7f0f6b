import StimulusBench.Proofs.Session

/-!
# `StimulusBench.Proofs.Log.Growth` — what a log does to the files

A log takes room in one place only. When its file is opened, the missing directories above it are made
and the file is begun, if it is not there; from then on lines are added to its end. So a tree with a log
in it grows: no directory is lost, no file loses anything of its text, and away from the path of the log
nothing changes at all.

## Contents
- **Parents.** `FilePath.parentPlaces`, and where directories can be made.
- **Growth.** `FileTree.GrowsAt` and what stays readable; growth by opening and by appending.
- **Logs.** `Session.LogsAt`, and the growth by events.
-/

namespace StimulusBench

/-- The places of the directories above the last name of a path. -/
def FilePath.parentPlaces [WorkingDirectory] (path : FilePath) : List Place :=
  placesFrom .working path.parents

namespace FileTree

variable [WorkingDirectory] {tree tree' tree'' : FileTree} {place q : Place} {text : String}

/-! ## Parents -/

/-- Directories are made on the way that the names lead, and nowhere else. -/
theorem get?_makeDirectoriesFrom_of_not_mem (names : List String) (tree : FileTree) (made : Bool)
    (here : Place) (hq : q ∉ FilePath.placesFrom here names) :
    (tree.makeDirectoriesFrom made here names).1.get? q = tree.get? q := by
  induction names generalizing tree made here with
  | nil => rfl
  | cons name rest ih =>
      rw [FilePath.placesFrom, List.mem_cons, not_or] at hq
      obtain ⟨hne, hrest⟩ := hq
      rw [makeDirectoriesFrom]
      split
      · exact ih tree made _ hrest
      next hleads =>
        have hchild : here.follow name = here.child name :=
          follow_eq_child (Bool.eq_false_iff.mpr hleads) here
        rw [hchild] at hne hrest
        split
        · rfl
        · dsimp only
          split
          next => rw [ih _ true _ hrest, get?_set_of_ne hne]
          next => exact ih tree made _ hrest
          next => rfl

theorem get?_makeParents_of_not_mem {path : FilePath} (hq : q ∉ path.parentPlaces) :
    (tree.makeParents path).1.get? q = tree.get? q := by
  rw [makeParents]
  split
  · rfl
  · split
    · rfl
    · exact get?_makeDirectoriesFrom_of_not_mem _ tree false _ hq

/-! ## Growth -/

/-- **A tree that has grown at a path**, if there is one: no directory is lost, no file loses anything of
    its text, and nothing else has changed than the file that the path leads to and the missing
    directories above it, which were made. -/
structure GrowsAt (path : Option String) (tree tree' : FileTree) : Prop where
  directories : tree.KeepsDirectories tree'
  texts : ∀ q text, tree.get? q = some (.file text) →
    ∃ more, tree'.get? q = some (.file (text ++ more))
  elsewhere : ∀ q, (∀ p ∈ path, q ≠ (FilePath.ofText p).destination) →
    tree'.get? q = tree.get? q ∨
      (∃ p ∈ path, q ∈ (FilePath.ofText p).parentPlaces) ∧
        tree.get? q = none ∧ tree'.get? q = some .directory

namespace GrowsAt

variable {path : Option String}

theorem refl (path : Option String) (tree : FileTree) : GrowsAt path tree tree where
  directories _ h := h
  texts q text h := ⟨"", by rw [h, String.append_empty]⟩
  elsewhere _ _ := .inl rfl

theorem trans (h : GrowsAt path tree tree') (h' : GrowsAt path tree' tree'') :
    GrowsAt path tree tree'' := by
  refine ⟨fun q hq => h'.directories q (h.directories q hq), fun q text hfile => ?_, fun q hq => ?_⟩
  · obtain ⟨more, hfile'⟩ := h.texts q text hfile
    obtain ⟨more', hfile''⟩ := h'.texts q _ hfile'
    exact ⟨more ++ more', by rw [hfile'', String.append_assoc]⟩
  · rcases h.elsewhere q hq with hsame | ⟨habove, hnone, hmade⟩
    · rw [← hsame]
      exact h'.elsewhere q hq
    · -- a directory that was made on the way is still one in the end
      exact .inr ⟨habove, hnone, h'.directories q hmade⟩

/-- **A file away from the path** is read as before. -/
theorem read (h : GrowsAt path tree tree') {other : String}
    (hother : ∀ p ∈ path, (FilePath.ofText other).destination ≠ (FilePath.ofText p).destination)
    (hread : tree.read other = .ok text) : tree'.read other = .ok text := by
  refine read_of_directories h.directories hread ?_
  obtain ⟨place, hplace, hfile, -⟩ := read_eq_ok_iff.mp hread
  rw [eq_destination_of_resolveLast hplace] at hfile
  rcases h.elsewhere _ hother with hsame | ⟨-, hnone, -⟩
  · rw [hsame, hfile]
  · rw [hnone] at hfile
    cases hfile

end GrowsAt

variable {path : String}

theorem growsAt_makeParents (tree : FileTree) (path : String) :
    GrowsAt (some path) tree (tree.makeParents (FilePath.ofText path)).1 := by
  have hchanges : Changes (fun _ => False) tree (tree.makeParents (FilePath.ofText path)).1 :=
    changes_makeParents tree _
  refine ⟨hchanges.directories, fun q text hfile => ⟨"", ?_⟩, fun q _ => ?_⟩
  · rw [hchanges.file id hfile, String.append_empty]
  · by_cases hq : q ∈ (FilePath.ofText path).parentPlaces
    · rcases hchanges.elsewhere q id with hsame | hmade
      · exact .inl hsame
      · exact .inr ⟨⟨path, rfl, hq⟩, hmade⟩
    · exact .inl (get?_makeParents_of_not_mem hq)

/-- A file that is begun where its path leads, or goes on with what it held. -/
theorem growsAt_set_file (hplace : place = (FilePath.ofText path).destination)
    (hfree : tree.get? place ≠ some .directory)
    (hheld : ∀ held, tree.get? place = some (.file held) → ∃ more, text = held ++ more) :
    GrowsAt (some path) tree (tree.set place (.file text)) := by
  have hchanges := changes_set_file hfree text
  refine ⟨hchanges.directories, fun q held hfile => ?_, fun q hq => .inl ?_⟩
  · by_cases hself : q = place
    · subst hself
      obtain ⟨more, rfl⟩ := hheld held hfile
      exact ⟨more, get?_set_self hfree _⟩
    · exact ⟨"", by rw [get?_set_of_ne hself, hfile, String.append_empty]⟩
  · exact get?_set_of_ne (fun hself => hq path rfl (hself.trans hplace)) _

/-- **A file opened to be appended to** keeps what it held. -/
theorem growsAt_prepare (tree : FileTree) (path : String) :
    GrowsAt (some path) tree (tree.prepare path).1 := by
  have hparents := growsAt_makeParents tree path
  unfold prepare openWith
  dsimp only
  split
  next hmade =>
    rw [hmade] at hparents
    exact hparents
  next made hmade =>
    rw [hmade] at hparents
    split
    next => exact hparents
    next place hplace =>
      obtain ⟨hlast, -, hfree⟩ := writable_eq_ok_iff.mp hplace
      refine hparents.trans (growsAt_set_file (eq_destination_of_resolveLast hlast) hfree ?_)
      intro held hheld
      rw [hheld]
      exact ⟨"", String.append_empty.symm⟩

/-- **Appending** adds to the end of a file. -/
theorem growsAt_append (hplace : place = (FilePath.ofText path).destination) (tree : FileTree)
    (text : String) : GrowsAt (some path) tree (tree.append place text) := by
  rw [append]
  split
  next contents hfile =>
    refine growsAt_set_file hplace (fun hdirectory => ?_) fun held hheld => ?_
    · cases hfile.symm.trans hdirectory
    · cases hfile.symm.trans hheld
      exact ⟨text, rfl⟩
  next => exact .refl _ tree

end FileTree

/-! ## Logs -/

namespace Session

open FileTree (GrowsAt)

variable [WorkingDirectory] {s s' : Session} {path : Option String}

/-- **The log, if it was started, is at a path**: its file is where the path leads, and it has none if
    there is no path. -/
def LogsAt (path : Option String) (s : Session) : Prop :=
  ∀ logger, s.logger = some logger → logger.file = path.map fun p => (FilePath.ofText p).destination

theorem logsAt_of_none (h : s.logger = none) : s.LogsAt path := by
  intro logger hlogger
  rw [h] at hlogger
  cases hlogger

theorem LogsAt.of_keeps (h : s.LogsAt path) (hkept : s.Keeps s') : s'.LogsAt path := by
  intro logger hlogger
  rw [hkept.logger] at hlogger
  exact h logger hlogger

/-- **An event** makes the files grow at the path of the log. -/
theorem LogsAt.growsAt_emit (h : s.LogsAt path) (e : LogEvent) :
    s.files.GrowsAt path (s.emit e).files := by
  rw [emit]
  split
  next => exact .refl _ _
  next logger hlogger =>
    split
    next =>
      rw [logLine]
      split
      next place hplace =>
        rw [h logger hlogger] at hplace
        obtain ⟨p, rfl, hp⟩ := Option.map_eq_some_iff.mp hplace
        exact FileTree.growsAt_append hp.symm s.files _
      next => exact .refl _ _
    next => exact .refl _ _

/-- **Opening the log** makes the files grow at its path, whether it succeeds or not, and changes
    nothing else. -/
theorem openLog_grows (s : Session) (file : Option String) :
    (s.openLog file).1 = { s with files := (s.openLog file).1.files } ∧
      s.files.GrowsAt file (s.openLog file).1.files := by
  cases file with
  | none => exact ⟨rfl, .refl _ _⟩
  | some path =>
      have hgrows := FileTree.growsAt_prepare s.files path
      unfold openLog
      dsimp only
      split
      next hprepare =>
        rw [hprepare] at hgrows
        exact ⟨rfl, hgrows⟩
      next hprepare =>
        rw [hprepare] at hgrows
        exact ⟨rfl, hgrows⟩

end Session

end StimulusBench
