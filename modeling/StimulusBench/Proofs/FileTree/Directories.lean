import StimulusBench.Proofs.Log.Growth

/-!
# `StimulusBench.Proofs.FileTree.Directories` — where directories can be made, and that twice is once

Directories are made name by name along a way. A name is passed, or it is missing and made, or it blocks the
way for good. So what decides whether all of them can be made can be said of the tree as it was before, and
an attempt does not change the answer: made again, they are found there, or the way ends at the same name.

## Contents
- **Ground.** `FileTree.Grounded`: the directories on the way up from a place.
- **One name.** `Passes`, `Lacks` and `Blocks`, and what is done at each.
- **Ways.** `ClearFrom` decides whether directories can be made: `makeDirectoriesFrom_eq_ok_iff`.
- **Parents.** The same for the directories above a path: `makeParents_eq_ok_iff`, `makeParents_again`.
-/

namespace StimulusBench

namespace FileTree

open FilePath (placesFrom)

variable [WorkingDirectory]
variable {tree tree' : FileTree} {here q : Place} {name text : String} {names rest : List String}

/-! ## Ground -/

/-- **A place on solid ground**: it is a directory, and so is everything on the way up from it. -/
def Grounded (tree : FileTree) (here : Place) : Prop :=
  ∀ q : Place, q.names <:+ here.names → tree.get? q = some .directory

theorem get?_of_isAbove (h : q.isAbove = true) (tree : FileTree) : tree.get? q = some .directory := by
  rw [get?, if_pos h]

theorem grounded_working (tree : FileTree) : tree.Grounded .working := by
  intro q hq
  exact get?_of_isAbove (List.isSuffixOf_iff_suffix.mpr hq) tree

theorem Grounded.self (h : tree.Grounded here) : tree.get? here = some .directory :=
  h here (List.suffix_refl _)

theorem Grounded.mono (h : tree.Grounded here) (hkept : tree.KeepsDirectories tree') :
    tree'.Grounded here := fun q hq => hkept q (h q hq)

/-- A directory in a directory on solid ground is on solid ground. -/
theorem Grounded.child (h : tree.Grounded here) (hchild : tree.get? (here.child name) = some .directory) :
    tree.Grounded (here.child name) := by
  intro q hq
  rcases List.suffix_cons_iff.mp hq with hself | habove
  · rwa [Place.eq_of_names (q := here.child name) hself]
  · exact h q habove

theorem Grounded.root (tree : FileTree) : tree.Grounded .root :=
  fun q hq => grounded_working tree q (hq.trans List.nil_suffix)

/-- The way up never leaves solid ground. -/
theorem Grounded.climb (h : tree.Grounded here) : tree.Grounded here.climb :=
  fun q hq => h q (hq.trans (List.tail_suffix _))

theorem Grounded.follow (h : tree.Grounded here) (hleads : leadsAnywhere name = true) :
    tree.Grounded (here.follow name) := by
  rw [Place.follow]
  split
  · exact h
  next hdot =>
    split
    · exact h.climb
    next hup =>
      split
      · exact .root tree
      next hroot => simp [leadsAnywhere, hdot, hup, hroot] at hleads

/-! ## One name -/

/-- **A name that a way passes**: it leads on from anywhere, or to a directory that is there. -/
def Passes (tree : FileTree) (here : Place) (name : String) : Prop :=
  leadsAnywhere name = false → checkName name = .ok () ∧ tree.get? (here.follow name) = some .directory

/-- **A name that is missing**: nothing stands there, and a directory can be made. -/
def Lacks (tree : FileTree) (here : Place) (name : String) : Prop :=
  leadsAnywhere name = false ∧ checkName name = .ok () ∧ tree.get? (here.follow name) = none

/-- **A name that blocks the way**: it is no name for a directory, or that of a file. -/
def Blocks (tree : FileTree) (here : Place) (name : String) : Prop :=
  leadsAnywhere name = false ∧
    (checkName name = .ok () → ∃ text, tree.get? (here.follow name) = some (.file text))

theorem passes_or_lacks_or_blocks (tree : FileTree) (here : Place) (name : String) :
    tree.Passes here name ∨ tree.Lacks here name ∨ tree.Blocks here name := by
  cases hleads : leadsAnywhere name with
  | true => exact .inl fun hfalse => nomatch hleads.symm.trans hfalse
  | false =>
      cases hname : checkName name with
      | error fault => exact .inr (.inr ⟨hleads, fun hok => nomatch hname.symm.trans hok⟩)
      | ok u =>
          cases hplace : tree.get? (here.follow name) with
          | none => exact .inr (.inl ⟨hleads, hname, hplace⟩)
          | some entry =>
              cases entry with
              | file text => exact .inr (.inr ⟨hleads, fun _ => ⟨text, hplace⟩⟩)
              | directory => exact .inl fun _ => ⟨hname, hplace⟩

theorem Passes.mono (h : tree.Passes here name) (hkept : tree.KeepsDirectories tree') :
    tree'.Passes here name := by
  intro hleads
  obtain ⟨hname, hdirectory⟩ := h hleads
  exact ⟨hname, hkept _ hdirectory⟩

theorem Passes.grounded (h : tree.Passes here name) (hground : tree.Grounded here) :
    tree.Grounded (here.follow name) := by
  cases hleads : leadsAnywhere name with
  | true => exact hground.follow hleads
  | false =>
      have hdirectory := (h hleads).2
      rw [follow_eq_child hleads] at hdirectory ⊢
      exact hground.child hdirectory

/-- A directory that is made where nothing stands is found there. -/
theorem get?_set_directory (hnone : tree.get? q = none) :
    (tree.set q .directory).get? q = some .directory := by
  have hfree : tree.get? q ≠ some .directory := by
    rw [hnone]
    exact nofun
  exact get?_set_self hfree .directory

theorem Lacks.grounded (h : tree.Lacks here name) (hground : tree.Grounded here) :
    (tree.set (here.follow name) .directory).Grounded (here.follow name) := by
  obtain ⟨hleads, -, hnone⟩ := h
  have hself := get?_set_directory hnone
  have hset : Changes (fun _ => False) tree (tree.set (here.follow name) .directory) :=
    changes_set_directory hnone
  have hkept := hset.directories
  rw [follow_eq_child hleads] at hself hkept ⊢
  exact (hground.mono hkept).child hself

theorem makeDirectoriesFrom_of_passes (h : tree.Passes here name) (made : Bool) (rest : List String) :
    tree.makeDirectoriesFrom made here (name :: rest) =
      tree.makeDirectoriesFrom made (here.follow name) rest := by
  rw [makeDirectoriesFrom]
  split
  · rfl
  next hleads =>
    have hleads := Bool.eq_false_iff.mpr hleads
    obtain ⟨hname, hdirectory⟩ := h hleads
    rw [follow_eq_child hleads] at hdirectory ⊢
    rw [hname]
    dsimp only
    rw [hdirectory]

theorem makeDirectoriesFrom_of_lacks (h : tree.Lacks here name) (made : Bool) (rest : List String) :
    tree.makeDirectoriesFrom made here (name :: rest) =
      (tree.set (here.follow name) .directory).makeDirectoriesFrom true (here.follow name) rest := by
  obtain ⟨hleads, hname, hnone⟩ := h
  rw [follow_eq_child hleads] at hnone ⊢
  rw [makeDirectoriesFrom, if_neg (Bool.eq_false_iff.mp hleads), hname]
  dsimp only
  rw [hnone]

theorem makeDirectoriesFrom_of_blocks (h : tree.Blocks here name) (made : Bool) (rest : List String) :
    ∃ fault, tree.makeDirectoriesFrom made here (name :: rest) = (tree, .error fault) := by
  obtain ⟨hleads, hblocked⟩ := h
  rw [makeDirectoriesFrom, if_neg (Bool.eq_false_iff.mp hleads)]
  cases hname : checkName name with
  | error fault => exact ⟨fault, rfl⟩
  | ok u =>
      obtain ⟨text, hfile⟩ := hblocked hname
      rw [follow_eq_child hleads] at hfile
      dsimp only
      rw [hfile]
      exact ⟨_, rfl⟩

/-! ## Ways -/

/-- **A way that is clear**: its names can be names of directories, and no file stands on it. -/
structure ClearFrom (tree : FileTree) (here : Place) (names : List String) : Prop where
  spelled : ∀ name ∈ names, leadsAnywhere name = false → checkName name = .ok ()
  free : ∀ q ∈ placesFrom here names, ∀ text, tree.get? q ≠ some (.file text)

/-- Where only directories are made, the files are the same. -/
theorem Changes.file_iff (h : Changes (fun _ => False) tree tree') :
    tree'.get? q = some (.file text) ↔ tree.get? q = some (.file text) := by
  refine ⟨fun hfile => ?_, h.file id⟩
  rcases h.elsewhere q id with hsame | ⟨-, hmade⟩
  · rw [← hsame, hfile]
  · rw [hmade] at hfile
    cases hfile

theorem Changes.clearFrom_iff (h : Changes (fun _ => False) tree tree') :
    tree'.ClearFrom here names ↔ tree.ClearFrom here names :=
  ⟨fun hclear => ⟨hclear.spelled, fun q hq text hfile => hclear.free q hq text (h.file_iff.mpr hfile)⟩,
    fun hclear => ⟨hclear.spelled, fun q hq text hfile => hclear.free q hq text (h.file_iff.mp hfile)⟩⟩

theorem clearFrom_cons_iff :
    tree.ClearFrom here (name :: rest) ↔
      (leadsAnywhere name = false → checkName name = .ok ()) ∧
      (∀ text, tree.get? (here.follow name) ≠ some (.file text)) ∧
      tree.ClearFrom (here.follow name) rest := by
  constructor
  · rintro ⟨hspelled, hfree⟩
    rw [List.forall_mem_cons] at hspelled
    rw [placesFrom, List.forall_mem_cons] at hfree
    exact ⟨hspelled.1, hfree.1, hspelled.2, hfree.2⟩
  · rintro ⟨hname, hplace, hspelled, hfree⟩
    exact ⟨List.forall_mem_cons.mpr ⟨hname, hspelled⟩, List.forall_mem_cons.mpr ⟨hplace, hfree⟩⟩

theorem keepsDirectories_makeDirectoriesFrom (names : List String) (tree : FileTree) (made : Bool)
    (here : Place) : tree.KeepsDirectories (tree.makeDirectoriesFrom made here names).1 :=
  have hmade : Changes (fun _ => False) tree (tree.makeDirectoriesFrom made here names).1 :=
    changes_makeDirectoriesFrom names tree made here
  hmade.directories

/-- **Directories can be made** exactly on a way that is clear. -/
theorem makeDirectoriesFrom_eq_ok_iff (names : List String) (tree : FileTree) (made : Bool) (here : Place)
    (hground : tree.Grounded here) :
    (tree.makeDirectoriesFrom made here names).2 = .ok () ↔ tree.ClearFrom here names := by
  induction names generalizing tree made here with
  | nil => exact ⟨fun _ => ⟨fun _ hname => (nomatch hname), fun _ hq => (nomatch hq)⟩, fun _ => rfl⟩
  | cons name rest ih =>
      rw [clearFrom_cons_iff]
      rcases passes_or_lacks_or_blocks tree here name with hpasses | hlacks | hblocks
      · have hthere := hpasses.grounded hground
        have hnofile : ∀ text, tree.get? (here.follow name) ≠ some (.file text) := by
          intro text hfile
          cases hthere.self.symm.trans hfile
        rw [makeDirectoriesFrom_of_passes hpasses, ih tree made _ hthere]
        exact ⟨fun hclear => ⟨fun hleads => (hpasses hleads).1, hnofile, hclear⟩, fun h => h.2.2⟩
      · -- the rest is made in a tree with one directory more, where the same files are in the way
        obtain ⟨hleads, hname, hnone⟩ := hlacks
        rw [makeDirectoriesFrom_of_lacks ⟨hleads, hname, hnone⟩,
          ih _ true _ (Lacks.grounded ⟨hleads, hname, hnone⟩ hground),
          (changes_set_directory hnone).clearFrom_iff]
        have hnofile : ∀ text, tree.get? (here.follow name) ≠ some (.file text) := by
          intro text hfile
          cases hnone.symm.trans hfile
        exact ⟨fun hclear => ⟨fun _ => hname, hnofile, hclear⟩, fun h => h.2.2⟩
      · obtain ⟨fault, hfault⟩ := makeDirectoriesFrom_of_blocks hblocks made rest
        rw [hfault]
        refine ⟨nofun, ?_⟩
        rintro ⟨hname, hnofile, -⟩
        obtain ⟨text, hfile⟩ := hblocks.2 (hname hblocks.1)
        exact absurd hfile (hnofile text)

/-- **Behind a way that was made** all its places are directories. -/
theorem get?_of_makeDirectoriesFrom {names : List String} {tree : FileTree} {made : Bool} {here : Place}
    (hground : tree.Grounded here) (hok : (tree.makeDirectoriesFrom made here names).2 = .ok ()) :
    ∀ q ∈ placesFrom here names,
      (tree.makeDirectoriesFrom made here names).1.get? q = some .directory := by
  induction names generalizing tree made here with
  | nil => exact fun _ hq => nomatch hq
  | cons name rest ih =>
      rw [placesFrom, List.forall_mem_cons]
      rcases passes_or_lacks_or_blocks tree here name with hpasses | hlacks | hblocks
      · -- whatever is made behind this place, it stays a directory
        rw [makeDirectoriesFrom_of_passes hpasses] at hok ⊢
        have hthere := hpasses.grounded hground
        exact ⟨keepsDirectories_makeDirectoriesFrom rest _ made _ _ hthere.self, ih hthere hok⟩
      · rw [makeDirectoriesFrom_of_lacks hlacks] at hok ⊢
        have hthere := hlacks.grounded hground
        exact ⟨keepsDirectories_makeDirectoriesFrom rest _ true _ _ hthere.self, ih hthere hok⟩
      · obtain ⟨fault, hfault⟩ := makeDirectoriesFrom_of_blocks hblocks made rest
        rw [hfault] at hok
        cases hok

/-- A way whose places are directories is passed, and nothing is made. -/
theorem makeDirectoriesFrom_of_directories (made : Bool)
    (hnames : ∀ name ∈ names, leadsAnywhere name = false → checkName name = .ok ())
    (hplaces : ∀ q ∈ placesFrom here names, tree.get? q = some .directory) :
    tree.makeDirectoriesFrom made here names = (tree, .ok ()) := by
  induction names generalizing here with
  | nil => rfl
  | cons name rest ih =>
      rw [placesFrom, List.forall_mem_cons] at hplaces
      rw [List.forall_mem_cons] at hnames
      have hpasses : tree.Passes here name := fun hleads => ⟨hnames.1 hleads, hplaces.1⟩
      rw [makeDirectoriesFrom_of_passes hpasses, ih hnames.2 hplaces.2]

/-- **Made again**, directories stay as they are, whether all of them could be made or not. -/
theorem makeDirectoriesFrom_again (names : List String) (tree : FileTree) (made made' : Bool)
    (here : Place) :
    ((tree.makeDirectoriesFrom made here names).1.makeDirectoriesFrom made' here names).1 =
      (tree.makeDirectoriesFrom made here names).1 := by
  induction names generalizing tree made here with
  | nil => rfl
  | cons name rest ih =>
      rcases passes_or_lacks_or_blocks tree here name with hpasses | hlacks | hblocks
      · have hkept := keepsDirectories_makeDirectoriesFrom rest tree made (here.follow name)
        rw [makeDirectoriesFrom_of_passes hpasses, makeDirectoriesFrom_of_passes (hpasses.mono hkept)]
        exact ih tree made _
      · -- the directory that was made is found there
        obtain ⟨hleads, hname, hnone⟩ := hlacks
        have hmade := keepsDirectories_makeDirectoriesFrom rest _ true (here.follow name) _
          (get?_set_directory hnone)
        rw [makeDirectoriesFrom_of_lacks ⟨hleads, hname, hnone⟩,
          makeDirectoriesFrom_of_passes fun _ => ⟨hname, hmade⟩]
        exact ih _ true _
      · obtain ⟨fault, hfault⟩ := makeDirectoriesFrom_of_blocks hblocks made rest
        obtain ⟨fault', hfault'⟩ := makeDirectoriesFrom_of_blocks hblocks made' rest
        rw [hfault, hfault']

/-! ## Parents -/

variable {p : FilePath}

/-- **The way above a path is clear**: the path of the directories is one that can be looked at, and the
    directories can be made. -/
structure ClearAbove (tree : FileTree) (p : FilePath) : Prop where
  fits : p.parents.isEmpty = false → checkPath p.parents p.parentSize = .ok ()
  way : tree.ClearFrom .working p.parents

theorem makeParents_eq_ok_iff : (tree.makeParents p).2 = .ok () ↔ tree.ClearAbove p := by
  have hway := makeDirectoriesFrom_eq_ok_iff p.parents tree false .working (grounded_working tree)
  rw [makeParents]
  split
  next hempty =>
    rw [List.isEmpty_iff] at hempty
    rw [hempty] at hway
    refine ⟨fun _ => ⟨fun hsome => ?_, hempty ▸ hway.mp rfl⟩, fun _ => rfl⟩
    rw [hempty] at hsome
    cases hsome
  next hsome =>
    have hsome := Bool.eq_false_iff.mpr hsome
    split
    next fault hfault =>
      constructor
      · intro hok
        cases hok
      · intro hclear
        cases hfault.symm.trans (hclear.fits hsome)
    next hfits =>
      exact ⟨fun hok => ⟨fun _ => hfits, hway.mp hok⟩, fun hclear => hway.mpr hclear.way⟩

/-- **Behind parents that were made** all of them are directories. -/
theorem get?_of_makeParents (hok : (tree.makeParents p).2 = .ok ()) :
    ∀ q ∈ p.parentPlaces, (tree.makeParents p).1.get? q = some .directory := by
  rw [makeParents] at hok ⊢
  rw [FilePath.parentPlaces]
  split at hok
  next hempty =>
    rw [List.isEmpty_iff.mp hempty]
    exact List.forall_mem_nil _
  next hsome =>
    rw [if_neg hsome]
    split at hok
    next => cases hok
    next => exact get?_of_makeDirectoriesFrom (grounded_working tree) hok

/-- Parents that are directories are passed. -/
theorem makeParents_of_directories (hclear : tree.ClearAbove p)
    (hplaces : ∀ q ∈ p.parentPlaces, tree'.get? q = some .directory) :
    tree'.makeParents p = (tree', .ok ()) := by
  rw [makeParents]
  split
  next => rfl
  next hsome =>
    rw [hclear.fits (Bool.eq_false_iff.mpr hsome)]
    exact makeDirectoriesFrom_of_directories false hclear.way.spelled hplaces

/-- **Made again**, the parents of a path stay as they are. -/
theorem makeParents_again (tree : FileTree) (p : FilePath) :
    ((tree.makeParents p).1.makeParents p).1 = (tree.makeParents p).1 ∧
      (((tree.makeParents p).1.makeParents p).2 = .ok () ↔ (tree.makeParents p).2 = .ok ()) := by
  constructor
  · rw [makeParents]
    split
    next hempty => rw [makeParents, if_pos hempty]
    next hsome =>
      split
      next fault hfault => rw [makeParents, if_neg hsome, hfault]
      next hfits =>
        rw [makeParents, if_neg hsome, hfits]
        exact makeDirectoriesFrom_again p.parents tree false false .working
  · have hchanges : Changes (fun _ => False) tree (tree.makeParents p).1 := changes_makeParents tree p
    rw [makeParents_eq_ok_iff, makeParents_eq_ok_iff]
    exact ⟨fun h => ⟨h.fits, hchanges.clearFrom_iff.mp h.way⟩,
      fun h => ⟨h.fits, hchanges.clearFrom_iff.mpr h.way⟩⟩

end FileTree

end StimulusBench
