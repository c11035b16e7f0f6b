import StimulusBench.Proofs.FileTree.Directories

/-!
# `StimulusBench.Proofs.FileTree.Writing` — where a file can be written, and that twice is once

A file is written in two goes: the missing directories above it are made, and then it is opened where its
path leads. Nothing can prevent that but the path itself, a file on the way to it, or a directory in its
place, and none of these goes away by the attempt. So whoever writes the same file again finds everything
made already, or is stopped where the first attempt was.

## Contents
- **Paths.** `FilePath.parents_ofText`: the parents of a path are the names above its last one.
- **Admission.** `FileTree.Admits` decides whether a file can be written: `write_eq_ok_iff`.
- **Attempts.** `SameOrMade`: what any attempt leaves as it was; and `write_again`.
-/

namespace StimulusBench

/-! ## Paths -/

namespace FilePath

/-- Names without those behind the first that stay where they are. -/
def withoutDots : List String → List String
  | [] => []
  | first :: rest => first :: rest.filter (· ≠ ".")

theorem map_above {names : List PathName} {last : String}
    (hlast : (names.map (·.1)).getLast? = some last) (hdot : last ≠ ".") :
    (above names).map (·.1) = withoutDots (names.map (·.1)).dropLast := by
  rw [List.getLast?_map, Option.map_eq_some_iff] at hlast
  obtain ⟨⟨last', offset⟩, hlast, rfl⟩ := hlast
  obtain ⟨front, rfl⟩ := List.getLast?_eq_some_iff.mp hlast
  cases front with
  | nil => rfl
  | cons first front =>
      have hfilter : (front ++ [(last', offset)]).filter (·.1 ≠ ".") =
          front.filter (·.1 ≠ ".") ++ [(last', offset)] := by
        simp [List.filter_append, show last' ≠ "." from hdot]
      rw [List.cons_append, above, hfilter, ← List.cons_append, List.dropLast_concat, ← List.cons_append,
        List.map_append, List.map_singleton, List.dropLast_concat, List.map_cons, List.map_cons,
        withoutDots, List.filter_map]
      rfl

/-- **The parents of a path** to a file are the names above the last one, but for those that stay where they
    are. -/
theorem parents_ofText {text last : String} (hlast : (ofText text).names.getLast? = some last)
    (hfile : leadsAnywhere last = false) :
    (ofText text).parents = withoutDots (ofText text).names.dropLast :=
  map_above hlast fun hdot => by rw [hdot] at hfile; cases hfile

end FilePath

namespace FileTree

open FilePath (placesFrom)

variable [WorkingDirectory]
variable {tree tree' : FileTree} {here q : Place} {path text : String} {names : List String}

/-! ## Admission -/

/-- **A path that a file can be written to**: it can be looked at and ends with the name of a file, nothing
    is in the way of the directories above it, and no directory is where it leads, or would be once those
    above it are made. -/
structure Admits (tree : FileTree) (path : FilePath) : Prop where
  fits : checkPath path.names path.size = .ok ()
  last : ∃ last, path.names.getLast? = some last ∧ leadsAnywhere last = false ∧ checkName last = .ok ()
  trailing : path.trailing = false
  above : tree.ClearAbove path
  free : tree.get? path.destination ≠ some .directory
  apart : path.destination ∉ path.parentPlaces

omit [WorkingDirectory] in
/-- Names without those that stay where they are. -/
theorem mem_placesFrom_of_filter (h : q ∈ placesFrom here names) :
    q = here ∨ q ∈ placesFrom here (names.filter (· ≠ ".")) := by
  induction names generalizing here with
  | nil => exact .inr h
  | cons name rest ih =>
      rw [placesFrom, List.mem_cons] at h
      by_cases hdot : name = "."
      · have hstays : here.follow name = here := by rw [Place.follow, if_pos hdot]
        rw [hstays] at h
        rw [List.filter_cons_of_neg (by simpa using hdot)]
        exact h.elim .inl ih
      · rw [List.filter_cons_of_pos (by simpa using hdot), placesFrom, List.mem_cons]
        rcases h with hself | hrest
        · exact .inr (.inl hself)
        · exact .inr (ih hrest)

/-- A walk through directories ends where its names lead. -/
theorem resolveDirectory_of_places
    (hnames : ∀ name ∈ names, leadsAnywhere name = false → checkName name = .ok ())
    (hplaces : ∀ q ∈ placesFrom here names, tree.get? q = some .directory) :
    tree.resolveDirectory here names = .ok (names.foldl Place.follow here) := by
  induction names generalizing here with
  | nil => rfl
  | cons name rest ih =>
      rw [placesFrom, List.forall_mem_cons] at hplaces
      rw [List.forall_mem_cons] at hnames
      exact resolveDirectory_cons_eq_ok_iff.mpr
        ⟨fun hleads => ⟨hnames.1 hleads, hplaces.1⟩, ih hnames.2 hplaces.2⟩

/-- Behind the parents of a path all places that it leads through are directories. -/
theorem forall_mem_placesFrom_of_withoutDots
    (hplaces : ∀ q ∈ placesFrom .working (FilePath.withoutDots names), tree.get? q = some .directory) :
    ∀ q ∈ placesFrom .working names, tree.get? q = some .directory := by
  cases names with
  | nil => exact hplaces
  | cons first rest =>
      rw [FilePath.withoutDots, placesFrom, List.forall_mem_cons] at hplaces
      rw [placesFrom, List.forall_mem_cons]
      refine ⟨hplaces.1, fun q hq => ?_⟩
      rcases mem_placesFrom_of_filter hq with rfl | hq
      · exact hplaces.1
      · exact hplaces.2 q hq

omit [WorkingDirectory] in
theorem forall_mem_of_withoutDots
    (hnames : ∀ name ∈ FilePath.withoutDots names, leadsAnywhere name = false → checkName name = .ok ()) :
    ∀ name ∈ names, leadsAnywhere name = false → checkName name = .ok () := by
  cases names with
  | nil => exact hnames
  | cons first rest =>
      rw [FilePath.withoutDots, List.forall_mem_cons] at hnames
      refine List.forall_mem_cons.mpr ⟨hnames.1, fun name hname hleads => ?_⟩
      have hdot : name ≠ "." := fun hdot => by rw [hdot] at hleads; cases hleads
      exact hnames.2 name (List.mem_filter.mpr ⟨hname, decide_eq_true hdot⟩) hleads

/-- A path that admits a file leads to it once the directories above it are there. -/
theorem Admits.resolveLast (h : tree.Admits (.ofText path))
    (hplaces : ∀ q ∈ (FilePath.ofText path).parentPlaces, tree'.get? q = some .directory) :
    tree'.resolveLast (.ofText path) = .ok (some (FilePath.ofText path).destination) := by
  obtain ⟨last, hlast, hfile, hname⟩ := h.last
  have hparents := FilePath.parents_ofText hlast hfile
  have hspelled := h.above.way.spelled
  rw [FilePath.parentPlaces] at hplaces
  rw [hparents] at hplaces hspelled
  have hwalk := resolveDirectory_of_places (forall_mem_of_withoutDots hspelled)
    (forall_mem_placesFrom_of_withoutDots hplaces)
  refine resolveLast_eq_ok_some_iff.mpr ⟨h.fits, last, _, hlast, hwalk, hfile, hname, ?_⟩
  obtain ⟨front, hfront⟩ := List.getLast?_eq_some_iff.mp hlast
  rw [FilePath.destination, hfront, List.dropLast_concat, List.foldl_append, List.foldl_cons,
    List.foldl_nil, follow_eq_child hfile]

/-- Such a path can be opened, unless a directory is where it leads. -/
theorem Admits.writable (h : tree.Admits (.ofText path))
    (hplaces : ∀ q ∈ (FilePath.ofText path).parentPlaces, tree'.get? q = some .directory)
    (hfree : tree'.get? (FilePath.ofText path).destination ≠ some .directory) :
    tree'.writable (.ofText path) = .ok (FilePath.ofText path).destination :=
  writable_eq_ok_iff.mpr ⟨h.resolveLast hplaces, h.trailing, hfree⟩

/-- **A file that was written** is set behind the directories above it. -/
theorem write_eq_iff :
    tree.write path text = (tree', .ok ()) ↔
      ∃ made, tree.makeParents (.ofText path) = (made, .ok ()) ∧
        made.writable (.ofText path) = .ok (FilePath.ofText path).destination ∧
        tree' = made.set (FilePath.ofText path).destination (.file text) := by
  rw [write]
  constructor
  · intro h
    cases hopen : tree.openWith path fun _ => text with
    | mk opened outcome =>
        rw [hopen] at h
        cases outcome with
        | error fault => cases h
        | ok place =>
            cases h
            obtain ⟨made, hmade, hplace, hset⟩ := openWith_eq_ok_iff.mp hopen
            rw [eq_destination_of_openWith hopen] at hplace hset
            exact ⟨made, hmade, hplace, hset⟩
  · intro h
    rw [openWith_eq_ok_iff.mpr h]
    rfl

/-- **A path admits a file** exactly if one can be written there. -/
theorem write_eq_ok_iff : (tree.write path text).2 = .ok () ↔ tree.Admits (.ofText path) := by
  have hparents : Changes (fun _ => False) tree (tree.makeParents (.ofText path)).1 :=
    changes_makeParents tree _
  constructor
  · intro hok
    obtain ⟨made, hmade, hplace, -⟩ := write_eq_iff.mp (Prod.ext rfl hok)
    obtain ⟨hlast, htrailing, hfree⟩ := writable_eq_ok_iff.mp hplace
    obtain ⟨hfits, last, above, hnames, -, hfile, hname, -⟩ := resolveLast_eq_ok_some_iff.mp hlast
    have habove : (tree.makeParents (.ofText path)).2 = .ok () := by rw [hmade]
    have hplaces := get?_of_makeParents habove
    rw [hmade] at hparents hplaces
    -- the file was opened behind its parents: a directory in its place was there before, or is one of them
    exact {
      fits := hfits
      last := ⟨last, hnames, hfile, hname⟩
      trailing := htrailing
      above := makeParents_eq_ok_iff.mp habove
      free := fun hdirectory => hfree (hparents.directories _ hdirectory)
      apart := fun hmem => hfree (hplaces _ hmem) }
  · intro h
    have habove := makeParents_eq_ok_iff.mpr h.above
    have hfree : (tree.makeParents (.ofText path)).1.get? (FilePath.ofText path).destination ≠
        some .directory := by
      rw [get?_makeParents_of_not_mem h.apart]
      exact h.free
    have hplace := h.writable (get?_of_makeParents habove) hfree
    rw [write_eq_iff.mpr ⟨_, Prod.ext rfl habove, hplace, rfl⟩]

/-- Whether a file is opened does not depend on what is done to it. -/
theorem openWith_snd (tree : FileTree) (path : String) (change change' : Option String → String) :
    (tree.openWith path change).2 = (tree.openWith path change').2 := by
  unfold openWith
  dsimp only
  split
  · rfl
  · split <;> rfl

/-- **A path admits a file** exactly if one can be opened there to be appended to. -/
theorem exists_prepare_iff : (∃ place, (tree.prepare path).2 = .ok place) ↔ tree.Admits (.ofText path) := by
  have hwrite : (tree.write path "").2 = .ok () ↔ tree.Admits (.ofText path) := write_eq_ok_iff
  rw [← hwrite, prepare, openWith_snd tree path _ fun _ => ""]
  show _ ↔ (tree.openWith path fun _ => "").2.map (fun _ => ()) = .ok ()
  cases (tree.openWith path fun _ => "").2 with
  | ok place => exact ⟨fun _ => rfl, fun _ => ⟨place, rfl⟩⟩
  | error fault => exact ⟨fun ⟨_, h⟩ => (nomatch h), fun h => (nomatch h)⟩

omit [WorkingDirectory] in
theorem setEntry_of_lookup {place : Place} {entry : FileEntry} {entries : List (Place × FileEntry)}
    (h : entries.lookup place = some entry) : setEntry place entry entries = entries := by
  induction entries with
  | nil => cases h
  | cons e rest ih =>
      obtain ⟨place', entry'⟩ := e
      rw [List.lookup_cons] at h
      rw [setEntry]
      split
      next heq =>
        subst heq
        rw [beq_self_eq_true] at h
        cases h
        rfl
      next hne =>
        rw [beq_eq_false_iff_ne.mpr fun heq => hne heq.symm] at h
        rw [ih h]

/-- A file set to what it holds is no change. -/
theorem set_of_get? (h : tree.get? q = some (.file text)) : tree.set q (.file text) = tree := by
  have habove : q.isAbove = false := isAbove_eq_false (by rw [h]; exact nofun)
  rw [get?, habove, if_neg Bool.false_ne_true] at h
  rw [set, setEntry_of_lookup h]

/-! ## Attempts -/

/-- **Where no file can be written**, the attempt makes what directories it can, and that is all. -/
theorem write_fst_of_not_admits (h : ¬ tree.Admits (.ofText path)) (text : String) :
    (tree.write path text).1 = (tree.makeParents (.ofText path)).1 := by
  have hfails : (tree.write path text).2 ≠ .ok () := fun hok => h (write_eq_ok_iff.mp hok)
  unfold write openWith at hfails ⊢
  dsimp only at hfails ⊢
  split at hfails
  next hmade => rw [hmade]
  next made hmade =>
    rw [hmade]
    split at hfails
    next => rfl
    next => exact absurd rfl hfails

/-- **A place as it was**, but that a directory may have been made there where nothing stood, if the place
    is above a path. -/
def SameOrMade (tree tree' : FileTree) (p : FilePath) (q : Place) : Prop :=
  tree'.get? q = tree.get? q ∨
    q ∈ p.parentPlaces ∧ tree.get? q = none ∧ tree'.get? q = some .directory

theorem sameOrMade_makeParents (tree : FileTree) (p : FilePath) (q : Place) :
    tree.SameOrMade (tree.makeParents p).1 p q := by
  by_cases hq : q ∈ p.parentPlaces
  · have hparents : Changes (fun _ => False) tree (tree.makeParents p).1 := changes_makeParents tree p
    rcases hparents.elsewhere q id with hsame | hmade
    · exact .inl hsame
    · exact .inr ⟨hq, hmade⟩
  · exact .inl (get?_makeParents_of_not_mem hq)

/-- **Away from the file** that is written, and everywhere if none is, each place is as it was but for the
    directories made above the path. -/
theorem sameOrMade_write
    (hq : (tree.write path text).2 = .ok () → q ≠ (FilePath.ofText path).destination) :
    tree.SameOrMade (tree.write path text).1 (.ofText path) q := by
  have hparents := sameOrMade_makeParents tree (.ofText path) q
  by_cases h : tree.Admits (.ofText path)
  · have hok : (tree.write path text).2 = .ok () := write_eq_ok_iff.mpr h
    obtain ⟨made, hmade, -, hset⟩ := write_eq_iff.mp (Prod.ext rfl hok)
    have hsame : (made.set (FilePath.ofText path).destination (.file text)).get? q = made.get? q :=
      get?_set_of_ne (hq hok) _
    rw [← hset] at hsame
    rw [hmade] at hparents
    rw [SameOrMade, hsame]
    exact hparents
  · rw [write_fst_of_not_admits h]
    exact hparents

/-- Directories that are made in vain do not help a file. -/
theorem Admits.of_makeParents (h : (tree.makeParents (.ofText path)).1.Admits (.ofText path)) :
    tree.Admits (.ofText path) := by
  have hparents : Changes (fun _ => False) tree (tree.makeParents (.ofText path)).1 :=
    changes_makeParents tree _
  exact { h with
    above := makeParents_eq_ok_iff.mp ((makeParents_again tree _).2.mp (makeParents_eq_ok_iff.mpr h.above))
    free := fun hdirectory => h.free (hparents.directories _ hdirectory) }

/-- **Behind a file that was written** the directories above it are there. -/
theorem get?_of_write (hok : (tree.write path text).2 = .ok ()) :
    ∀ q ∈ (FilePath.ofText path).parentPlaces, (tree.write path text).1.get? q = some .directory := by
  intro q hq
  obtain ⟨made, hmade, hplace, hset⟩ := write_eq_iff.mp (Prod.ext rfl hok)
  obtain ⟨-, -, hfree⟩ := writable_eq_ok_iff.mp hplace
  have hkept := (changes_set_file hfree text).directories q
  have habove : (tree.makeParents (.ofText path)).2 = .ok () := by rw [hmade]
  have hparents := get?_of_makeParents habove q hq
  rw [← hset] at hkept
  rw [hmade] at hparents
  exact hkept hparents

/-- **Writing twice is writing once**: the second time nothing changes, and it succeeds exactly if the first
    did. -/
theorem write_again (tree : FileTree) (path text : String) :
    ((tree.write path text).1.write path text).1 = (tree.write path text).1 ∧
      (((tree.write path text).1.write path text).2 = .ok () ↔ (tree.write path text).2 = .ok ()) := by
  by_cases h : tree.Admits (.ofText path)
  · have hok : (tree.write path text).2 = .ok () := write_eq_ok_iff.mpr h
    have hfile := (write_eq_ok (Prod.ext rfl hok)).1
    have hplaces := get?_of_write hok
    have hwritable := h.writable hplaces (by rw [hfile]; exact nofun)
    -- the file that is found has the text already, so that setting it changes nothing
    have hagain : (tree.write path text).1.write path text = ((tree.write path text).1, .ok ()) :=
      write_eq_iff.mpr ⟨_, makeParents_of_directories h.above hplaces, hwritable, (set_of_get? hfile).symm⟩
    rw [hagain, hok]
    exact ⟨rfl, Iff.rfl⟩
  · have hmade := write_fst_of_not_admits h text
    have hstill : ¬ (tree.makeParents (.ofText path)).1.Admits (.ofText path) :=
      fun hadmits => h hadmits.of_makeParents
    rw [hmade, write_fst_of_not_admits hstill, (makeParents_again tree _).1, write_eq_ok_iff,
      write_eq_ok_iff]
    exact ⟨rfl, fun hadmits => absurd hadmits hstill, fun hadmits => absurd hadmits h⟩

end FileTree

end StimulusBench
