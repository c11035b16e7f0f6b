import StimulusBench.Proofs.Config.Values
import StimulusBench.Proofs.Sequence.Corruption

/-!
# `StimulusBench.Proofs.Config` — what a configuration text settles

A document is read entry by entry, and each table in it key by key or position by position. Whatever is
read changes the setting of its own key and no other, so a key that the text leaves out keeps its default,
whichever tables and keys stand around it. Behind the reading the settings are checked in a fixed order, the
first fault is reported, and settings that pass are usable.

## Contents
- **Keys.** `Config.Key`, with its setting, its default and the nodes that give it one (`Key.Gives`);
  `Config.Table`.
- **Settling.** `Key.Settled`, closed under chains; `Config.follows_of_ofEntries`.
- **Checks.** `Config.FirstFault`; `Config.ofToml` taken apart.
-/

namespace StimulusBench.Config

open Toml (Node Entries)

/-! ## Keys -/

/-- The keys of a configuration. -/
inductive Key
  | logLevel
  | logFormat
  | logFile
  | correct
  | sentinel
  | seed
  | maxDraws
  | outputPath
  deriving DecidableEq

/-- The tables of a configuration. -/
inductive Table
  | general
  | sequence
  | generation
  | output
  deriving DecidableEq

namespace Key

/-- The name of a key in its table. -/
def name : Key → String
  | .logLevel => "log_level"
  | .logFormat => "log_format"
  | .logFile => "log_file"
  | .correct => "correct"
  | .sentinel => "sentinel"
  | .seed => "seed"
  | .maxDraws => "max_idempotent_draws"
  | .outputPath => "path"

/-- The table of a key. -/
def home : Key → Table
  | .logLevel => .general
  | .logFormat => .general
  | .logFile => .general
  | .correct => .sequence
  | .sentinel => .sequence
  | .seed => .generation
  | .maxDraws => .generation
  | .outputPath => .output

/-- The settings that a key can have. -/
def Setting : Key → Type
  | .logLevel => String
  | .logFormat => LogFormat
  | .logFile => Option String
  | .correct => Sequence
  | .sentinel => Value
  | .seed => Option UInt64
  | .maxDraws => Nat
  | .outputPath => String

/-- The setting of a key in a configuration. -/
def setting : (key : Key) → Config → key.Setting
  | .logLevel, c => c.log.level
  | .logFormat, c => c.log.format
  | .logFile, c => c.log.file
  | .correct, c => c.correct
  | .sentinel, c => c.sentinel
  | .seed, c => c.seed
  | .maxDraws, c => c.maxDraws
  | .outputPath, c => c.outputPath

/-- The setting of a key that is left out, as it is documented. -/
def documented : (key : Key) → key.Setting
  | .logLevel => "info"
  | .logFormat => LogFormat.pretty
  | .logFile => (none : Option String)
  | .correct => (#[36, 19, 56, 101, 73] : Array Value).toVector
  | .sentinel => (255 : UInt8)
  | .seed => (none : Option UInt64)
  | .maxDraws => (10 : Nat)
  | .outputPath => "output.yaml"

/-- The configuration with one setting in place of that of a key. -/
def put : (key : Key) → key.Setting → Config → Config
  | .logLevel, v, c => { c with log := { c.log with level := v } }
  | .logFormat, v, c => { c with log := { c.log with format := v } }
  | .logFile, v, c => { c with log := { c.log with file := v } }
  | .correct, v, c => { c with correct := v }
  | .sentinel, v, c => { c with sentinel := v }
  | .seed, v, c => { c with seed := v }
  | .maxDraws, v, c => { c with maxDraws := v }
  | .outputPath, v, c => { c with outputPath := v }

/-- The setting that a value gives to a key. -/
def read : (key : Key) → Node → Except TypeFault key.Setting
  | .logLevel, node => readText "a string" node
  | .logFormat, node => readFormat node
  | .logFile, node => do return some (← readPath node)
  | .correct, node => readSequence node
  | .sentinel, node => readByte node
  | .seed, node => do return some (UInt64.ofNat (← readNatural (1 <<< 64) "u64" node))
  | .maxDraws, node => readNatural (1 <<< 64) "usize" node
  | .outputPath, node => readPath node

/-- **The setting that a value gives to a key**, as it can be seen from the value. -/
def Gives : (key : Key) → Node → key.Setting → Prop
  | .logLevel, node, level => IsText node level
  | .logFormat, node, format => IsFormat node format
  | .logFile, node, file => ∃ path, IsText node path ∧ file = some path
  | .correct, node, values => IsSequence node values
  | .sentinel, node, value => IsInteger node (UInt8.toNat value)
  | .seed, node, given => ∃ n : UInt64, IsInteger node n.toNat ∧ given = some n
  | .maxDraws, node, draws => Nat.lt draws (1 <<< 64) ∧ IsInteger node draws
  | .outputPath, node, path => IsText node path

variable {key other : Key} {c : Config}

/-- **The reader of a key** finds the setting that a value gives it, and none where it gives none. -/
theorem read_eq_ok_iff {node : Node} {v : key.Setting} : key.read node = .ok v ↔ key.Gives node v := by
  cases key with
  | logLevel => exact readText_eq_ok_iff
  | logFormat => exact readFormat_eq_ok_iff
  | logFile =>
      refine bind_eq_ok_iff.trans ?_
      constructor
      · rintro ⟨path, hpath, h⟩
        cases h
        exact ⟨path, readText_eq_ok_iff.mp hpath, rfl⟩
      · rintro ⟨path, hpath, rfl⟩
        exact ⟨path, readText_eq_ok_iff.mpr hpath, rfl⟩
  | correct => exact readSequence_eq_ok_iff
  | sentinel => exact readByte_eq_ok_iff
  | seed =>
      refine bind_eq_ok_iff.trans ?_
      constructor
      · rintro ⟨n, hn, h⟩
        cases h
        obtain ⟨hbound, hnode⟩ := readNatural_eq_ok_iff.mp hn
        exact ⟨UInt64.ofNat n, by rwa [UInt64.toNat_ofNat_of_lt' hbound], rfl⟩
      · rintro ⟨n, hnode, rfl⟩
        exact ⟨n.toNat, readNatural_eq_ok_iff.mpr ⟨n.toNat_lt, hnode⟩, by rw [UInt64.ofNat_toNat]; rfl⟩
  | maxDraws => exact readNatural_eq_ok_iff
  | outputPath => exact readText_eq_ok_iff

theorem setting_put_self (v : key.Setting) : key.setting (key.put v c) = v := by
  cases key <;> rfl

theorem setting_put_of_ne (hne : key ≠ other) (v : other.Setting) :
    key.setting (other.put v c) = key.setting c := by
  cases other <;> cases key <;> first | rfl | exact absurd rfl hne

theorem setting_default (key : Key) : key.setting Config.default = key.documented := by
  cases key <;> rfl

/-- No two keys have the same name. -/
theorem eq_of_name (h : key.name = other.name) : key = other := by
  revert h
  cases key <;> cases other <;> decide

/-- The field of a key. -/
def field (key : Key) : Field := ⟨key.name, fun c node => do return key.put (← key.read node) c⟩

end Key

namespace Table

/-- The name of a table. -/
def name : Table → String
  | .general => "general"
  | .sequence => "sequence"
  | .generation => "generation"
  | .output => "output"

/-- The keys of a table, in the order in which a list gives their values. -/
def keys : Table → List Key
  | .general => [.logLevel, .logFormat, .logFile]
  | .sequence => [.correct, .sentinel]
  | .generation => [.seed, .maxDraws]
  | .output => [.outputPath]

/-- What a message calls a table. -/
def expected : Table → String
  | .general => "struct GeneralConfig"
  | .sequence => "struct SequenceConfig"
  | .generation => "struct GenerationConfig"
  | .output => "struct OutputConfig"

/-- The field of a table. -/
def field (table : Table) : Field := ⟨table.name, readTable table.expected (table.keys.map Key.field)⟩

theorem eq_of_name {table other : Table} (h : table.name = other.name) : table = other := by
  revert h
  cases table <;> cases other <;> decide

theorem home_of_mem_keys {table : Table} {key : Key} (h : key ∈ table.keys) : key.home = table := by
  revert h
  cases table <;> cases key <;> decide

theorem mem_keys_home (key : Key) : key ∈ key.home.keys := by
  cases key <;> decide

end Table

/-! ## Reading -/

/-- The tables of a configuration, read by their keys. -/
theorem tableFields_eq :
    tableFields = [Table.general, .sequence, .generation, .output].map Table.field := by
  have hgeneral : generalFields = Table.general.keys.map Key.field := by
    have hfile : (fun (c : Config) (node : Node) => do
        return { c with log := { c.log with file := some (← readPath node) } }) = Key.logFile.field.read := by
      funext c node
      show _ = ((readPath node >>= fun path => pure (some path)) >>= fun v => pure (Key.logFile.put v c))
      cases readPath node <;> rfl
    rw [generalFields, hfile]
    rfl
  have hgeneration : generationFields = Table.generation.keys.map Key.field := by
    have hseed : (fun (c : Config) (node : Node) => do
        return { c with seed := some (UInt64.ofNat (← readNatural (1 <<< 64) "u64" node)) }) =
          Key.seed.field.read := by
      funext c node
      show _ = ((readNatural (1 <<< 64) "u64" node >>= fun n => pure (some (UInt64.ofNat n))) >>=
        fun v => pure (Key.seed.put v c))
      cases readNatural (1 <<< 64) "u64" node <;> rfl
    rw [generationFields, hseed]
    rfl
  rw [tableFields, hgeneral, hgeneration]
  rfl

variable {key : Key} {c c' c'' found : Config} {node : Node} {given given' : Node → Prop}

/-- **A key is settled by the values given for it**: its setting is that of one of them, or it is as it was
    if there is none. -/
def Key.Settled (key : Key) (given : Node → Prop) (c c' : Config) : Prop :=
  (∃ node, given node ∧ key.read node = .ok (key.setting c')) ∨
    (∀ node, ¬ given node) ∧ key.setting c' = key.setting c

theorem Key.Settled.of_same (hnone : ∀ node, ¬ given node) (hsame : key.setting c' = key.setting c) :
    key.Settled given c c' := .inr ⟨hnone, hsame⟩

/-- What is given later counts. -/
theorem Key.Settled.trans (h : key.Settled given c c') (h' : key.Settled given' c' c'') :
    key.Settled (fun node => given node ∨ given' node) c c'' := by
  rcases h' with ⟨node, hnode, hread⟩ | ⟨hnone', hsame'⟩
  · exact .inl ⟨node, .inr hnode, hread⟩
  · rw [Settled, ← hsame'] at h
    rcases h with ⟨node, hnode, hread⟩ | ⟨hnone, hsame⟩
    · exact .inl ⟨node, .inl hnode, hread⟩
    · exact .inr ⟨fun node hnode => hnode.elim (hnone node) (hnone' node), hsame⟩

theorem Key.Settled.congr (h : key.Settled given c c') (heq : ∀ node, given node ↔ given' node) :
    key.Settled given' c c' := by
  rwa [show given' = given from funext fun node => propext (heq node).symm]

/-- **A chain of steps** settles a key by what is given to any of them. -/
theorem Key.settled_foldlM {α : Type} {step : Config → α → Except TypeFault Config}
    {given : α → Node → Prop} {items : List α}
    (hstep : ∀ a c c', step c a = .ok c' → key.Settled (given a) c c')
    (h : items.foldlM step c = .ok c') : key.Settled (fun node => ∃ a ∈ items, given a node) c c' := by
  induction items generalizing c with
  | nil =>
      cases h
      exact .of_same (fun _ ⟨_, hnone, _⟩ => nomatch hnone) rfl
  | cons a rest ih =>
      rw [List.foldlM_cons] at h
      obtain ⟨c₁, hfirst, hrest⟩ := bind_eq_ok_iff.mp h
      -- the rest settles the key once more, or leaves it as the first step did
      refine ((hstep a c c₁ hfirst).trans (ih hrest)).congr fun node => ?_
      simp only [List.mem_cons, exists_eq_or_imp]

/-- A field settles its own key and no other. -/
theorem Key.settled_field {other : Key} (h : other.field.read c node = .ok c') :
    key.Settled (fun node' => other = key ∧ node' = node) c c' := by
  obtain ⟨v, hread, hput⟩ := bind_eq_ok_iff.mp h
  cases hput
  by_cases heq : other = key
  · subst heq
    refine .inl ⟨node, ⟨rfl, rfl⟩, ?_⟩
    rw [hread, setting_put_self]
  · exact .of_same (fun _ hgiven => heq hgiven.1) (setting_put_of_ne (Ne.symm heq) v)

theorem readEntry_eq_ok {fields : List Field} {entry : Toml.Key × Node}
    (h : readEntry fields c entry = .ok c') :
    (∃ field ∈ fields, field.name = entry.1.name ∧ field.read c entry.2 = .ok c') ∨
      (∀ field ∈ fields, field.name ≠ entry.1.name) ∧ c' = c := by
  rw [readEntry] at h
  split at h
  next field hfield =>
    refine .inl ⟨field, List.mem_of_find?_eq_some hfield, ?_, mapError_eq_ok_iff.mp h⟩
    simpa using List.find?_some hfield
  next hnone =>
    cases h
    refine .inr ⟨fun field hmem hname => ?_, rfl⟩
    simpa [hname] using List.find?_eq_none.mp hnone field hmem

/-- **A value under a key** in the value of its table: by its name, or by its position in a list. -/
def Key.Under (key : Key) (node : Node) : Node → Prop
  | .table _ _ entries => ∃ entry ∈ entries, entry.1.name = key.name ∧ node = entry.2
  | .array _ items => ∃ i : Nat, key.home.keys[i]? = some key ∧ items[i]? = some node
  | .tables _ items => ∃ i : Nat, key.home.keys[i]? = some key ∧ items[i]? = some node
  | _ => False

/-- An entry of a table settles the key with its name, if that is a key of the table. -/
theorem Key.settled_readEntry {table : Table} {entry : Toml.Key × Node}
    (h : readEntry (table.keys.map Key.field) c entry = .ok c') :
    key.Settled (fun node => table = key.home ∧ entry.1.name = key.name ∧ node = entry.2) c c' := by
  rcases readEntry_eq_ok h with ⟨field, hfield, hname, hread⟩ | ⟨hnone, rfl⟩
  · obtain ⟨other, hother, rfl⟩ := List.mem_map.mp hfield
    refine (settled_field hread).congr fun node => ⟨?_, ?_⟩
    · rintro ⟨rfl, rfl⟩
      exact ⟨(Table.home_of_mem_keys hother).symm, hname.symm, rfl⟩
    · rintro ⟨-, hkey, rfl⟩
      exact ⟨eq_of_name (hname.trans hkey), rfl⟩
  · -- a name that no field of the table has is passed over, and is not that of the key
    refine .of_same ?_ rfl
    rintro node ⟨rfl, hkey, -⟩
    exact hnone key.field (List.mem_map_of_mem (Table.mem_keys_home key)) hkey.symm

/-- A list settles the keys of a table by their positions. -/
theorem Key.settled_readPositions {keys : List Key} {items : List Node}
    (h : readPositions (keys.map Key.field) c items = .ok c') :
    key.Settled (fun node => ∃ i : Nat, keys[i]? = some key ∧ items[i]? = some node) c c' := by
  rw [readPositions, List.zip_map_left, List.foldlM_map] at h
  have hchain : key.Settled (fun node => ∃ pair ∈ keys.zip items, pair.1 = key ∧ node = pair.2) c c' :=
    settled_foldlM (fun pair c c' hpair => settled_field hpair) h
  refine hchain.congr fun node => ⟨?_, ?_⟩
  · rintro ⟨⟨other, node'⟩, hpair, rfl, rfl⟩
    obtain ⟨i, hi⟩ := List.mem_iff_getElem?.mp hpair
    exact ⟨i, List.getElem?_zip_eq_some.mp hi⟩
  · rintro ⟨i, hi⟩
    exact ⟨(key, node), List.mem_iff_getElem?.mpr ⟨i, List.getElem?_zip_eq_some.mpr hi⟩, rfl, rfl⟩

/-- **A table settles its keys** and no others. -/
theorem Key.settled_readTable {table : Table} {value : Node} (h : table.field.read c value = .ok c') :
    key.Settled (fun node => table = key.home ∧ key.Under node value) c c' := by
  have hlist : ∀ items, readPositions (table.keys.map Key.field) c items = .ok c' →
      key.Settled (fun node => table = key.home ∧
        ∃ i : Nat, key.home.keys[i]? = some key ∧ items[i]? = some node) c c' := by
    intro items hitems
    refine (settled_readPositions hitems).congr fun node => ⟨?_, ?_⟩
    · rintro ⟨i, hkey, hnode⟩
      obtain rfl := Table.home_of_mem_keys (List.mem_of_getElem? hkey)
      exact ⟨rfl, i, hkey, hnode⟩
    · rintro ⟨rfl, hi⟩
      exact hi
  cases value with
  | table form span entries =>
      refine (settled_foldlM (fun entry c c' hentry => settled_readEntry hentry) h).congr fun node => ?_
      exact ⟨fun ⟨entry, hentry, hhome, hrest⟩ => ⟨hhome, entry, hentry, hrest⟩,
        fun ⟨hhome, entry, hentry, hrest⟩ => ⟨entry, hentry, hhome, hrest⟩⟩
  | array span items => exact hlist items h
  | tables span items => exact hlist items h
  | dateTime span =>
      cases h
      exact .of_same (fun _ hgiven => hgiven.2) rfl
  | string | integer | float | boolean => cases h

/-- **A value that a document gives for a key**: one under the key in the value of its table. -/
def Key.In (key : Key) (entries : Entries) (node : Node) : Prop :=
  ∃ entry ∈ entries, entry.1.name = key.home.name ∧ key.Under node entry.2

/-- **A configuration follows a document**: a key has the setting that a value of the document gives for it,
    or its documented one if there is none. -/
structure Follows (entries : Entries) (c : Config) : Prop where
  given : ∀ key : Key, (∃ node, key.In entries node) →
    ∃ node, key.In entries node ∧ key.Gives node (key.setting c)
  absent : ∀ key : Key, (∀ node, ¬ key.In entries node) → key.setting c = key.documented

theorem follows_of_ofEntries {entries : Entries} (h : ofEntries entries = .ok c) : Follows entries c := by
  have hsettled : ∀ key : Key, key.Settled (key.In entries) Config.default c := by
    intro key
    rw [ofEntries, tableFields_eq] at h
    refine Key.settled_foldlM (fun entry c c' hentry => ?_) h
    rcases readEntry_eq_ok hentry with ⟨field, hfield, hname, hread⟩ | ⟨hnone, rfl⟩
    · obtain ⟨table, -, rfl⟩ := List.mem_map.mp hfield
      refine (Key.settled_readTable hread).congr fun node => and_congr_left fun _ => ⟨?_, ?_⟩
      · rintro rfl
        exact hname.symm
      · exact fun hhome => Table.eq_of_name (hname.trans hhome)
    · refine .of_same (fun node hgiven => ?_) rfl
      exact hnone key.home.field (List.mem_map_of_mem (by cases key.home <;> decide)) hgiven.1.symm
  constructor
  · rintro key ⟨node, hnode⟩
    obtain ⟨given, hgiven, hread⟩ := (hsettled key).resolve_right fun hnone => hnone.1 node hnode
    exact ⟨given, hgiven, Key.read_eq_ok_iff.mp hread⟩
  · intro key hnone
    rcases hsettled key with ⟨node, hnode, -⟩ | ⟨-, hsame⟩
    · exact absurd hnode (hnone node)
    · rw [hsame, Key.setting_default]

/-! ## Checks -/

/-- **The first fault of settings**: no fragments allowed, else no output path, else the first place of the
    sentinel in the accepted sequence. -/
inductive FirstFault (c : Config) : ConfigFault → Prop
  | noDraws (hdraws : c.maxDraws = 0) : FirstFault c (.invalid .noDraws)
  | noOutputPath (hdraws : c.maxDraws ≠ 0) (hpath : c.outputPath = "") :
      FirstFault c (.invalid .noOutputPath)
  | collision (position : Nat) (hdraws : c.maxDraws ≠ 0) (hpath : c.outputPath ≠ "")
      (hfirst : c.correct.toList[position]? = some c.sentinel)
      (hbefore : ∀ i < position, c.correct.toList[i]? ≠ some c.sentinel) :
      FirstFault c (.collision ⟨c.sentinel, position⟩)

/-- **The reference pair of a configuration** is the accepted sequence and the repeated sentinel value. -/
theorem references_eq_ok_iff {refs : References} :
    c.references = .ok refs ↔
      refs.correct = c.correct ∧ refs.sentinel = Vector.replicate sequenceLength c.sentinel := by
  rw [references, mapError_eq_ok_iff, References.ofValue, References.ofSequences_eq_ok_iff]

/-- There is none exactly if the sentinel value occurs in the accepted sequence. -/
theorem references_eq_error_iff {fault : ConfigFault} :
    c.references = .error fault ↔
      ∃ position, fault = .collision ⟨c.sentinel, position⟩ ∧
        c.correct.toList[position]? = some c.sentinel ∧
        ∀ i < position, c.correct.toList[i]? ≠ some c.sentinel := by
  have hcollision : ∀ collision : Collision,
      collision.IsFirst c.correct (Vector.replicate sequenceLength c.sentinel) ↔
        collision.value = c.sentinel ∧ c.correct.toList[collision.position]? = some collision.value ∧
          ∀ i < collision.position, c.correct.toList[i]? ≠ some collision.value := by
    -- all values of the second sequence are the sentinel, so its first common one is at the front
    refine fun collision => ⟨fun ⟨⟨before, after, hsplit, _⟩, hposition⟩ => ⟨?_, hposition⟩, ?_⟩
    · have hmem : collision.value ∈ (Vector.replicate sequenceLength c.sentinel).toList := by
        rw [hsplit]
        exact List.mem_append_right _ List.mem_cons_self
      rw [Vector.toList_replicate] at hmem
      exact List.eq_of_mem_replicate hmem
    · rintro ⟨hvalue, hposition⟩
      refine ⟨⟨[], List.replicate 4 c.sentinel, ?_, fun _ => (nomatch ·)⟩, hposition⟩
      rw [Vector.toList_replicate, hvalue]
      rfl
  rw [references, References.ofValue]
  constructor
  · intro h
    cases hpair : References.ofSequences c.correct (Vector.replicate sequenceLength c.sentinel) with
    | ok refs =>
        rw [hpair] at h
        cases h
    | error collision =>
        rw [hpair] at h
        cases h
        obtain ⟨hvalue, hposition⟩ := (hcollision collision).mp (References.ofSequences_eq_error_iff.mp hpair)
        rw [hvalue] at hposition
        exact ⟨collision.position, by rw [← hvalue], hposition⟩
  · rintro ⟨position, rfl, hposition⟩
    rw [References.ofSequences_eq_error_iff.mpr ((hcollision ⟨c.sentinel, position⟩).mpr ⟨rfl, hposition⟩)]
    rfl

/-- **Settings are refused** with their first fault. -/
theorem validated_eq_error_iff {fault : ConfigFault} : c.validated = .error fault ↔ FirstFault c fault := by
  unfold validated
  dsimp only
  constructor
  · intro h
    split at h
    next hdraws =>
      cases h
      exact .noDraws hdraws
    next hdraws =>
      split at h
      next hpath =>
        cases h
        exact .noOutputPath hdraws hpath
      next hpath =>
        cases hrefs : c.references with
        | ok refs =>
            rw [hrefs] at h
            cases h
        | error fault' =>
            rw [hrefs] at h
            cases h
            obtain ⟨position, rfl, hfirst, hbefore⟩ := references_eq_error_iff.mp hrefs
            exact .collision position hdraws hpath hfirst hbefore
  · rintro (hdraws | ⟨hdraws, hpath⟩ | ⟨position, hdraws, hpath, hfirst, hbefore⟩)
    · rw [if_pos hdraws]
      rfl
    · rw [if_neg hdraws, if_pos hpath]
      rfl
    · rw [if_neg hdraws, if_neg hpath, references_eq_error_iff.mpr ⟨position, rfl, hfirst, hbefore⟩]
      rfl

/-- Settings that are accepted stay as they are. -/
theorem eq_of_validated (h : found.validated = .ok c) : c = found := by
  unfold validated at h
  dsimp only at h
  split at h
  next => cases h
  next =>
    split at h
    next => cases h
    next =>
      obtain ⟨refs, -, hfound⟩ := bind_eq_ok_iff.mp h
      cases hfound
      rfl

/-- **Settings are accepted** exactly if they have no fault. -/
theorem validated_eq_ok_iff : c.validated = .ok c ↔ ∀ fault, ¬ FirstFault c fault := by
  simp only [← validated_eq_error_iff]
  constructor
  · intro h fault hfault
    cases h.symm.trans hfault
  · intro hnone
    cases h : c.validated with
    | error fault => exact absurd h (hnone fault)
    | ok c' => rw [eq_of_validated h]

/-- **Settings that can be used**: fragments are allowed, the output has a path, and the accepted sequence
    and the repeated sentinel value are a reference pair. -/
structure Usable (c : Config) : Prop where
  draws : 1 ≤ c.maxDraws
  path : c.outputPath ≠ ""
  pair : ∃ refs, c.references = .ok refs ∧ refs.correct = c.correct ∧
    refs.sentinel = Vector.replicate sequenceLength c.sentinel
  apart : c.sentinel ∉ c.correct

theorem usable_of_validated (h : c.validated = .ok c) : c.Usable := by
  have hnone := validated_eq_ok_iff.mp h
  have hdraws : c.maxDraws ≠ 0 := fun hdraws => hnone _ (.noDraws hdraws)
  have hpath : c.outputPath ≠ "" := fun hpath => hnone _ (.noOutputPath hdraws hpath)
  cases hrefs : c.references with
  | error fault =>
      obtain ⟨position, rfl, hfirst, hbefore⟩ := references_eq_error_iff.mp hrefs
      exact absurd (.collision position hdraws hpath hfirst hbefore) (hnone _)
  | ok refs =>
      obtain ⟨hcorrect, hsentinel⟩ := references_eq_ok_iff.mp hrefs
      refine ⟨Nat.one_le_iff_ne_zero.mpr hdraws, hpath, ⟨refs, hrefs, hcorrect, hsentinel⟩, ?_⟩
      rw [← hcorrect]
      exact refs.disjoint _ (by rw [hsentinel]; exact Vector.mem_replicate.mpr ⟨by decide, rfl⟩)

/-- **A text gives a configuration** if it is a document whose values are of the right types and give
    settings without a fault. -/
theorem ofToml_eq_ok_iff {text : String} :
    ofToml text = .ok c ↔
      ∃ entries, Entries.ofText text = .ok entries ∧ ofEntries entries = .ok c ∧ c.validated = .ok c := by
  rw [ofToml, bind_eq_ok_iff]
  constructor
  · rintro ⟨entries, hentries, h⟩
    obtain ⟨found, hfound, hvalidated⟩ := bind_eq_ok_iff.mp h
    obtain rfl := eq_of_validated hvalidated
    exact ⟨entries, mapError_eq_ok_iff.mp hentries, mapError_eq_ok_iff.mp hfound, hvalidated⟩
  · rintro ⟨entries, hentries, hfound, hvalidated⟩
    exact ⟨entries, mapError_eq_ok_iff.mpr hentries,
      bind_eq_ok_iff.mpr ⟨c, mapError_eq_ok_iff.mpr hfound, hvalidated⟩⟩

/-- **A text of the right form and types** gives the settings that it gives, if they are accepted. -/
theorem ofToml_eq_validated {text : String} {entries : Entries} (hentries : Entries.ofText text = .ok entries)
    (hfound : ofEntries entries = .ok found) : ofToml text = found.validated := by
  rw [ofToml, mapError_eq_ok_iff.mpr hentries]
  show ((ofEntries entries).mapError _ >>= fun c => c.validated) = _
  rw [mapError_eq_ok_iff.mpr hfound]
  rfl

/-- No sentinel of one's own is needed for a collision: the default one may occur in a sequence. -/
example : ofToml "sequence.correct = [1, 2, 255, 4, 255]\n" = .error (.collision ⟨255, 2⟩) := by
  rfl

end StimulusBench.Config
