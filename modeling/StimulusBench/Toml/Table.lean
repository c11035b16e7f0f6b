import StimulusBench.Toml.Node

/-!
# `StimulusBench.Toml.Table` — putting statements together

A document is a list of statements: headers, which begin a table, and entries, which put a value
under a dotted key into the table begun last. A name can be given only once, a table can be begun
only once, and a dotted key cannot reach into a table that was begun by a header or in braces.

## Contents
- **Walking.** `update` changes the table at the end of a path and begins the tables on the way.
- **Entries.** `Entries.insertAt` puts one value into a table.
- **Documents.** `Builder`, one step per statement, and `Builder.finish`.
-/

namespace StimulusBench.Toml

/-! ## Walking -/

/-- A refusal of a key. -/
def refuse {α : Type} (key : Key) : Except SyntaxFault α :=
  .error ⟨.duplicateKey, key.span.start⟩

/-- A table in the making. -/
structure Table where
  form : TableForm
  span : Option Span
  entries : Entries
  deriving Repr

/-- Whether a table was begun on the way to another value only. -/
def TableForm.isImplied : TableForm → Bool
  | .implied => true
  | .dotted => true
  | .headed => false
  | .inlined => false

/-- Changes the entry under a key, or puts one to the end. -/
def Entries.put (key : Key) (node : Node) (entries : Entries) : Entries :=
  if entries.any (·.1.name = key.name) then
    entries.map fun (k, v) => if k.name = key.name then (k, node) else (k, v)
  else entries ++ [(key, node)]

/-- The table that a value is. Nobody enters a table in braces from outside, and no dotted key a
    table with a header of its own. -/
def enter (dotted : Bool) (key : Key) : Node → Except SyntaxFault Table
  | .table form span entries =>
    if form = .inlined ∨ (dotted ∧ ¬ form.isImplied) then refuse key
    else .ok ⟨form, span, entries⟩
  | _ => refuse key

/-- Changes the table at the end of a path. Tables that are missing on the way are begun. -/
def update (dotted : Bool) (change : Table → Except SyntaxFault Table) :
    List Key → Table → Except SyntaxFault Table
  | [], table => change table
  | key :: path, table => do
    let begun : TableForm := if dotted then .dotted else .implied
    match table.entries.lookup key.name with
    | none =>
      let inner ← update dotted change path ⟨begun, none, []⟩
      return { table with
        entries := table.entries.put key (.table inner.form inner.span inner.entries) }
    | some (.tables span items) =>
      match items.reverse with
      | .table form span' entries :: earlier =>
        let inner ← update dotted change path ⟨form, span', entries⟩
        let last := Node.table inner.form inner.span inner.entries
        return { table with
          entries := table.entries.put key (.tables span (earlier.reverse ++ [last])) }
      | _ => refuse key
    | some node =>
      let found ← enter dotted key node
      let inner ← update dotted change path found
      return { table with
        entries := table.entries.put key (.table inner.form inner.span inner.entries) }

/-! ## Entries -/

/-- Puts a value under a new key of a table. A dotted key ends only in a table of dotted keys. -/
def Table.insert (viaDots : Bool) (key : Key) (node : Node) (table : Table) :
    Except SyntaxFault Table :=
  if viaDots != decide (table.form = .dotted) then refuse key
  else if (table.entries.lookup key.name).isSome then refuse key
  else .ok { table with entries := table.entries ++ [(key, node)] }

/-- Puts a value under a dotted key: the last name holds the value, the others lead to it. -/
def Table.insertAt (path : List Key) (key : Key) (node : Node) (table : Table) :
    Except SyntaxFault Table :=
  update true (Table.insert (!path.isEmpty) key node) path table

/-- A dotted key and its value. -/
structure Entry where
  path : List Key
  key : Key
  node : Node
  deriving Repr

/-- The entries of a table in braces. -/
def inlineEntries (given : List Entry) : Except SyntaxFault Entries := do
  let table ← given.foldlM (fun table e => table.insertAt e.path e.key e.node)
    (Table.mk .inlined none [])
  return table.entries

/-! ## Documents -/

/-- A statement of a document. -/
inductive Statement
  | header (path : List Key) (key : Key) (span : Span)
  | tablesHeader (path : List Key) (key : Key) (span : Span)
  | entry (entry : Entry)
  deriving Repr

/-- The document so far and the table begun last, which is put in place when the next one begins. -/
structure Builder where
  root : Table
  path : List Key
  /-- The name of the current table; none for the document itself. -/
  key : Option Key
  /-- Whether the current table is one of several under its header. -/
  several : Bool
  current : Table

namespace Builder

/-- The start of a document. -/
def start : Builder := ⟨⟨.headed, none, []⟩, [], none, false, ⟨.headed, none, []⟩⟩

/-- The span of several tables: from the start of the first to the end of the last. -/
def spanOver (items : List Node) : Option Span :=
  match items.head?.bind Node.span?, items.getLast?.bind Node.span? with
  | some first, some last => some ⟨first.start, last.stop⟩
  | _, _ => none

/-- One more table under a header in double brackets. -/
def appendTable (key : Key) (node : Node) (table : Table) : Except SyntaxFault Table :=
  match table.entries.lookup key.name with
  | some (.tables _ items) =>
    let items := items ++ [node]
    .ok { table with entries := table.entries.put key (.tables (spanOver items) items) }
  | some _ => refuse key
  | none => .ok { table with entries := table.entries ++ [(key, .tables node.span? [node])] }

/-- Puts the current table in place. -/
def settle (b : Builder) : Except SyntaxFault Table :=
  let node := Node.table b.current.form b.current.span b.current.entries
  match b.key with
  | none => .ok b.current
  | some key =>
    if b.several then update false (appendTable key node) b.path b.root
    else
      update false (fun table => .ok { table with entries := table.entries ++ [(key, node)] })
        b.path b.root

/-- The table under a name, taken out to be begun by a header. -/
def takeOut (key : Key) (table : Table) : Except SyntaxFault (Entries × Table) :=
  match table.entries.lookup key.name with
  | none => .ok ([], table)
  | some (.table .implied _ entries) =>
    .ok (entries, { table with entries := table.entries.remove key.name })
  | some _ => refuse key

/-- The table at the end of a path; one that is missing counts as empty. -/
def tableAt (path : List Key) (table : Table) : Except SyntaxFault Table :=
  match path with
  | [] => .ok table
  | key :: path =>
    match table.entries.lookup key.name with
    | none => .ok ⟨.implied, none, []⟩
    | some (.tables _ items) =>
      match items.getLast? with
      | some (.table form span entries) => tableAt path ⟨form, span, entries⟩
      | _ => refuse key
    | some node => do tableAt path (← enter false key node)

/-- Follows one statement. -/
def step (b : Builder) : Statement → Except SyntaxFault Builder
  | .header path key span => do
    let root ← b.settle
    let (entries, _) ← takeOut key (← tableAt path root)
    let root ← update false (fun table => (takeOut key table).map (·.2)) path root
    return ⟨root, path, some key, false, ⟨.headed, some span, entries⟩⟩
  | .tablesHeader path key span => do
    let root ← b.settle
    let root ← update false
      (fun table =>
        match table.entries.lookup key.name with
        | none => .ok { table with entries := table.entries ++ [(key, .tables none [])] }
        | some (.tables ..) => .ok table
        | some _ => refuse key)
      path root
    return ⟨root, path, some key, true, ⟨.headed, some span, []⟩⟩
  | .entry e => do
    let span := match b.current.span, e.node.span? with
      | some header, some value => some ⟨header.start, value.stop⟩
      | span, _ => span
    let current ← { b.current with span }.insertAt e.path e.key e.node
    return { b with current }

/-- The entries of the whole document. -/
def finish (b : Builder) : Except SyntaxFault Entries := do
  return (← b.settle).entries

end Builder

/-- The entries of a document, from its statements. -/
def Entries.ofStatements (statements : List Statement) : Except SyntaxFault Entries := do
  (← statements.foldlM Builder.step Builder.start).finish

end StimulusBench.Toml
