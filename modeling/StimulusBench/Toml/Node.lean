import StimulusBench.Number.Binary64
import StimulusBench.Text.Quoted
import StimulusBench.Toml.Cursor

/-!
# `StimulusBench.Toml.Node` — the values of a TOML document

A value and the piece of the text that it comes from. Tables keep their entries in the order in
which they were begun. How a table was begun decides whether later statements may extend it.

## Contents
- **Keys.** `Key`, a name and its span.
- **Values.** `TableForm`, `Node`, `Node.span?`.
- **Naming a value in a message.** `Node.described`, `Node.typeName`.
-/

namespace StimulusBench.Toml

/-- A name in front of a value or in a header. -/
structure Key where
  name : String
  span : Span
  deriving Repr, DecidableEq

/-- How a table was begun. -/
inductive TableForm
  /-- Between braces. -/
  | inlined
  /-- By its own header. -/
  | headed
  /-- By the header of a table inside it. -/
  | implied
  /-- By a dotted key. -/
  | dotted
  deriving Repr, DecidableEq

/-- A value of a document. Tables begun on the way to another value have no span. -/
inductive Node
  | string (span : Span) (text : String)
  | integer (span : Span) (value : Int)
  | float (span : Span) (value : Binary64)
  | boolean (span : Span) (value : Bool)
  | dateTime (span : Span)
  | array (span : Span) (items : List Node)
  | table (form : TableForm) (span : Option Span) (entries : List (Key × Node))
  /-- Tables under one header in double brackets. -/
  | tables (span : Option Span) (items : List Node)
  deriving Repr

/-- The entries of a table. -/
abbrev Entries := List (Key × Node)

namespace Node

/-- The piece of the text that a value comes from. -/
def span? : Node → Option Span
  | .string span _ => some span
  | .integer span _ => some span
  | .float span _ => some span
  | .boolean span _ => some span
  | .dateTime span => some span
  | .array span _ => some span
  | .table _ span _ => span
  | .tables span _ => span

/-- How a message names a value that has the wrong type. -/
def described : Node → String
  | .string _ s => "string " ++ Quoted.text s
  | .integer _ n => "integer `" ++ Numeral.signedText n ++ "`"
  | .float _ x => "floating point `" ++ x.text .plain ++ "`"
  | .boolean _ b => "boolean `" ++ (if b then "true" else "false") ++ "`"
  | .dateTime _ => "map"
  | .array .. => "sequence"
  | .table .. => "map"
  | .tables .. => "sequence"

/-- The name of the type of a value. -/
def typeName : Node → String
  | .string .. => "string"
  | .integer .. => "integer"
  | .float .. => "float"
  | .boolean .. => "boolean"
  | .dateTime _ => "datetime"
  | .array .. => "array"
  | .table .inlined .. => "inline table"
  | .table .. => "table"
  | .tables .. => "array of tables"

end Node

/-- The value under a name. -/
def Entries.lookup (name : String) (entries : Entries) : Option Node :=
  (entries.find? (·.1.name = name)).map (·.2)

/-- The entries without the one under a name. -/
def Entries.remove (name : String) (entries : Entries) : Entries :=
  entries.filter (·.1.name ≠ name)

end StimulusBench.Toml
