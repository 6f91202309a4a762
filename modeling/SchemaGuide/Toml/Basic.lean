/-! Tables of named values, and how the statements of a document fill them. A table can be
opened by a header, by being on the way to one, by a dotted key, or by braces; each way
closes others off, so that no table is written in two places. The language is TOML 1.1, which
`toml` 1 reads: a table in braces may go over several lines and end with a comma, and there are
escapes for a byte and for the escape character. The wording of its refusals is not kept. -/
namespace SchemaGuide.Toml

/-- How a table came to be. -/
inductive Origin where
  /-- A header names it. -/
  | header
  /-- The header of a table inside of it went before its own. -/
  | implied
  /-- A dotted key leads through it. -/
  | dotted
  /-- It is written in braces. -/
  | braces
deriving DecidableEq, Repr

/-- A value of a document. -/
inductive Value where
  | string (text : String)
  | integer (value : Int)
  | boolean (value : Bool)
  | array (items : List Value)
  | table (origin : Origin) (entries : List (String × Value))
  /-- An array of tables with a header each, the last one first. -/
  | tables (elements : List (List (String × Value)))
deriving Inhabited

/-- The entries of a table, in the order of their first mention. -/
abbrev Table : Type := List (String × Value)

/-- The keys that lead from a table to a value inside of it. -/
abbrev KeyPath : Type := List String

/-- One statement of a document. -/
inductive Statement where
  /-- The header of a table. -/
  | header (path : KeyPath)
  /-- The header of a further element of an array of tables. -/
  | element (path : KeyPath)
  /-- A value for a key of the table that was opened last. -/
  | entry (path : KeyPath) (value : Value)

namespace Table

/-- The value of a key. -/
def get? (table : Table) (key : String) : Option Value :=
  (table.find? (·.1 == key)).map (·.2)

/-- The table with that value for a key. -/
def set (table : Table) (key : String) (value : Value) : Table :=
  if table.any (·.1 == key) then
    table.map fun entry => if entry.1 == key then (key, value) else entry
  else table ++ [(key, value)]

/-- Changes the table at the end of a path of dotted keys, which enter tables of dotted keys
only. -/
def changeDotted (change : Table → Option Table) : KeyPath → Table → Option Table
  | [], table => change table
  | key :: rest, table =>
    match table.get? key with
    | none => (changeDotted change rest []).map fun inner => table.set key (.table .dotted inner)
    | some (.table .dotted inner) =>
      (changeDotted change rest inner).map fun inner => table.set key (.table .dotted inner)
    | some _ => none

/-- Changes the table at the end of the path of a header. Such a path enters every table
that is not in braces, and the last element of an array of tables. -/
def changeUnder (change : Table → Option Table) : KeyPath → Table → Option Table
  | [], table => change table
  | key :: rest, table =>
    match table.get? key with
    | none => (changeUnder change rest []).map fun inner => table.set key (.table .implied inner)
    | some (.table .braces _) => none
    | some (.table origin inner) =>
      (changeUnder change rest inner).map fun inner => table.set key (.table origin inner)
    | some (.tables (latest :: earlier)) =>
      (changeUnder change rest latest).map fun inner => table.set key (.tables (inner :: earlier))
    | some _ => none

/-- Gives a key its value, if it has none. -/
def assign (key : String) (value : Value) (table : Table) : Option Table :=
  match table.get? key with
  | none => some (table.set key value)
  | some _ => none

/-- Gives a dotted key its value. -/
def assignPath (path : KeyPath) (value : Value) (table : Table) : Option Table :=
  match path.getLast? with
  | none => none
  | some key => changeDotted (assign key value) path.dropLast table

/-- Opens the table of a header, unless there is one with a header or a value. -/
def openTable (key : String) (table : Table) : Option Table :=
  match table.get? key with
  | none => some (table.set key (.table .header []))
  | some (.table .implied inner) => some (table.set key (.table .header inner))
  | some _ => none

/-- Opens a further element of an array of tables. -/
def openElement (key : String) (table : Table) : Option Table :=
  match table.get? key with
  | none => some (table.set key (.tables [[]]))
  | some (.tables elements) => some (table.set key (.tables ([] :: elements)))
  | some _ => none

end Table

/-- A document that is read up to a statement. -/
structure Progress where
  root : Table
  /-- The path of the header that was read last. -/
  here : KeyPath

namespace Progress

/-- The document with one more statement. -/
def add (progress : Progress) : Statement → Option Progress
  | .header path => do
    let key ← path.getLast?
    some ⟨← Table.changeUnder (Table.openTable key) path.dropLast progress.root, path⟩
  | .element path => do
    let key ← path.getLast?
    some ⟨← Table.changeUnder (Table.openElement key) path.dropLast progress.root, path⟩
  | .entry path value => do
    let root ← Table.changeUnder (Table.assignPath path value) progress.here progress.root
    some { progress with root }

end Progress

/-- The table that the statements of a document describe. -/
def Table.ofStatements? (statements : List Statement) : Option Table :=
  (statements.foldlM Progress.add ⟨[], []⟩).map (·.root)

end SchemaGuide.Toml
