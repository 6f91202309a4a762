import SchemaGuide.Explorer.Basic
import SchemaGuide.Files.Path
import SchemaGuide.Overlay.Content
import SchemaGuide.Toml.Document

/-! The settings, and the text that they are read from. Every setting has a standard value,
and a text with a setting that does not exist is refused as a whole. -/
namespace SchemaGuide

/-- The settings. -/
structure Settings where
  /-- Where the schema is, as it is written. -/
  schema : Option FilePath
  /-- Shown where a description is missing. -/
  fallbackDescription : String
  /-- The matches that a group of search results shows at most. -/
  searchLimit : Nat
  /-- The markup of completion documentation. -/
  markup : Overlay.Style
deriving DecidableEq

namespace Settings

/-- The settings where nothing is set. -/
def standard : Settings where
  schema := none
  fallbackDescription := Overlay.defaultFallback
  searchLimit := Explorer.defaultSearchLimit
  markup := .markdown

/-- The style of a name. -/
def styleNamed? (name : String) : Option Overlay.Style :=
  if name = "markdown" then some .markdown
  else if name = "html" then some .html
  else none

/-- Whether a value has nothing in it. -/
def isEmpty : Toml.Value → Bool
  | .array items => items.isEmpty
  | .table _ entries => entries.isEmpty
  | _ => false

/-- A style is written as its name, or as a table of that name alone with nothing in it. -/
def style? : Toml.Value → Option Overlay.Style
  | .string name => styleNamed? name
  | .table _ [(name, content)] => if isEmpty content then styleNamed? name else none
  | _ => none

/-- The bound that limits stay below. -/
def limitBound : Nat := 0x10000000000000000

/-- A limit is written as an integer. -/
def limit? : Toml.Value → Option Nat
  | .integer (.ofNat value) => if value < limitBound then some value else none
  | _ => none

/-- A text is written as a string. -/
def text? : Toml.Value → Option String
  | .string text => some text
  | _ => none

/-- The settings with one more entry of their table. -/
def set? (settings : Settings) (key : String) (value : Toml.Value) : Option Settings :=
  if key = "schema" then
    (text? value).map fun path => { settings with schema := some ⟨path⟩ }
  else if key = "fallback_description" then
    (text? value).map fun text => { settings with fallbackDescription := text }
  else if key = "search_limit" then
    (limit? value).map fun limit => { settings with searchLimit := limit }
  else if key = "markup" then
    (style? value).map fun markup => { settings with markup }
  else none

/-- The settings of a table. -/
def ofTable? (table : Toml.Table) : Option Settings :=
  table.foldlM (fun settings entry => settings.set? entry.1 entry.2) standard

/-- The settings that a text describes. -/
def parse? (text : String) : Option Settings :=
  (Toml.parse? text).bind ofTable?

/-- Where the schema is. A relative path is taken from the workspace, if there is one. -/
def schemaPath (settings : Settings) (workspace : Option FilePath) : Option FilePath :=
  settings.schema.map fun path =>
    match workspace with
    | some root => root.join path
    | none => path

end Settings
end SchemaGuide
