import SchemaGuide.Explorer.History
import SchemaGuide.Explorer.Source

/-! What an explorer shows. It follows from what the source offers and from the place in
the history, and is decided anew for every render. -/
namespace SchemaGuide.Explorer

/-- The things that an explorer can show. -/
inductive Mode where
  | errors (messages : List String)
  | spinner
  | noSchema
  | searchResults (term : String) (scope : Option Definition)
  /-- The whole schema. -/
  | schemaRoot
  | typeDetail (type : NamedType)
  /-- A field or an argument. An entry that points at nothing is shown here too. -/
  | memberDetail (definition : Option Definition)
deriving DecidableEq

/-- The name of the mode. -/
def Mode.name : Mode → String
  | .errors _ => "error"
  | .spinner => "spinner"
  | .noSchema => "no-schema"
  | .searchResults .. => "search-results"
  | .schemaRoot => "schema"
  | .typeDetail _ => "type"
  | .memberDetail _ => "field"

/-- All that is decided for one render. -/
structure View where
  mode : Mode
  showsSearch : Bool
  backLabel : Option String
  title : String

/-- The mode at an entry of that depth: the state of the schema comes first, then a search,
then the root, and then the visited definition. -/
def modeAt (availability : Availability) (current : Entry) (depth : Nat) : Mode :=
  match availability with
  | .errored messages => .errors messages
  | .loading => .spinner
  | .unavailable => .noSchema
  | .ready _ =>
    match current.searchTerm? with
    | some term => .searchResults term current.definition
    | none =>
      if depth = 1 then .schemaRoot
      else match current.definition with
        | some (.type declared) => .typeDetail declared
        | other => .memberDetail other

/-- Whether there is something to search at an entry of that depth: the root, or a type
with members. -/
def showsSearchAt (current : Entry) (depth : Nat) : Bool :=
  depth = 1 || (current.definition.bind (·.asType?)).any (·.exposesFieldSet)

/-- The view of a history. -/
def View.of (availability : Availability) (history : History) : View where
  mode := modeAt availability history.current history.depth
  showsSearch := showsSearchAt history.current history.depth
  backLabel := history.previous?.map (·.name)
  title := history.current.displayTitle

end SchemaGuide.Explorer
