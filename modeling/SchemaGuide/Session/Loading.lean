import SchemaGuide.Schema.Introspection
import SchemaGuide.Session.Basic

/-! Loading of the settings and the schema. Nothing that fails here ends a session: settings
that cannot be loaded give way to the standard ones, and a schema that cannot be loaded
leaves its error in place of a schema. -/
namespace SchemaGuide

/-- Why a schema cannot be loaded. -/
inductive SchemaError where
  | unreadable (path : FilePath) (reason : ReadError)
  /-- The text of the file describes no schema. -/
  | invalid (error : IntrospectionError)
deriving DecidableEq

/-- The error in words. -/
def SchemaError.message : SchemaError → String
  | .unreadable path reason =>
    "failed to read schema file " ++ path.text ++ ": " ++ reason.message
  | .invalid error => error.message

/-- The schema in a file. -/
def readSchema (files : FileSystem) (path : FilePath) : Except SchemaError Schema :=
  match files.readText path with
  | .error reason => .error (.unreadable path reason)
  | .ok text =>
    match Introspection.parse text with
    | .ok schema => .ok schema
    | .error error => .error (.invalid error)

/-- What became of the schema in loading. -/
inductive SchemaOutcome where
  /-- No schema is named anywhere. -/
  | notNamed
  | loaded (path : FilePath) (schema : Schema)
  | failed (error : SchemaError)

namespace SchemaOutcome

/-- The outcome for the schema at a path. -/
def of (files : FileSystem) : Option FilePath → SchemaOutcome
  | none => .notNamed
  | some path =>
    match readSchema files path with
    | .ok schema => .loaded path schema
    | .error error => .failed error

/-- The outcome in words. -/
def summary : SchemaOutcome → String
  | .notNamed => "no schema configured"
  | .loaded path schema =>
    "loaded schema " ++ path.text ++ " (" ++ toString schema.userTypes.length ++ " types)"
  | .failed error => error.message

/-- The outcome as the source of an explorer, under the number of the loading. -/
def source (outcome : SchemaOutcome) (number : Nat) : Explorer.Source :=
  match outcome with
  | .notNamed => ⟨.absent, none⟩
  | .loaded _ schema => ⟨.loaded ⟨number, schema⟩, none⟩
  | .failed error => ⟨.absent, some ⟨number, [error.message]⟩⟩

end SchemaOutcome

namespace Session

/-- Where the schema is that the session loads with these settings. -/
def schemaPath (session : Session) (settings : Settings) : Option FilePath :=
  session.schemaOverride.or (settings.schemaPath session.workspace)

/-- The settings that the session loads. -/
def loadSettings (session : Session) (files : FileSystem) (environment : Settings.Environment) :
    Except Settings.LoadError Settings :=
  Settings.load files session.settingsFile session.workspace environment

/-- The settings in force after loading. -/
def settingsAfter : Except Settings.LoadError Settings → Settings
  | .ok settings => settings
  | .error _ => .standard

/-- What is told about settings that could not be loaded. -/
def settingsNote : Except Settings.LoadError Settings → String
  | .ok _ => ""
  | .error error => "; config error: " ++ error.message

/-- The session with settings and schema loaded, and what became of both in words. -/
def load (session : Session) (files : FileSystem) (environment : Settings.Environment) :
    Session × String :=
  let loaded := session.loadSettings files environment
  let settings := settingsAfter loaded
  let outcome := SchemaOutcome.of files (session.schemaPath settings)
  ({ session with
      settings
      source := outcome.source session.loads
      loads := session.loads + 1
      explorer := { session.explorer with searchLimit := settings.searchLimit } },
    outcome.summary ++ settingsNote loaded)

end Session
end SchemaGuide
