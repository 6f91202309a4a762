import SchemaGuide.Completion.Documenting
import SchemaGuide.Completion.Offer
import SchemaGuide.Explorer.Action
import SchemaGuide.Settings.Location
import SchemaGuide.Text.Offset

/-! A session with an editor: how far the two are with each other, the documents that are open,
the settings and the schema that were loaded last, and one explorer. Loading replaces settings and
schema together, and nothing else changes either of them. A session takes one message after the
other. What a program writes to a log of its own, as against the one of the editor, is left out. -/
namespace SchemaGuide

/-- What a session is started with. -/
structure LaunchOptions where
  /-- The settings file that is asked for. -/
  settingsFile : Option FilePath
  /-- The schema that goes before the one of the settings. -/
  schema : Option FilePath

/-- How far an editor and a session are with each other. -/
inductive Phase where
  /-- The session waits for a greeting. -/
  | new
  | greeted
  /-- The session was told to shut down. -/
  | stopped
deriving DecidableEq, Repr

/-- A session. -/
structure Session where
  phase : Phase
  /-- The settings file that was asked for. -/
  settingsFile : Option FilePath
  /-- The schema that goes before the one of the settings. -/
  schemaOverride : Option FilePath
  workspace : Option FilePath
  /-- The text of each open document, by its address. -/
  documents : List (String × String)
  settings : Settings
  source : Explorer.Source
  /-- How often the schema was loaded. -/
  loads : Nat
  explorer : Explorer.DocExplorer

namespace Session

/-- A session at its start. -/
def start (options : LaunchOptions) : Session where
  phase := .new
  settingsFile := options.settingsFile
  schemaOverride := options.schema
  workspace := none
  documents := []
  settings := .standard
  source := .initial
  loads := 0
  explorer := .ofHistory .initial

/-- The schema, if one is loaded. -/
def schema? (session : Session) : Option Schema :=
  session.source.schema?.map (·.value)

/-- The session once it is greeted, with what the editor tells at that. What it does not tell
stays. -/
def configure (session : Session) (workspace schema : Option FilePath) : Session :=
  { session with
    phase := .greeted
    workspace := workspace.or session.workspace
    schemaOverride := schema.or session.schemaOverride }

/-! ## Documents -/

/-- The text of an open document. -/
def document? (session : Session) (address : String) : Option String :=
  (session.documents.find? (·.1 == address)).map (·.2)

/-- The session without a document. -/
def closeDocument (session : Session) (address : String) : Session :=
  { session with documents := session.documents.filter (·.1 != address) }

/-- The session with that text for a document. -/
def setDocument (session : Session) (address text : String) : Session :=
  { session with documents := (address, text) :: (session.closeDocument address).documents }

/-! ## Completion -/

/-- What is offered at a place in a document. -/
def completions (session : Session) (address : String) (line column : Nat) :
    List Completion.Item :=
  match session.document? address, session.schema? with
  | some text, some schema =>
    Completion.offerAt schema text (Text.positionOffset column line text.toList)
  | _, _ => []

/-- An item with its documentation. -/
def documentItem (session : Session) (item : Completion.Item) : Completion.Item :=
  match session.schema? with
  | some schema => Completion.document session.settings schema item
  | none => item

/-! ## Exploring -/

/-- What comes of an action, and the session after it: the panel, unless it is the one that was
shown last, or the reason why the action cannot be done. -/
def explore (session : Session) (action : Explorer.Action) :
    Except Explorer.ActionError (Option Explorer.Panel) × Session :=
  match session.explorer.act session.source action with
  | (.error error, explorer) => (.error error, { session with explorer })
  | (.ok (), explorer) =>
    let (panel, explorer) := explorer.render session.source
    (.ok panel, { session with explorer })

end Session
end SchemaGuide
