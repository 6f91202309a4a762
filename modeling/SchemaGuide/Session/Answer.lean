import SchemaGuide.Session.Loading
import SchemaGuide.Session.Message

/-! Answers of a session. A request has one result or one error, and any message may have
log messages beside. A session takes one greeting, then whatever comes until it is told to shut
down, and nothing else: other requests are answered with an error, before their parameters are
looked at, and other notifications are passed over. -/
namespace SchemaGuide

/-- A panel as JSON. -/
def Explorer.Panel.toJson (panel : Explorer.Panel) : Json :=
  let text (value : Option String) : Json := (value.map .ofText).getD .null
  let search := panel.search.map fun box => Json.object [
    (some "placeholder", .ofText box.placeholder), (some "value", .ofText box.value)]
  .object [
    (some "backLabel", text panel.backLabel),
    (some "title", .ofText panel.title),
    (some "trailing", text panel.trailing),
    (some "search", search.getD .null),
    (some "mode", .ofText panel.mode),
    (some "content", .ofText panel.content)]

/-- Why a request has no result. -/
inductive RequestError where
  /-- There was no greeting yet. -/
  | notGreeted
  /-- There was a greeting already, or a call to shut down. -/
  | outOfPhase
  /-- The parameters do not fit the method. -/
  | invalidParameters
  /-- The action cannot be done. -/
  | refused (error : Explorer.ActionError)
deriving DecidableEq, Repr

namespace RequestError

/-- The number of the kind of error. -/
def code : RequestError → Int
  | .notGreeted => -32002
  | .outOfPhase => -32600
  | .invalidParameters | .refused _ => -32602

/-- The error in words. For parameters that do not fit, one text stands for the many in which a
reader of parameters tells what it misses. -/
def message : RequestError → String
  | .notGreeted => "Server not initialized"
  | .outOfPhase => "Invalid request"
  | .invalidParameters => "Invalid params"
  | .refused error => error.message

end RequestError

namespace Phase

/-- Why a method is not taken in a phase. -/
def objection? : Phase → Method → Option RequestError
  | .new, .greet => none
  | .new, _ => some .notGreeted
  | .greeted, .greet => some .outOfPhase
  | .greeted, _ => none
  | .stopped, _ => some .outOfPhase

/-- The message of a call, or the reason why there is none. -/
def accept (phase : Phase) (method : Method) (params : Json) : Except RequestError Message :=
  match phase.objection? method with
  | some error => .error error
  | none =>
    match Message.read? method params with
    | some message => .ok message
    | none => .error .invalidParameters

end Phase

/-- The answer to a message. -/
structure Answer where
  /-- What a request results in; a notification results in nothing. -/
  result : Option (Except RequestError Json)
  /-- What is told beside, for the log of the editor. -/
  logs : List String

namespace Answer

/-- The answer to a request that results in a value. -/
def ofResult (result : Json) : Answer := ⟨some (.ok result), []⟩

/-- The answer to a notification. -/
def ofLogs (logs : List String) : Answer := ⟨none, logs⟩

/-- The answer to a request that results in an error. -/
def ofError (error : RequestError) : Answer := ⟨some (.error error), []⟩

/-- The answer to a method that comes to nothing. Nobody waits for one to a notification. -/
def ofFailure (method : Method) (error : RequestError) : Answer :=
  if method.isRequest then .ofError error else .ofLogs []

/-- The answer to an action of a reader. -/
def ofExplored : Except Explorer.ActionError (Option Explorer.Panel) → Answer
  | .ok panel => .ofResult (.object [(some "panel", (panel.map (·.toJson)).getD .null)])
  | .error error => .ofError (.refused error)

end Answer

/-- The name that the program gives itself. -/
def programName : String := "GraphQLDocsLSP"

/-- The version of the program. -/
def programVersion : String := "0.1.0"

/-- What the program can do, told in answer to a greeting. -/
def capabilities : Json :=
  .ofMembers [
    ("capabilities", some (.ofMembers [
      ("textDocumentSync", some (.ofInt 1)),
      ("completionProvider", some (.ofMembers [
        ("resolveProvider", some (.bool true)),
        ("triggerCharacters", some (.array (["\x7b", "(", " "].map .ofText)))]))])),
    ("serverInfo", some (.ofMembers [
      ("name", some (.ofText programName)), ("version", some (.ofText programVersion))]))]

namespace Session

/-- The items of a completion as JSON. No items are no completion. -/
def completionJson : List Completion.Item → Json
  | [] => .null
  | items => .array (items.map (·.toJson))

/-- The session after a message, and its answer. -/
def receive (session : Session) (files : FileSystem) (environment : Settings.Environment) :
    Message → Session × Answer
  | .greeting workspace schema => (session.configure workspace schema, .ofResult capabilities)
  | .ready =>
    let (session, summary) := session.load files environment
    (session, .ofLogs [programName ++ " initialized: " ++ summary])
  | .opened address text =>
    (session.setDocument address text, .ofLogs ["Opened file: " ++ address])
  | .changed address (some text) => (session.setDocument address text, .ofLogs [])
  | .changed _ none => (session, .ofLogs [])
  | .closed address => (session.closeDocument address, .ofLogs ["Closed file: " ++ address])
  | .complete address line column =>
    (session, .ofResult (completionJson (session.completions address line column)))
  | .resolve item => (session, .ofResult (session.documentItem item).toJson)
  | .explore action =>
    let (outcome, session) := session.explore action
    (session, .ofExplored outcome)
  | .shutdown bare =>
    ({ session with phase := .stopped },
      if bare then .ofResult .null else .ofError .invalidParameters)

/-- The session after a method is called, and its answer. A method that is not taken leaves the
session as it is, and so do parameters that do not fit. -/
def call (session : Session) (files : FileSystem) (environment : Settings.Environment)
    (method : Method) (params : Json) : Session × Answer :=
  match session.phase.accept method params with
  | .ok message => session.receive files environment message
  | .error error => (session, .ofFailure method error)

end Session
end SchemaGuide
