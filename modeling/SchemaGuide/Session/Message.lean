import SchemaGuide.Completion.Item
import SchemaGuide.Explorer.Action
import SchemaGuide.Json.Shape
import SchemaGuide.Uri.Parser

/-! Messages of an editor. A message names a method and brings parameters; what it asks of a
session is read from both. Addresses are taken in their normal form, so that a document is
the same one however its address is spelled. A message that brings no parameters is one that
brings null. -/
namespace SchemaGuide

/-- The methods that a session knows. -/
inductive Method where
  | greet
  | ready
  | didOpen
  | didChange
  | didClose
  | complete
  | resolve
  | explore
  | shutdown
deriving DecidableEq, Repr

namespace Method

/-- The method of a name. -/
def ofName? (name : String) : Option Method :=
  [("initialize", greet), ("initialized", ready), ("textDocument/didOpen", didOpen),
    ("textDocument/didChange", didChange), ("textDocument/didClose", didClose),
    ("textDocument/completion", complete), ("completionItem/resolve", resolve),
    ("graphqlDocs/explore", explore), ("shutdown", shutdown)].lookup name

/-- Whether an editor waits for an answer. -/
def isRequest : Method → Bool
  | .greet | .complete | .resolve | .explore | .shutdown => true
  | .ready | .didOpen | .didChange | .didClose => false

end Method

/-- What an editor asks of a session. -/
inductive Message where
  /-- The first message, with what is known of the workspace and the schema. -/
  | greeting (workspace schema : Option FilePath)
  /-- The editor is ready for what a session has to tell. -/
  | ready
  | opened (address text : String)
  /-- A document changed to that text, if to any. -/
  | changed (address : String) (text : Option String)
  | closed (address : String)
  | complete (address : String) (line column : Nat)
  | resolve (item : Completion.Item)
  | explore (action : Explorer.Action)
  /-- The session is to end, and does so whatever comes along; but parameters do not belong
  there. -/
  | shutdown (bare : Bool)

namespace Message

/-- The address that a value spells. -/
def uri? (value : Json) : Option Uri :=
  value.text?.bind Uri.parse?

/-- The address in the record of a document. -/
def address? (document : Json) : Option String := do
  (← uri? (← document.member? "uri")).text

/-- The record of a document that an editor knows already. -/
def identifier : Json.Shape := .recordOf [⟨"uri", true, .text⟩]

/-- The same with the version that the editor gives the text. -/
def versionedIdentifier : Json.Shape :=
  .recordOf [⟨"uri", true, .text⟩, ⟨"version", true, Completion.signed⟩]

/-- The record of a document that is new. -/
def document : Json.Shape :=
  .recordOf [⟨"uri", true, .text⟩, ⟨"languageId", true, .text⟩,
    ⟨"version", true, Completion.signed⟩, ⟨"text", true, .text⟩]

/-- The schema that options of an editor name. Options of another shape name none. -/
def schemaOption? (options : Json) : Option FilePath := do
  let record ← options.record? ["schema"]
  let path ← record.defaulted "schema" (fun
    | .null => some none
    | path => path.text?.map some) none
  path.map FilePath.mk

/-- The workspace at an address, if the address can be read. No address is no workspace. -/
def workspaceAt? : Json → Option (Option FilePath)
  | .null => some none
  | address => (uri? address).map (·.filePath?)

/-- The first message. An editor has to tell of its own capabilities, in a record. -/
def greeting? (params : Json) : Option Message := do
  let .object _ ← params.member? "capabilities" | none
  let workspace ← workspaceAt? ((params.member? "rootUri").getD .null)
  some (.greeting workspace ((params.member? "initializationOptions").bind schemaOption?))

/-- The message that the editor is ready, which tells nothing else. -/
def ready? (params : Json) : Option Message :=
  (params.record? []).map fun _ => .ready

/-- A document was opened. -/
def opened? (params : Json) : Option Message := do
  let document ← document (← params.member? "textDocument")
  some (.opened (← address? document) (← (← document.member? "text").text?))

/-- One change of a document. The text is that of the whole document, whatever range it
tells. -/
def change : Json.Shape :=
  .recordOf [⟨"range", false, Completion.range⟩, ⟨"rangeLength", false, Completion.unsigned⟩,
    ⟨"text", true, .text⟩]

/-- A document was changed. The last change is the one that counts. -/
def changed? (params : Json) : Option Message := do
  let document ← versionedIdentifier (← params.member? "textDocument")
  let changes ← Json.Shape.listOf change (← params.member? "contentChanges")
  some (.changed (← address? document)
    (changes.items.getLast?.bind fun change => (change.member? "text").bind Json.text?))

/-- A document was closed. -/
def closed? (params : Json) : Option Message := do
  (address? (← identifier (← params.member? "textDocument"))).map .closed

/-- A completion is asked for. -/
def complete? (params : Json) : Option Message := do
  let document ← identifier (← params.member? "textDocument")
  let place ← Completion.position (← params.member? "position")
  let line ← (← place.member? "line").int?
  let column ← (← place.member? "character").int?
  some (.complete (← address? document) line.toNat column.toNat)

/-- The action of the members of a value, or of the items of a list, of one kind. -/
def actionOfKind? (kind : String) (content : Json) : Option Explorer.Action :=
  let names (keys : List String) : Option (List String) := do
    let record ← content.record? keys
    keys.mapM fun key => record.required key Json.text?
  match kind with
  | "refresh" => (content.record? []).map fun _ => .refresh
  | "reset" => (content.record? []).map fun _ => .reset
  | "pop" => (content.record? []).map fun _ => .pop
  | "search" => do
    let [term] ← names ["term"] | none
    some (.search term)
  | "openType" => do
    let [name] ← names ["name"] | none
    some (.openType name)
  | "openField" => do
    let [typeName, field] ← names ["typeName", "field"] | none
    some (.openField typeName field)
  | "openArgument" => do
    let [typeName, field, argument] ← names ["typeName", "field", "argument"] | none
    some (.openArgument typeName field argument)
  | _ => none

/-- The action that a value describes: a record with its kind among the members, or a list
with its kind in front. -/
def action? (value : Json) : Option Explorer.Action :=
  match value with
  | .object _ => do actionOfKind? (← (← value.member? "kind").text?) value
  | .array (kind :: items) => do actionOfKind? (← kind.text?) (.array items)
  | _ => none

/-- An action of the explorer is asked for. -/
def explore? (params : Json) : Option Message := do
  (action? (← params.member? "action")).map .explore

/-- A call to shut down. -/
def shutdownWith (params : Json) : Message :=
  match params with
  | .null => .shutdown true
  | _ => .shutdown false

/-- The message of a method and its parameters. -/
def read? (method : Method) (params : Json) : Option Message :=
  match method with
  | .greet => greeting? params
  | .ready => ready? params
  | .didOpen => opened? params
  | .didChange => changed? params
  | .didClose => closed? params
  | .complete => complete? params
  | .resolve => (Completion.Item.ofJson? params).map .resolve
  | .explore => explore? params
  | .shutdown => some (shutdownWith params)

end Message
end SchemaGuide
