import SchemaGuide.Explorer.Basic
import SchemaGuide.Text.Quoted

/-! What a reader can do in an explorer. Members are named as the links of a panel name
them, and a step to one succeeds if the schema has it. -/
namespace SchemaGuide.Explorer

/-- An action of a reader. -/
inductive Action where
  /-- Nothing but a look at the panel. -/
  | refresh
  | reset
  | pop
  | search (term : String)
  | openType (name : String)
  | openField (typeName field : String)
  | openArgument (typeName field argument : String)
deriving DecidableEq, Repr

namespace Action

/-- The definition that an action opens. -/
def target? (schema : Schema) : Action → Option Definition
  | .openType name => schema.definition? name none none
  | .openField typeName field => schema.definition? typeName (some field) none
  | .openArgument typeName field argument =>
    schema.definition? typeName (some field) (some argument)
  | .refresh | .reset | .pop | .search _ => none

/-- An action with its parts named, such as `OpenType \x7b name: "User" \x7d`. -/
def spelled : Action → String
  | .refresh => "Refresh"
  | .reset => "Reset"
  | .pop => "Pop"
  | .search term => call "Search" [("term", term)]
  | .openType name => call "OpenType" [("name", name)]
  | .openField typeName field => call "OpenField" [("type_name", typeName), ("field", field)]
  | .openArgument typeName field argument =>
    call "OpenArgument" [("type_name", typeName), ("field", field), ("argument", argument)]
where
  /-- A name with its parts in braces. -/
  call (name : String) (parts : List (String × String)) : String :=
    name ++ " \x7b " ++
      ", ".intercalate (parts.map fun part => part.1 ++ ": " ++ Text.quoted part.2) ++ " \x7d"

end Action

/-- Why an action cannot be done. -/
inductive ActionError where
  | noSchema
  /-- The schema has nothing that the action could open. -/
  | unknownMember (action : Action)
deriving DecidableEq, Repr

/-- The error in words. -/
def ActionError.message : ActionError → String
  | .noSchema => "no schema loaded"
  | .unknownMember action => "unknown schema member: " ++ action.spelled

namespace DocExplorer

/-- What comes of a step to what an action opens, and the explorer after it. Nothing is undone where
a step fails: what it did until then would stay. -/
def openTarget (explorer : DocExplorer) (source : Source) (action : Action) :
    Except ActionError Unit × DocExplorer :=
  match source.schema? with
  | none => (.error .noSchema, explorer)
  | some schema =>
    match action.target? schema.value with
    | none => (.error (.unknownMember action), explorer)
    | some definition =>
      (.ok (), { explorer with history := explorer.history.push (.ofDefinition definition) })

/-- What comes of an action, and the explorer after it. -/
def act (explorer : DocExplorer) (source : Source) (action : Action) :
    Except ActionError Unit × DocExplorer :=
  match action with
  | .refresh => (.ok (), explorer)
  | .reset => (.ok (), { explorer with history := explorer.history.reset })
  | .pop => (.ok (), { explorer with history := explorer.history.pop.2 })
  | .search term => (.ok (), { explorer with history := explorer.history.setSearch term })
  | .openType _ | .openField _ _ | .openArgument _ _ _ => explorer.openTarget source action

end DocExplorer
end SchemaGuide.Explorer
