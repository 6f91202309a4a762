import SchemaGuide.Json.Record
import SchemaGuide.Overlay.Content
import SchemaGuide.Schema.Graph

/-! The subject of a completion item: the field or the argument that it completes. An item
carries the names that lead there, so that its documentation can be made later and from the
schema of that time. -/
namespace SchemaGuide.Completion

/-- The names that lead to a field, or to an argument of it. -/
structure Subject where
  typeName : String
  field : String
  argument : Option String
deriving DecidableEq, Repr

namespace Subject

/-- The subject that an item carries. It may be written as a record or as the list of its
names, and the argument may be missing or null. -/
def ofJson? (value : Json) : Option Subject := do
  let record ← value.record? ["type", "field", "argument"]
  let argument ← record.defaulted "argument" (fun
    | .null => some none
    | name => name.text?.map some) none
  some ⟨← record.required "type" Json.text?, ← record.required "field" Json.text?, argument⟩

/-- The subject as an item carries it. -/
def toJson (subject : Subject) : Json :=
  .ofMembers [
    ("type", some (.ofText subject.typeName)),
    ("field", some (.ofText subject.field)),
    ("argument", subject.argument.map .ofText)]

/-- The suggestion that documents the subject, if the schema has it. -/
def suggestion? (subject : Subject) (schema : Schema) : Option Overlay.Suggestion :=
  match schema.definition? subject.typeName (some subject.field) subject.argument with
  | some (.field field) => some ⟨field.name, some field.type, field.description, field.deprecation⟩
  | some (.argument value) =>
    some ⟨value.name, some value.type, value.description, value.deprecation⟩
  | some (.type _) | none => none

end Subject
end SchemaGuide.Completion
