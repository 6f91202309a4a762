import SchemaGuide.Schema.Graph

/-! Schemas that have every type they refer to. A table of types finds each of its types by
name, because the names in it are in strict order. -/
namespace SchemaGuide

namespace TypeTable

/-- A type of the table is found by its name, as no other has that name. -/
theorem get?_of_mem {table : TypeTable} {type : NamedType} (member : type ∈ table.entries) :
    table.get? type.name = some type := by
  obtain ⟨entries, ordered⟩ := table
  change type ∈ entries at member
  change entries.find? (·.name == type.name) = some type
  induction entries with
  | nil => cases member
  | cons first rest ih =>
    obtain ⟨above, inner⟩ := List.pairwise_cons.1 ordered
    rcases List.mem_cons.1 member with rfl | later
    · simp
    · have other : first.name ≠ type.name := String.ne_of_lt (above type later)
      simpa [other] using ih inner later

theorem mem_of_get? {table : TypeTable} {name : String} {type : NamedType}
    (found : table.get? name = some type) : type ∈ table.entries :=
  List.mem_of_find?_eq_some found

theorem name_of_get? {table : TypeTable} {name : String} {type : NamedType}
    (found : table.get? name = some type) : type.name = name := by
  rw [get?] at found
  simpa using List.find?_some found

end TypeTable

/-- The types that a field and its arguments refer to. -/
def Field.references (field : Field) : List String :=
  field.type.namedType :: field.args.map (·.type.namedType)

/-- The types that a type refers to. -/
def NamedType.references (type : NamedType) : List String :=
  type.fields.flatMap (·.references) ++ type.inputFields.map (·.type.namedType) ++
    type.interfaces ++ type.possibleTypes

/-- The schema has every type that one of its types refers to. -/
def Schema.Closed (schema : Schema) : Prop :=
  ∀ type ∈ schema.types.entries, ∀ name ∈ type.references, (schema.type? name).isSome = true

instance (schema : Schema) : Decidable schema.Closed :=
  inferInstanceAs (Decidable (∀ type ∈ schema.types.entries, ∀ name ∈ type.references, _))

deriving instance DecidableEq for TypeTable, Schema

/-! ## Definitions by their names -/

theorem NamedType.mem_of_field? {type : NamedType} {name : String} {field : Field}
    (found : type.field? name = some field) : field ∈ type.fields ∧ field.name = name := by
  rw [field?] at found
  exact ⟨List.mem_of_find?_eq_some found, by simpa using List.find?_some found⟩

theorem Field.mem_of_argument? {field : Field} {name : String} {argument : InputValue}
    (found : field.argument? name = some argument) :
    argument ∈ field.args ∧ argument.name = name := by
  rw [argument?] at found
  exact ⟨List.mem_of_find?_eq_some found, by simpa using List.find?_some found⟩

namespace Schema

variable (schema : Schema) (name field argument : String)

theorem type_definition :
    schema.definition? name none none = (schema.type? name).map .type := by
  unfold definition?
  cases schema.type? name <;> rfl

theorem field_definition : schema.definition? name (some field) none =
    (schema.type? name).bind fun type => (type.field? field).map .field := by
  unfold definition?
  cases schema.type? name <;> rfl

theorem argument_definition : schema.definition? name (some field) (some argument) =
    (schema.type? name).bind fun type =>
      ((type.field? field).bind (·.argument? argument)).map .argument := by
  unfold definition?
  cases schema.type? name <;> rfl

end Schema
end SchemaGuide
