import SchemaGuide.Completion.Item
import SchemaGuide.Completion.Subject
import SchemaGuide.Query.Path
import SchemaGuide.Schema.Signature

/-! What is offered at a place in a query: the fields of the type that is selected from, or
the arguments of the field whose argument list is open. -/
namespace SchemaGuide.Completion

/-- The field that every composite type answers, whether it declares it or not. -/
def typenameField : String := "__typename"

/-- The tags of an item whose subject may be deprecated. -/
def tagsOf (deprecation : Option String) : Option (List Int) :=
  deprecation.map fun _ => [deprecatedTag]

/-- The item for a field of a type. -/
def fieldItem (type : NamedType) (field : Field) : Item :=
  { Item.ofLabel field.name with
    kind := some fieldKind
    detail := some field.signature
    tags := tagsOf field.deprecation
    data := some (Subject.toJson ⟨type.name, field.name, none⟩) }

/-- The item for the field that every composite type answers. -/
def typenameItem (type : NamedType) : Item :=
  { Item.ofLabel typenameField with
    kind := some fieldKind
    detail := some (typenameField ++ ": String!")
    documentation :=
      some (.plain ("The name of the current Object type at runtime (" ++ type.name ++ ").")) }

/-- The items for a selection from a type. -/
def fieldItems (type : NamedType) : List Item :=
  type.fields.map (fieldItem type) ++ if type.isComposite then [typenameItem type] else []

/-- The item for an argument of a field. -/
def argumentItem (type : NamedType) (field : Field) (argument : InputValue) : Item :=
  { Item.ofLabel argument.name with
    kind := some argumentKind
    detail := some argument.type.plain
    insertText := some (argument.name ++ ": ")
    filterText := some argument.name
    tags := tagsOf argument.deprecation
    data := some (Subject.toJson ⟨type.name, field.name, some argument.name⟩) }

/-- The items for the argument list of a field. -/
def argumentItems (type : NamedType) (field : Field) : List Item :=
  field.args.map (argumentItem type field)

/-- The items for what a query asks for. -/
def offer (schema : Schema) : Query.Context → List Item
  | .selection path =>
    match Query.followPath schema path with
    | some type => fieldItems type
    | none => []
  | .arguments path name =>
    match Query.followPath schema path with
    | none => []
    | some type =>
      match type.field? name with
      | some field => argumentItems type field
      | none => []

/-- The items at a byte of a query. -/
def offerAt (schema : Schema) (text : String) (offset : Nat) : List Item :=
  match Query.contextAt? text offset with
  | some context => offer schema context
  | none => []

end SchemaGuide.Completion
