import SchemaGuide.Schema.TypeRef

/-! The parts of a schema: named types with their fields, arguments, input fields and
enum values, and the definitions that a reader can open. -/
namespace SchemaGuide

/-- The kind of a named type. -/
inductive TypeKind where
  | scalar
  | object
  | interface
  | union
  | enum
  | inputObject
deriving DecidableEq, Repr

/-- The kind in lower case, as panels show it. -/
def TypeKind.label : TypeKind → String
  | .scalar => "scalar"
  | .object => "object"
  | .interface => "interface"
  | .union => "union"
  | .enum => "enum"
  | .inputObject => "input_object"

/-- An argument of a field, or a field of an input object. -/
structure InputValue where
  name : String
  type : TypeRef
  description : Option String
  /-- The default value as query text. -/
  default : Option String
  /-- The reason, if the value is deprecated. -/
  deprecation : Option String
deriving DecidableEq, Repr

/-- A field of an object or of an interface. -/
structure Field where
  name : String
  type : TypeRef
  description : Option String
  deprecation : Option String
  /-- The arguments in the order of their declaration. -/
  args : List InputValue
deriving DecidableEq, Repr

/-- The argument of that name, the first if there are several. -/
def Field.argument? (field : Field) (name : String) : Option InputValue :=
  field.args.find? (·.name == name)

/-- A value of an enum. -/
structure EnumValue where
  name : String
  description : Option String
  deprecation : Option String
deriving DecidableEq, Repr

/-- A type with a name of its own. -/
structure NamedType where
  name : String
  kind : TypeKind
  description : Option String
  fields : List Field
  inputFields : List InputValue
  enumValues : List EnumValue
  /-- The names of the interfaces that the type implements. -/
  interfaces : List String
  /-- The names of the concrete types behind a union or an interface. -/
  possibleTypes : List String
deriving DecidableEq, Repr

namespace NamedType

/-- The field of that name, the first if there are several. -/
def field? (type : NamedType) (name : String) : Option Field :=
  type.fields.find? (·.name == name)

/-- Whether the type has members that a reader can search by name. -/
def exposesFieldSet (type : NamedType) : Bool :=
  match type.kind with
  | .object | .interface => !type.fields.isEmpty
  | .inputObject => !type.inputFields.isEmpty
  | .scalar | .enum | .union => false

/-- Whether a query can select fields from the type. -/
def isComposite (type : NamedType) : Bool :=
  match type.kind with
  | .object | .interface | .union => true
  | .scalar | .enum | .inputObject => false

/-- Whether the name is reserved for the types that describe schemas themselves. -/
def isIntrospection (type : NamedType) : Bool :=
  match type.name.toList with
  | '_' :: '_' :: _ => true
  | _ => false

end NamedType

/-- What an entry of the browsing history points at. -/
inductive Definition where
  | type (declared : NamedType)
  | field (declared : Field)
  | argument (declared : InputValue)
deriving DecidableEq, Repr

/-- The name of the defined thing. -/
def Definition.name : Definition → String
  | .type declared => declared.name
  | .field declared => declared.name
  | .argument declared => declared.name

/-- The type, if the definition is one. -/
def Definition.asType? : Definition → Option NamedType
  | .type declared => some declared
  | .field _ | .argument _ => none

end SchemaGuide
