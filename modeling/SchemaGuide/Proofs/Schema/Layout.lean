import SchemaGuide.Proofs.Json.Record
import SchemaGuide.Schema.Introspection

/-! The standard layout of introspection results: which JSON values describe a schema. Types can
be listed in any order, what is optional can be missing or null, and keys that are no part of the
layout are free. A result says nothing of the order of its keys either. -/
namespace SchemaGuide

/-! ## References -/

/-- The kind in the layout. -/
def TypeKind.keyword : TypeKind → String
  | .scalar => "SCALAR"
  | .object => "OBJECT"
  | .interface => "INTERFACE"
  | .union => "UNION"
  | .enum => "ENUM"
  | .inputObject => "INPUT_OBJECT"

open Json

namespace TypeRef

/-- A reference: a name with some kind of its own, or a wrapper with what it wraps. -/
inductive LaidOut : Layout TypeRef where
  | named {levels : Nat} {name : String} {value : Json} (kind : TypeKind)
    (isRecord : value.IsRecord ["kind", "name", "ofType"])
    (givesKind : value.Gives "kind" (IsText kind.keyword))
    (givesName : value.Gives "name" (IsText name)) (inner : value.Lacks "ofType") :
    LaidOut (levels + 1) (.named name) value
  | list {levels : Nat} {inner : TypeRef} {value part : Json}
    (isRecord : value.IsRecord ["kind", "name", "ofType"])
    (givesKind : value.Gives "kind" (IsText "LIST")) (name : value.Lacks "name")
    (wraps : value.member? "ofType" = some part) (laidOut : LaidOut levels inner part) :
    LaidOut (levels + 1) (.list inner) value
  | nonNull {levels : Nat} {inner : TypeRef} {value part : Json}
    (isRecord : value.IsRecord ["kind", "name", "ofType"])
    (givesKind : value.Gives "kind" (IsText "NON_NULL")) (name : value.Lacks "name")
    (wraps : value.member? "ofType" = some part) (laidOut : LaidOut levels inner part) :
    LaidOut (levels + 1) (.nonNull inner) value

/-- A reference that is just a name. -/
def NameLaidOut : Layout String := fun levels name value =>
  LaidOut levels (.named name) value

end TypeRef

/-! ## Members of types -/

namespace Introspection

/-- What a record says of the deprecation of its subject. The reason can be left out where it
is the one that everybody gives. -/
inductive Deprecates (value : Json) : Option String → Prop where
  | no (flag : value.member? "isDeprecated" = none ∨
      value.member? "isDeprecated" = some (.bool false))
    (reason : value.Lacks "deprecationReason") : Deprecates value none
  | because {reason : String} (flag : value.member? "isDeprecated" = none ∨
      value.member? "isDeprecated" = some (.bool true))
    (given : value.Gives "deprecationReason" (IsText reason)) : Deprecates value (some reason)
  | standard (flag : value.member? "isDeprecated" = some (.bool true))
    (reason : value.Lacks "deprecationReason") : Deprecates value (some defaultDeprecation)

end Introspection

open Introspection (Deprecates)

/-- The parts of an argument or input field. -/
structure InputValue.Parts (levels : Nat) (input : InputValue) (value : Json) : Prop where
  isRecord : value.IsRecord
    ["name", "description", "type", "defaultValue", "isDeprecated", "deprecationReason"]
  name : value.Gives "name" (IsText input.name)
  description : value.MayGive "description" IsText input.description
  type : value.Gives "type" (TypeRef.LaidOut levels input.type)
  default : value.MayGive "defaultValue" IsText input.default
  deprecation : Deprecates value input.deprecation

/-- An argument or input field. -/
def InputValue.LaidOut : Layout InputValue := .Level Parts

/-- The parts of a field. -/
structure Field.Parts (levels : Nat) (field : Field) (value : Json) : Prop where
  isRecord : value.IsRecord
    ["name", "description", "args", "type", "isDeprecated", "deprecationReason"]
  name : value.Gives "name" (IsText field.name)
  description : value.MayGive "description" IsText field.description
  args : Layout.ListAt InputValue.LaidOut "args" levels field.args value
  type : value.Gives "type" (TypeRef.LaidOut levels field.type)
  deprecation : Deprecates value field.deprecation

/-- A field. -/
def Field.LaidOut : Layout Field := .Level Parts

/-- The parts of an enum value. -/
structure EnumValue.Parts (_levels : Nat) (enumValue : EnumValue) (value : Json) : Prop where
  isRecord : value.IsRecord ["name", "description", "isDeprecated", "deprecationReason"]
  name : value.Gives "name" (IsText enumValue.name)
  description : value.MayGive "description" IsText enumValue.description
  deprecation : Deprecates value enumValue.deprecation

/-- An enum value. -/
def EnumValue.LaidOut : Layout EnumValue := .Level Parts

/-! ## Types and schemas -/

/-- The parts of a named type. -/
structure NamedType.Parts (levels : Nat) (type : NamedType) (value : Json) : Prop where
  isRecord : value.IsRecord
    ["kind", "name", "description", "fields", "inputFields", "interfaces", "enumValues",
      "possibleTypes"]
  kind : value.Gives "kind" (IsText type.kind.keyword)
  name : value.Gives "name" (IsText type.name)
  description : value.MayGive "description" IsText type.description
  fields : Layout.MayListAt Field.LaidOut "fields" levels type.fields value
  inputFields : Layout.MayListAt InputValue.LaidOut "inputFields" levels type.inputFields value
  interfaces : Layout.MayListAt TypeRef.NameLaidOut "interfaces" levels type.interfaces value
  enumValues : Layout.MayListAt EnumValue.LaidOut "enumValues" levels type.enumValues value
  possibleTypes :
    Layout.MayListAt TypeRef.NameLaidOut "possibleTypes" levels type.possibleTypes value

/-- A named type. -/
def NamedType.LaidOut : Layout NamedType := .Level Parts

namespace Schema

/-- The type where operations of a kind start, of which only the name counts. -/
def RootLaidOut : Layout String :=
  .Level fun _ name value => value.IsRecord ["name"] ∧ value.Gives "name" (IsText name)

/-- The parts of a schema. The types can be listed in any order. -/
structure Parts (levels : Nat) (schema : Schema) (value : Json) : Prop where
  isRecord : value.IsRecord
    ["description", "queryType", "mutationType", "subscriptionType", "types"]
  description : value.MayGive "description" IsText schema.description
  query : value.MayGive "queryType" (RootLaidOut levels) schema.query
  mutation : value.MayGive "mutationType" (RootLaidOut levels) schema.mutation
  subscription : value.MayGive "subscriptionType" (RootLaidOut levels) schema.subscription
  types : ∃ listed : List NamedType, listed.Perm schema.types.entries ∧
    Layout.ListAt NamedType.LaidOut "types" levels listed value

/-- A schema. -/
def LaidOut : Layout Schema := .Level Parts

end Schema

/-! ## Results -/

namespace Introspection

/-- A record that can carry a schema. -/
def EnvelopeLaidOut : Layout (Option Schema) :=
  .Level fun levels carried value => value.IsRecord ["__schema"] ∧
    value.MayGive "__schema" (Schema.LaidOut levels) carried

/-- An error report of a server. -/
def ReportLaidOut : Layout String :=
  .Level fun _ message value => value.IsRecord ["message"] ∧
    value.Gives "message" (IsText message)

/-- The parts of a result. It carries the schema itself or inside `data`; if it carries a schema
in both places, then the one inside `data` counts. -/
structure ResultParts (levels : Nat) (schema : Schema) (value : Json) : Prop where
  isRecord : value.IsRecord ["data", "__schema", "errors"]
  carries : ∃ (data : Option (Option Schema)) (bare : Option Schema),
    value.MayGive "data" (EnvelopeLaidOut levels) data ∧
      value.MayGive "__schema" (Schema.LaidOut levels) bare ∧ data.join.or bare = some schema
  errors : ∃ messages : Option (List String),
    value.MayGive "errors" (Layout.ArrayOf ReportLaidOut levels) messages

/-- A result that carries the schema. -/
def ResultLaidOut : Layout Schema := .Level ResultParts

end Introspection

/-! ## Reasons -/

/-- No deprecation has the empty text for its reason. -/
def InputValue.Explained (input : InputValue) : Prop :=
  input.deprecation ≠ some ""

/-- No deprecation in the field has the empty text for its reason. -/
def Field.Explained (field : Field) : Prop :=
  field.deprecation ≠ some "" ∧ ∀ argument ∈ field.args, argument.Explained

/-- No deprecation has the empty text for its reason. -/
def EnumValue.Explained (value : EnumValue) : Prop :=
  value.deprecation ≠ some ""

/-- No deprecation in the type has the empty text for its reason. -/
def NamedType.Explained (type : NamedType) : Prop :=
  (∀ field ∈ type.fields, field.Explained) ∧ (∀ input ∈ type.inputFields, input.Explained) ∧
    ∀ value ∈ type.enumValues, value.Explained

/-- No deprecation in the schema has the empty text for its reason. -/
def Schema.Explained (schema : Schema) : Prop :=
  ∀ type ∈ schema.types.entries, type.Explained

end SchemaGuide
