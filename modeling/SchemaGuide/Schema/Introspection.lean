import SchemaGuide.Json.Parser
import SchemaGuide.Json.Record
import SchemaGuide.Schema.Graph

/-! Introspection results. A result is decoded as it is laid out, and the decoded layout is
then turned into a schema. Members whose type reference is malformed are dropped there,
each by itself, and nothing else is. -/
namespace SchemaGuide.Introspection

open Json (Record)

/-- The kinds that a result names: those of named types and the two wrappers. -/
inductive Kind where
  | of (kind : TypeKind)
  | list
  | nonNull
deriving DecidableEq, Repr

/-- The kind of that name. -/
def Kind.ofName? (name : String) : Option Kind :=
  if name = "SCALAR" then some (.of .scalar)
  else if name = "OBJECT" then some (.of .object)
  else if name = "INTERFACE" then some (.of .interface)
  else if name = "UNION" then some (.of .union)
  else if name = "ENUM" then some (.of .enum)
  else if name = "INPUT_OBJECT" then some (.of .inputObject)
  else if name = "LIST" then some .list
  else if name = "NON_NULL" then some .nonNull
  else none

/-- A kind is its name, or an object whose only member has that name and no value. -/
def Kind.decode? : Nat → Json → Option Kind
  | _, .string (some name) => Kind.ofName? name
  | _ + 1, .object [(some name, .null)] => Kind.ofName? name
  | _, _ => none

/-- A type reference as it is laid out. -/
inductive Reference where
  | mk (kind : Kind) (name : Option String) (ofType : Option Reference)

/-- The name that a reference carries. -/
def Reference.name : Reference → Option String
  | .mk _ name _ => name

/-- Reads a type reference. -/
def Reference.decode? : Nat → Json → Option Reference
  | 0, _ => none
  | depth + 1, value => do
    let record ← value.record? ["kind", "name", "ofType"]
    let kind ← record.required "kind" (Kind.decode? depth)
    let name ← record.optional "name" Json.text?
    let ofType ← record.optional "ofType" (Reference.decode? depth)
    some (.mk kind name ofType)

/-- The type that a reference stands for: wrappers around a name. `none` where a wrapper
wraps nothing or a named kind has no name. -/
def Reference.type? : Reference → Option TypeRef
  | .mk .nonNull _ (some inner) => inner.type?.map .nonNull
  | .mk .list _ (some inner) => inner.type?.map .list
  | .mk (.of _) name _ => name.map .named
  | .mk _ _ none => none

/-- An argument or input field as it is laid out. -/
structure RawInputValue where
  name : String
  description : Option String
  type : Reference
  defaultValue : Option String
  isDeprecated : Bool
  deprecationReason : Option String

/-- Reads an argument or an input field. -/
def RawInputValue.decode? : Nat → Json → Option RawInputValue
  | 0, _ => none
  | depth + 1, value => do
    let record ← value.record?
      ["name", "description", "type", "defaultValue", "isDeprecated", "deprecationReason"]
    some {
      name := ← record.required "name" Json.text?
      description := ← record.optional "description" Json.text?
      type := ← record.required "type" (Reference.decode? depth)
      defaultValue := ← record.optional "defaultValue" Json.text?
      isDeprecated := ← record.defaulted "isDeprecated" Json.bool? false
      deprecationReason := ← record.optional "deprecationReason" Json.text? }

/-- A field as it is laid out. -/
structure RawField where
  name : String
  description : Option String
  args : List RawInputValue
  type : Reference
  isDeprecated : Bool
  deprecationReason : Option String

/-- Reads a field. -/
def RawField.decode? : Nat → Json → Option RawField
  | 0, _ => none
  | depth + 1, value => do
    let record ← value.record?
      ["name", "description", "args", "type", "isDeprecated", "deprecationReason"]
    some {
      name := ← record.required "name" Json.text?
      description := ← record.optional "description" Json.text?
      args := ← record.defaulted "args" (Json.list? RawInputValue.decode? depth) []
      type := ← record.required "type" (Reference.decode? depth)
      isDeprecated := ← record.defaulted "isDeprecated" Json.bool? false
      deprecationReason := ← record.optional "deprecationReason" Json.text? }

/-- An enum value as it is laid out. -/
structure RawEnumValue where
  name : String
  description : Option String
  isDeprecated : Bool
  deprecationReason : Option String

/-- Reads an enum value. -/
def RawEnumValue.decode? : Nat → Json → Option RawEnumValue
  | 0, _ => none
  | _ + 1, value => do
    let record ← value.record? ["name", "description", "isDeprecated", "deprecationReason"]
    some {
      name := ← record.required "name" Json.text?
      description := ← record.optional "description" Json.text?
      isDeprecated := ← record.defaulted "isDeprecated" Json.bool? false
      deprecationReason := ← record.optional "deprecationReason" Json.text? }

/-- A named type as it is laid out. -/
structure RawType where
  kind : Kind
  name : Option String
  description : Option String
  fields : Option (List RawField)
  inputFields : Option (List RawInputValue)
  interfaces : Option (List Reference)
  enumValues : Option (List RawEnumValue)
  possibleTypes : Option (List Reference)

/-- Reads a named type. -/
def RawType.decode? : Nat → Json → Option RawType
  | 0, _ => none
  | depth + 1, value => do
    let record ← value.record?
      ["kind", "name", "description", "fields", "inputFields", "interfaces", "enumValues",
        "possibleTypes"]
    some {
      kind := ← record.required "kind" (Kind.decode? depth)
      name := ← record.optional "name" Json.text?
      description := ← record.optional "description" Json.text?
      fields := ← record.optional "fields" (Json.list? RawField.decode? depth)
      inputFields := ← record.optional "inputFields" (Json.list? RawInputValue.decode? depth)
      interfaces := ← record.optional "interfaces" (Json.list? Reference.decode? depth)
      enumValues := ← record.optional "enumValues" (Json.list? RawEnumValue.decode? depth)
      possibleTypes := ← record.optional "possibleTypes" (Json.list? Reference.decode? depth) }

/-- Reads an object of which only the name counts. -/
def decodeName? : Nat → Json → Option String
  | 0, _ => none
  | _ + 1, value => do (← value.record? ["name"]).required "name" Json.text?

/-- A schema as it is laid out. -/
structure RawSchema where
  description : Option String
  queryType : Option String
  mutationType : Option String
  subscriptionType : Option String
  types : List RawType

/-- Reads a schema. -/
def RawSchema.decode? : Nat → Json → Option RawSchema
  | 0, _ => none
  | depth + 1, value => do
    let record ← value.record?
      ["description", "queryType", "mutationType", "subscriptionType", "types"]
    some {
      description := ← record.optional "description" Json.text?
      queryType := ← record.optional "queryType" (decodeName? depth)
      mutationType := ← record.optional "mutationType" (decodeName? depth)
      subscriptionType := ← record.optional "subscriptionType" (decodeName? depth)
      types := ← record.defaulted "types" (Json.list? RawType.decode? depth) [] }

/-- Reads an object that may carry a schema. -/
def decodeEnvelope? : Nat → Json → Option (Option RawSchema)
  | 0, _ => none
  | depth + 1, value => do
    (← value.record? ["__schema"]).optional "__schema" (RawSchema.decode? depth)

/-- Reads an error report of a server. -/
def decodeReport? : Nat → Json → Option String
  | 0, _ => none
  | _ + 1, value => do (← value.record? ["message"]).required "message" Json.text?

/-- A whole introspection result as it is laid out. -/
structure Response where
  data : Option (Option RawSchema)
  schema : Option RawSchema
  errors : Option (List String)

/-- How many levels of nesting a result may have. -/
def maxDepth : Nat := 127

/-- Reads an introspection result. -/
def Response.decode? : Nat → Json → Option Response
  | 0, _ => none
  | depth + 1, value => do
    let record ← value.record? ["data", "__schema", "errors"]
    some {
      data := ← record.optional "data" (decodeEnvelope? depth)
      schema := ← record.optional "__schema" (RawSchema.decode? depth)
      errors := ← record.optional "errors" (Json.list? decodeReport? depth) }

/-- The reason that is given for a member deprecated without one. -/
def defaultDeprecation : String := "No longer supported"

/-- A member is deprecated if it gives a reason that is not empty, or says so. -/
def deprecation (isDeprecated : Bool) (reason : Option String) : Option String :=
  match reason.filter (!·.isEmpty) with
  | some reason => some reason
  | none => if isDeprecated then some defaultDeprecation else none

/-- The argument or input field, unless its type is malformed. -/
def RawInputValue.value? (raw : RawInputValue) : Option InputValue :=
  raw.type.type?.map fun type => {
    name := raw.name
    type := type
    description := raw.description
    default := raw.defaultValue
    deprecation := deprecation raw.isDeprecated raw.deprecationReason }

/-- The field, unless its type is malformed. -/
def RawField.field? (raw : RawField) : Option Field :=
  raw.type.type?.map fun type => {
    name := raw.name
    type := type
    description := raw.description
    deprecation := deprecation raw.isDeprecated raw.deprecationReason
    args := raw.args.filterMap (·.value?) }

/-- The enum value. -/
def RawEnumValue.value (raw : RawEnumValue) : EnumValue where
  name := raw.name
  description := raw.description
  deprecation := deprecation raw.isDeprecated raw.deprecationReason

/-- The named type, unless the entry is a wrapper or has no name. -/
def RawType.type? (raw : RawType) : Option NamedType :=
  match raw.kind, raw.name with
  | .of kind, some name => some {
      name := name
      kind := kind
      description := raw.description
      fields := (raw.fields.getD []).filterMap (·.field?)
      inputFields := (raw.inputFields.getD []).filterMap (·.value?)
      enumValues := (raw.enumValues.getD []).map (·.value)
      interfaces := (raw.interfaces.getD []).filterMap (·.name)
      possibleTypes := (raw.possibleTypes.getD []).filterMap (·.name) }
  | _, _ => none

/-- The schema that the layout describes. -/
def RawSchema.schema (raw : RawSchema) : Schema where
  description := raw.description
  query := raw.queryType
  mutation := raw.mutationType
  subscription := raw.subscriptionType
  types := .ofList (raw.types.filterMap (·.type?))

end Introspection

/-- Why a text yields no schema. -/
inductive IntrospectionError where
  /-- The text is not JSON, or not JSON of the expected layout. -/
  | notJson
  /-- The result carries no schema. -/
  | missingSchema
  /-- The result carries error reports instead of a schema. -/
  | reported (messages : List String)
deriving DecidableEq, Repr

/-- The error in words. For a text that is not JSON, one wording stands for all in which a reader of
JSON tells what is wrong and where. -/
def IntrospectionError.message : IntrospectionError → String
  | .notJson => "schema is not valid JSON: unexpected text or layout"
  | .missingSchema => "introspection result has no `__schema` object"
  | .reported messages =>
    "introspection result reported errors: " ++ "; ".intercalate messages

namespace Introspection

/-- The schema of a result. One inside `data` goes before one at the top. -/
def Response.schema? (response : Response) : Except IntrospectionError Schema :=
  match response.data.join, response.schema with
  | some raw, _ => .ok raw.schema
  | none, some raw => .ok raw.schema
  | none, none =>
    match response.errors with
    | some (first :: rest) => .error (.reported (first :: rest))
    | _ => .error .missingSchema

/-- The schema that a JSON value describes. -/
def decode (value : Json) : Except IntrospectionError Schema :=
  match Response.decode? maxDepth value with
  | some response => response.schema?
  | none => .error .notJson

/-- The schema that a text describes. -/
def parse (text : String) : Except IntrospectionError Schema :=
  match Json.parse? text with
  | some value => decode value
  | none => .error .notJson

end Introspection
end SchemaGuide
