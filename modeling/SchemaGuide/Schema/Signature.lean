import SchemaGuide.Html.Fragment
import SchemaGuide.Schema.Basic

/-! Signatures of types, arguments and fields. One notation serves plain text and markup;
in markup the type name is an element of its own, so that a reader can click on it. -/
namespace SchemaGuide

open Html (Node)

/-- The notation of a type as markup, with `leaf` for the name. -/
def TypeRef.markupWith (leaf : String → Node) (type : TypeRef) : List Node :=
  type.pieces .text leaf

/-- A type name that can be styled apart from the text around it. -/
def typeName (name : String) : Node :=
  .element .anchor [(.styleClass, "type-name")] [.text name]

/-- The notation of a type as markup. -/
def TypeRef.markup (type : TypeRef) : String :=
  Html.render (type.markupWith typeName)

/-- The notation of an argument in pieces: name, type and default value. -/
def InputValue.pieces {α : Type} (mark leaf : String → α) (value : InputValue) : List α :=
  [mark value.name, mark ": "] ++ value.type.pieces mark leaf ++
    match value.default with
    | some text => [mark " = ", mark text]
    | none => []

/-- The notation of an argument as plain text, such as `first: Int = 10`. -/
def InputValue.plain (value : InputValue) : String :=
  String.join (value.pieces id id)

/-- The notation of an argument with its type name as markup; name and default value are
query text and stay as they are. -/
def InputValue.markup (value : InputValue) : String :=
  Html.render (value.pieces .markup typeName)

/-- The signature of a field, such as `posts(first: Int = 10): [Post!]!`. -/
def Field.signature (field : Field) : String :=
  let arguments :=
    if field.args.isEmpty then ""
    else "(" ++ ", ".intercalate (field.args.map (·.plain)) ++ ")"
  field.name ++ arguments ++ ": " ++ field.type.plain

end SchemaGuide
