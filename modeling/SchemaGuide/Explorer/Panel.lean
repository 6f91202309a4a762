import SchemaGuide.Explorer.Search
import SchemaGuide.Explorer.View
import SchemaGuide.Markdown.Render
import SchemaGuide.Schema.Signature

/-! Panels: a view as a title bar, a search box and a body of markup. Names of types and
fields in the body are links that carry what they lead to. Every name, value and message
is text of the body's tree, so it is escaped when the body is written. -/
namespace SchemaGuide.Explorer

open Html (Node div span intersperse)

/-- The box to search in. -/
structure SearchBox where
  placeholder : String
  value : String
deriving DecidableEq

/-- A view, ready to be shown. -/
structure Panel where
  backLabel : Option String
  title : String
  /-- Markup that the owner of the explorer puts behind the title. -/
  trailing : Option String
  search : Option SearchBox
  mode : String
  body : List Node

/-- The markup of the body. -/
def Panel.content (panel : Panel) : String :=
  Html.render panel.body

/-- What a panel is made with, apart from the view. -/
structure Presentation where
  schema : Option Schema
  text : TextRenderer
  matcher : Matcher
  searchLimit : Nat
  trailing : Option String

/-! ## Parts of the body -/

/-- A link to a type. -/
def typeLink (name : String) : Node :=
  .element .anchor [(.styleClass, "type-name"), (.dataType, name)] [.text name]

/-- A link to a field of a type. -/
def fieldLink (owner field : String) : Node :=
  .element .anchor [(.styleClass, "field-name"), (.dataType, owner), (.dataField, field)]
    [.text field]

/-- A type in its notation, its name a link. -/
def linkedType (type : TypeRef) : List Node :=
  type.markupWith typeLink

/-- A part of the body under a title of its own. -/
def titledSection (title : String) (body : List Node) : Node :=
  div "doc-section" (div "doc-section-title" [.text title] :: body)

/-- A part of the body under a title, if there is anything to show. -/
def sectionOfSome (title : String) (body : List Node) : List Node :=
  if body.isEmpty then [] else [titledSection title body]

/-- A description; an empty one is not shown. -/
def describe (renderer : TextRenderer) (text : Option String) : List Node :=
  match text.filter fun text => !text.isEmpty with
  | some text => [div "doc-description" [.markup (renderer text)]]
  | none => []

/-- The note that something is deprecated. -/
def deprecationNote (renderer : TextRenderer) (reason : Option String) : List Node :=
  match reason with
  | some reason =>
    [div "doc-deprecation"
      [span "deprecation-label" [.text "Deprecated"], .markup (renderer reason)]]
  | none => []

/-- An argument or input field with its type and default value. -/
def argumentSpan (argument : InputValue) : Node :=
  span "arg"
    (span "arg-name" [.text argument.name] :: .text ": " :: linkedType argument.type ++
      match argument.default with
      | some value => [.text " = ", .text value]
      | none => [])

/-- Arguments in a row. -/
def argumentRow (args : List InputValue) : List Node :=
  intersperse (.text ", ") (args.map fun arg => [argumentSpan arg])

/-- Arguments in parentheses, if there are any. -/
def argumentList (args : List InputValue) : List Node :=
  if args.isEmpty then [] else .text "(" :: argumentRow args ++ [.text ")"]

/-- A field with its arguments and its type. -/
def fieldLine (owner : String) (field : Field) : Node :=
  div "doc-field"
    (fieldLink owner field.name :: argumentList field.args ++ .text ": " :: linkedType field.type)

/-- An input field. -/
def inputLine (input : InputValue) : Node :=
  div "doc-field" [argumentSpan input]

/-- A type by its name. -/
def typeLine (name : String) : Node :=
  div "doc-type" [typeLink name]

/-- An enum value with its description. -/
def enumValueLine (renderer : TextRenderer) (value : EnumValue) : Node :=
  div "doc-enum-value"
    (span "enum-value" [.text value.name] ::
      describe renderer value.description ++ deprecationNote renderer value.deprecation)

/-- An argument with its description. -/
def argumentLine (renderer : TextRenderer) (argument : InputValue) : Node :=
  div "doc-arg"
    (argumentSpan argument ::
      describe renderer argument.description ++ deprecationNote renderer argument.deprecation)

/-! ## Bodies -/

/-- The body for errors. -/
def errorBody (messages : List String) : List Node :=
  [div "error-container" (messages.map fun message => div "error" [.text message])]

/-- The body while the schema is on its way. -/
def spinnerBody : List Node :=
  [div "spinner-container" [div "spinner" []]]

/-- The body where there is no schema. -/
def noSchemaBody : List Node :=
  [div "no-schema" [.text "No schema available"]]

/-- The description of a schema that has none. -/
def defaultSchemaDescription : String :=
  "A GraphQL schema provides a root type for each kind of operation."

/-- The body for a whole schema. -/
def schemaBody (renderer : TextRenderer) (schema : Schema) : List Node :=
  describe renderer (some (schema.description.getD defaultSchemaDescription)) ++
    [titledSection "Root Types" (schema.rootTypes.map fun root =>
        div "doc-root" [span "keyword" [.text root.1], .text ": ", typeLink root.2.name]),
      titledSection "All Schema Types" (schema.userTypes.map fun type => typeLine type.name)]

/-- The title over the concrete types behind a type. -/
def possibleTypesTitle : TypeKind → String
  | .interface => "Implementations"
  | _ => "Possible Types"

/-- The body for a type. Members that are deprecated stand apart from the others. -/
def typeBody (renderer : TextRenderer) (type : NamedType) : List Node :=
  let (deprecatedFields, fields) := type.fields.partition (·.deprecation.isSome)
  let (deprecatedValues, values) := type.enumValues.partition (·.deprecation.isSome)
  div "doc-kind" [.text type.kind.label] :: describe renderer type.description ++
    sectionOfSome "Implements"
      (intersperse (.text ", ") (type.interfaces.map fun name => [typeLink name])) ++
    sectionOfSome "Fields" (fields.map (fieldLine type.name)) ++
    sectionOfSome "Deprecated Fields" (deprecatedFields.map (fieldLine type.name)) ++
    sectionOfSome "Fields" (type.inputFields.map inputLine) ++
    sectionOfSome "Enum Values" (values.map (enumValueLine renderer)) ++
    sectionOfSome "Deprecated Enum Values" (deprecatedValues.map (enumValueLine renderer)) ++
    sectionOfSome (possibleTypesTitle type.kind) (type.possibleTypes.map typeLine)

/-- The body for a field or an argument. -/
def memberBody (renderer : TextRenderer) : Option Definition → List Node
  | some (.field field) =>
    describe renderer field.description ++ deprecationNote renderer field.deprecation ++
      titledSection "Type" (linkedType field.type) ::
      sectionOfSome "Arguments" (field.args.map (argumentLine renderer))
  | some (.argument argument) =>
    describe renderer argument.description ++ deprecationNote renderer argument.deprecation ++
      titledSection "Type" (linkedType argument.type) ::
      match argument.default with
      | some value => [titledSection "Default Value" [.element .code [] [.text value]]]
      | none => []
  | some (.type type) => [titledSection "Type" [typeLink type.name]]
  | none => []

/-- The owner in front of a match, unless all matches have the same one. -/
def ownerMark (oneOwner : Bool) (owner : NamedType) : List Node :=
  if oneOwner then [] else [typeLink owner.name, .text "."]

/-- A field that was found. -/
def fieldMatchLine (oneOwner : Bool) (found : FieldMatch) : Node :=
  div "doc-field"
    (ownerMark oneOwner found.owner ++ fieldLink found.owner.name found.field.name ::
      argumentList found.args)

/-- An input field that was found. -/
def inputMatchLine (oneOwner : Bool) (found : InputMatch) : Node :=
  div "doc-field" (ownerMark oneOwner found.owner ++ [argumentSpan found.input])

/-- The body for what a search found. -/
def searchBody (results : SearchResults) (term : String) (oneOwner : Bool) : List Node :=
  if results.isEmpty then
    [div "search-empty" [.text "No results found for ", .element .strong [] [.text term]]]
  else
    sectionOfSome "Types" (results.types.map fun type => typeLine type.name) ++
      sectionOfSome "Fields" (results.fields.map (fieldMatchLine oneOwner)) ++
      sectionOfSome "Arguments" (results.arguments.map (fieldMatchLine oneOwner)) ++
      sectionOfSome "Input Fields" (results.inputFields.map (inputMatchLine oneOwner))

/-! ## Panels -/

/-- The words in an empty search box. -/
def searchPlaceholder : Mode → String
  | .typeDetail type => "Search " ++ type.name ++ "..."
  | .searchResults _ (some scope) => "Search " ++ scope.name ++ "..."
  | _ => "Search Schema..."

/-- The term in a search box. -/
def searchValue : Mode → String
  | .searchResults term _ => term
  | _ => ""

/-- The body for a mode. -/
def Mode.body (presentation : Presentation) : Mode → List Node
  | .errors messages => errorBody messages
  | .spinner => spinnerBody
  | .noSchema => noSchemaBody
  | .searchResults term scope =>
    match presentation.schema with
    | some schema =>
      searchBody (search presentation.matcher presentation.searchLimit schema term scope) term
        scope.isSome
    | none => []
  | .schemaRoot =>
    match presentation.schema with
    | some schema => schemaBody presentation.text schema
    | none => []
  | .typeDetail type => typeBody presentation.text type
  | .memberDetail definition => memberBody presentation.text definition

/-- The panel of a view. -/
def View.panel (presentation : Presentation) (view : View) : Panel where
  backLabel := view.backLabel
  title := view.title
  trailing := presentation.trailing
  search :=
    if view.showsSearch then some ⟨searchPlaceholder view.mode, searchValue view.mode⟩ else none
  mode := view.mode.name
  body := view.mode.body presentation

end SchemaGuide.Explorer
