import SchemaGuide.Explorer.Panel
import SchemaGuide.Proofs.Explorer.Search

/-! What panels are made of. A panel has words and styles of its own; everything else in it is
a text, a link or a description of what it shows. A policy says which of these are admitted.
If it covers what a view shows, it admits the body of the panel, in every mode and for every
schema. -/
namespace SchemaGuide.Explorer

open Html (AttributeName Node Tag div span intersperse)

/-- The words that panels bring themselves. -/
def panelWords : List String :=
  ["Deprecated", ": ", " = ", ", ", "(", ")", "[", "]", "!", ".", "No schema available",
    "No results found for ", "Root Types", "All Schema Types", "Implements", "Fields",
    "Deprecated Fields", "Enum Values", "Deprecated Enum Values", "Implementations",
    "Possible Types", "Type", "Types", "Arguments", "Input Fields", "Default Value", "query",
    "mutation", "subscription", "scalar", "object", "interface", "union", "enum", "input_object"]

/-- The style classes of panels. -/
def panelStyles : List String :=
  ["doc-section", "doc-section-title", "doc-description", "doc-deprecation", "deprecation-label",
    "arg", "arg-name", "doc-field", "doc-type", "enum-value", "doc-enum-value", "doc-arg", "error",
    "error-container", "spinner", "spinner-container", "no-schema", "keyword", "doc-root",
    "doc-kind", "search-empty", "type-name", "field-name"]

/-- What a panel may show beside its own words. A link is labelled by what it leads to. -/
structure Policy where
  text : String → Prop
  typeLink : String → Prop
  /-- Links to a field of an owner. -/
  fieldLink : String → String → Prop
  /-- Descriptions and reasons, which a text renderer puts into markup. -/
  rendered : String → Prop
  typeLabel : ∀ {name}, typeLink name → text name
  fieldLabel : ∀ {owner field}, fieldLink owner field → text field

namespace Policy

/-- The attributes that an element may have. -/
inductive Allows (policy : Policy) : List (AttributeName × String) → Prop where
  | unmarked : Allows policy []
  | styled {style : String} (known : style ∈ panelStyles) : Allows policy [(.styleClass, style)]
  | typeLink {name : String} (leads : policy.typeLink name) :
    Allows policy [(.styleClass, "type-name"), (.dataType, name)]
  | fieldLink {owner field : String} (leads : policy.fieldLink owner field) :
    Allows policy [(.styleClass, "field-name"), (.dataType, owner), (.dataField, field)]

/-- The fragment shows nothing but what is admitted. -/
inductive Admits (policy : Policy) (renderer : TextRenderer) : List Node → Prop where
  | nil : Admits policy renderer []
  | text {content : String} {rest : List Node} (known : content ∈ panelWords ∨ policy.text content)
    (later : Admits policy renderer rest) : Admits policy renderer (.text content :: rest)
  | markup {source : String} {rest : List Node} (known : policy.rendered source)
    (later : Admits policy renderer rest) :
    Admits policy renderer (.markup (renderer source) :: rest)
  | element {tag : Tag} {attributes : List (AttributeName × String)} {children rest : List Node}
    (allowed : policy.Allows attributes) (inside : Admits policy renderer children)
    (later : Admits policy renderer rest) :
    Admits policy renderer (.element tag attributes children :: rest)

variable {policy : Policy} {renderer : TextRenderer}

namespace Admits

theorem append {nodes more : List Node} (one : policy.Admits renderer nodes)
    (two : policy.Admits renderer more) : policy.Admits renderer (nodes ++ more) := by
  induction one with
  | nil => exact two
  | text known _ ih => exact .text known ih
  | markup known _ ih => exact .markup known ih
  | element allowed inside _ _ ih => exact .element allowed inside ih

theorem cons {node : Node} {rest : List Node} (one : policy.Admits renderer [node])
    (later : policy.Admits renderer rest) : policy.Admits renderer (node :: rest) :=
  one.append later

theorem map {α : Type} {items : List α} {line : α → Node}
    (all : ∀ item ∈ items, policy.Admits renderer [line item]) :
    policy.Admits renderer (items.map line) := by
  induction items with
  | nil => exact .nil
  | cons item rest ih =>
    exact (all item List.mem_cons_self).append
      (ih fun other member => all other (List.mem_cons_of_mem _ member))

theorem intersperse {α : Type} {items : List α} {fragment : α → List Node} {separator : Node}
    (between : policy.Admits renderer [separator])
    (all : ∀ item ∈ items, policy.Admits renderer (fragment item)) :
    policy.Admits renderer (Html.intersperse separator (items.map fragment)) := by
  induction items with
  | nil => exact .nil
  | cons item rest ih =>
    have first := all item List.mem_cons_self
    have later := ih fun other member => all other (List.mem_cons_of_mem _ member)
    cases rest with
    | nil => exact first
    | cons next rest => exact first.append (between.append later)

/-- A word of panels. -/
theorem word {content : String} (known : content ∈ panelWords) :
    policy.Admits renderer [.text content] :=
  .text (.inl known) .nil

/-- A text that the policy admits. -/
theorem shown {content : String} (known : policy.text content) :
    policy.Admits renderer [.text content] :=
  .text (.inr known) .nil

/-- An element with a style class of panels. -/
theorem styled {tag : Tag} {style : String} {children : List Node} (known : style ∈ panelStyles)
    (inside : policy.Admits renderer children) :
    policy.Admits renderer [.element tag [(.styleClass, style)] children] :=
  .element (.styled known) inside .nil

/-! ## Parts of the body -/

theorem typeLink {name : String} (leads : policy.typeLink name) :
    policy.Admits renderer [Explorer.typeLink name] := by
  apply element (.typeLink leads) _ .nil
  exact shown (policy.typeLabel leads)

theorem fieldLink {owner field : String} (leads : policy.fieldLink owner field) :
    policy.Admits renderer [Explorer.fieldLink owner field] := by
  apply element (.fieldLink leads) _ .nil
  exact shown (policy.fieldLabel leads)

theorem linkedType {type : TypeRef} (leads : policy.typeLink type.namedType) :
    policy.Admits renderer (Explorer.linkedType type) := by
  induction type with
  | named name => exact typeLink leads
  | list inner ih => exact (cons (word (by decide)) (ih leads)).append (word (by decide))
  | nonNull inner ih => exact (ih leads).append (word (by decide))

theorem titledSection {title : String} {body : List Node} (known : title ∈ panelWords)
    (inside : policy.Admits renderer body) :
    policy.Admits renderer [Explorer.titledSection title body] := by
  refine styled (by decide) ?_
  apply cons _ inside
  exact styled (by decide) (word known)

theorem sectionOfSome {title : String} {body : List Node} (known : title ∈ panelWords)
    (inside : policy.Admits renderer body) :
    policy.Admits renderer (Explorer.sectionOfSome title body) := by
  unfold Explorer.sectionOfSome
  split
  · exact .nil
  · exact titledSection known inside

theorem describe {text : Option String} (known : ∀ source ∈ text, policy.rendered source) :
    policy.Admits renderer (Explorer.describe renderer text) := by
  unfold Explorer.describe
  split
  · rename_i source kept
    have given : text = some source := (Option.filter_eq_some_iff.1 kept).1
    exact styled (by decide) (.markup (known source given) .nil)
  · exact .nil

theorem deprecationNote {reason : Option String}
    (known : ∀ source ∈ reason, policy.rendered source) :
    policy.Admits renderer (Explorer.deprecationNote renderer reason) := by
  cases reason with
  | none => exact .nil
  | some source =>
    refine styled (by decide) ?_
    apply cons (styled (by decide) (word (by decide)))
    exact .markup (known source rfl) .nil

/-- The description of something, and the note if it is deprecated. -/
theorem notes {text reason : Option String} (description : ∀ source ∈ text, policy.rendered source)
    (deprecation : ∀ source ∈ reason, policy.rendered source) : policy.Admits renderer
      (Explorer.describe renderer text ++ Explorer.deprecationNote renderer reason) :=
  (describe description).append (deprecationNote deprecation)

end Admits

/-! ## What is shown -/

/-- An argument or input field may be shown. -/
structure CoversInput (policy : Policy) (input : InputValue) : Prop where
  name : policy.text input.name
  type : policy.typeLink input.type.namedType
  default : ∀ value ∈ input.default, policy.text value
  description : ∀ source ∈ input.description, policy.rendered source
  deprecation : ∀ source ∈ input.deprecation, policy.rendered source

/-- A field may be shown. -/
structure CoversField (policy : Policy) (field : Field) : Prop where
  type : policy.typeLink field.type.namedType
  args : ∀ arg ∈ field.args, policy.CoversInput arg
  description : ∀ source ∈ field.description, policy.rendered source
  deprecation : ∀ source ∈ field.deprecation, policy.rendered source

/-- An enum value may be shown. -/
structure CoversEnumValue (policy : Policy) (value : EnumValue) : Prop where
  name : policy.text value.name
  description : ∀ source ∈ value.description, policy.rendered source
  deprecation : ∀ source ∈ value.deprecation, policy.rendered source

/-- A type may be shown, with links to it and to its fields. -/
structure CoversType (policy : Policy) (type : NamedType) : Prop where
  name : policy.typeLink type.name
  links : ∀ field ∈ type.fields, policy.fieldLink type.name field.name
  fields : ∀ field ∈ type.fields, policy.CoversField field
  inputFields : ∀ input ∈ type.inputFields, policy.CoversInput input
  enumValues : ∀ value ∈ type.enumValues, policy.CoversEnumValue value
  interfaces : ∀ name ∈ type.interfaces, policy.typeLink name
  possibleTypes : ∀ name ∈ type.possibleTypes, policy.typeLink name
  description : ∀ source ∈ type.description, policy.rendered source

/-- A definition may be shown. -/
def CoversDefinition (policy : Policy) : Definition → Prop
  | .type declared => policy.CoversType declared
  | .field declared => policy.CoversField declared
  | .argument declared => policy.CoversInput declared

/-- A schema may be shown. -/
structure CoversSchema (policy : Policy) (schema : Schema) : Prop where
  description : policy.rendered (schema.description.getD defaultSchemaDescription)
  types : ∀ type ∈ schema.types.entries, policy.CoversType type

/-- What a mode carries may be shown. -/
def CoversMode (policy : Policy) : Mode → Prop
  | .errors messages => ∀ message ∈ messages, policy.text message
  | .spinner | .noSchema | .schemaRoot => True
  | .searchResults term scope =>
    policy.text term ∧ ∀ definition ∈ scope, policy.CoversDefinition definition
  | .typeDetail type => policy.CoversType type
  | .memberDetail definition => ∀ shown ∈ definition, policy.CoversDefinition shown

namespace Admits

theorem argumentSpan {input : InputValue} (covered : policy.CoversInput input) :
    policy.Admits renderer [Explorer.argumentSpan input] := by
  refine styled (by decide) ?_
  apply cons (styled (by decide) (shown covered.name))
  apply cons (word (by decide))
  apply append (linkedType covered.type)
  cases given : input.default with
  | none => exact .nil
  | some value => exact cons (word (by decide)) (shown (covered.default value given))

theorem argumentList {args : List InputValue} (covered : ∀ arg ∈ args, policy.CoversInput arg) :
    policy.Admits renderer (Explorer.argumentList args) := by
  unfold Explorer.argumentList
  split
  · exact .nil
  · have row : policy.Admits renderer (argumentRow args) :=
      intersperse (word (by decide)) fun arg member => argumentSpan (covered arg member)
    exact (cons (word (by decide)) row).append (word (by decide))

theorem fieldLine {owner : String} {field : Field} (link : policy.fieldLink owner field.name)
    (covered : policy.CoversField field) :
    policy.Admits renderer [Explorer.fieldLine owner field] := by
  refine styled (by decide) ?_
  apply append
  · exact (fieldLink link).cons (argumentList covered.args)
  · exact cons (word (by decide)) (linkedType covered.type)

theorem inputLine {input : InputValue} (covered : policy.CoversInput input) :
    policy.Admits renderer [Explorer.inputLine input] := by
  refine styled (by decide) ?_
  exact argumentSpan covered

theorem typeLine {name : String} (leads : policy.typeLink name) :
    policy.Admits renderer [Explorer.typeLine name] := by
  refine styled (by decide) ?_
  exact typeLink leads

theorem enumValueLine {value : EnumValue} (covered : policy.CoversEnumValue value) :
    policy.Admits renderer [Explorer.enumValueLine renderer value] := by
  refine styled (by decide) ?_
  apply cons (styled (by decide) (shown covered.name))
  exact notes covered.description covered.deprecation

theorem argumentLine {input : InputValue} (covered : policy.CoversInput input) :
    policy.Admits renderer [Explorer.argumentLine renderer input] := by
  refine styled (by decide) ?_
  apply cons (argumentSpan covered)
  exact notes covered.description covered.deprecation

/-! ## Bodies -/

theorem errorBody {messages : List String} (known : ∀ message ∈ messages, policy.text message) :
    policy.Admits renderer (Explorer.errorBody messages) := by
  refine styled (by decide) ?_
  apply map
  intro message member
  exact styled (by decide) (shown (known message member))

theorem schemaBody {schema : Schema} (covered : policy.CoversSchema schema) :
    policy.Admits renderer (Explorer.schemaBody renderer schema) := by
  apply append
  · apply describe
    intro source given
    obtain rfl := Option.some.inj given
    exact covered.description
  apply cons
  · refine titledSection (by decide) ?_
    apply map
    intro root member
    obtain ⟨keyword, known, found⟩ := List.mem_filterMap.1 member
    obtain ⟨type, rooted, rfl⟩ := Option.map_eq_some_iff.1 found
    obtain ⟨name, _, named⟩ := Option.bind_eq_some_iff.1 rooted
    have listed : type ∈ schema.types.entries := List.mem_of_find?_eq_some named
    have keywords : keyword ∈ panelWords := by
      simp only [List.mem_cons, List.not_mem_nil, or_false] at known
      rcases known with rfl | rfl | rfl <;> simp [panelWords]
    refine styled (by decide) ?_
    apply cons (styled (by decide) (word keywords))
    apply cons (word (by decide))
    exact typeLink (covered.types type listed).name
  · refine titledSection (by decide) ?_
    apply map
    intro type member
    exact typeLine (covered.types type (List.mem_filter.1 member).1).name

theorem typeBody {type : NamedType} (covered : policy.CoversType type) :
    policy.Admits renderer (Explorer.typeBody renderer type) := by
  have kind : policy.Admits renderer [div "doc-kind" [.text type.kind.label]] := by
    have known : type.kind.label ∈ panelWords := by
      cases type.kind <;> simp [panelWords, TypeKind.label]
    exact styled (by decide) (word known)
  have title : possibleTypesTitle type.kind ∈ panelWords := by
    cases type.kind <;> simp [panelWords, possibleTypesTitle]
  have fields (chosen : Field → Bool) : policy.Admits renderer
      ((type.fields.filter chosen).map (Explorer.fieldLine type.name)) := by
    apply map
    intro field member
    have declared : field ∈ type.fields := (List.mem_filter.1 member).1
    exact fieldLine (covered.links field declared) (covered.fields field declared)
  have values (chosen : EnumValue → Bool) : policy.Admits renderer
      ((type.enumValues.filter chosen).map (Explorer.enumValueLine renderer)) := by
    apply map
    intro value member
    exact enumValueLine (covered.enumValues value (List.mem_filter.1 member).1)
  have interfaces : policy.Admits renderer (Html.intersperse (.text ", ")
      (type.interfaces.map fun name => [Explorer.typeLink name])) := by
    apply intersperse (word (by decide))
    intro name member
    exact typeLink (covered.interfaces name member)
  have inputs : policy.Admits renderer (type.inputFields.map Explorer.inputLine) := by
    apply map
    intro input member
    exact inputLine (covered.inputFields input member)
  have possible : policy.Admits renderer (type.possibleTypes.map Explorer.typeLine) := by
    apply map
    intro name member
    exact typeLine (covered.possibleTypes name member)
  -- Deprecated members and the others are both chosen from the declared ones.
  rw [Explorer.typeBody, List.partition_eq_filter_filter, List.partition_eq_filter_filter]
  refine (((((((kind.cons (describe covered.description)).append ?_).append ?_).append ?_).append
    ?_).append ?_).append ?_).append ?_
  · exact sectionOfSome (by decide) interfaces
  · exact sectionOfSome (by decide) (fields _)
  · exact sectionOfSome (by decide) (fields _)
  · exact sectionOfSome (by decide) inputs
  · exact sectionOfSome (by decide) (values _)
  · exact sectionOfSome (by decide) (values _)
  · exact sectionOfSome title possible

theorem memberBody {definition : Option Definition}
    (covered : ∀ shown ∈ definition, policy.CoversDefinition shown) :
    policy.Admits renderer (Explorer.memberBody renderer definition) := by
  cases definition with
  | none => exact .nil
  | some declared =>
    have known : policy.CoversDefinition declared := covered declared rfl
    cases declared with
    | type declared => exact titledSection (by decide) (typeLink known.name)
    | field declared =>
      apply append (notes known.description known.deprecation)
      apply cons (titledSection (by decide) (linkedType known.type))
      refine sectionOfSome (by decide) ?_
      apply map
      intro arg member
      exact argumentLine (known.args arg member)
    | argument declared =>
      apply append (notes known.description known.deprecation)
      apply cons (titledSection (by decide) (linkedType known.type))
      cases given : declared.default with
      | none => exact .nil
      | some value =>
        refine titledSection (by decide) ?_
        exact .element .unmarked (shown (known.default value given)) .nil

theorem ownerMark {oneOwner : Bool} {owner : NamedType} (leads : policy.typeLink owner.name) :
    policy.Admits renderer (Explorer.ownerMark oneOwner owner) := by
  cases oneOwner with
  | true => exact .nil
  | false => exact (typeLink leads).cons (word (by decide))

/-- A field that was found, whatever it was found through. -/
theorem fieldMatchLine {oneOwner : Bool} {found : FieldMatch}
    (owner : policy.CoversType found.owner) (declared : found.field ∈ found.owner.fields)
    (args : found.args ⊆ found.field.args) :
    policy.Admits renderer [Explorer.fieldMatchLine oneOwner found] := by
  have shownArgs : ∀ arg ∈ found.args, policy.CoversInput arg := by
    intro arg member
    exact (owner.fields found.field declared).args arg (args member)
  refine styled (by decide) ?_
  apply append (ownerMark owner.name)
  apply cons (fieldLink (owner.links found.field declared))
  exact argumentList shownArgs

theorem inputMatchLine {oneOwner : Bool} {found : InputMatch}
    (owner : policy.CoversType found.owner) (declared : found.input ∈ found.owner.inputFields) :
    policy.Admits renderer [Explorer.inputMatchLine oneOwner found] := by
  refine styled (by decide) ?_
  apply append (ownerMark owner.name)
  exact argumentSpan (owner.inputFields found.input declared)

theorem searchBody {results : SearchResults} {types : List NamedType} {term : String}
    {oneOwner : Bool} (found : results.Among types)
    (covered : ∀ type ∈ types, policy.CoversType type) (known : policy.text term) :
    policy.Admits renderer (Explorer.searchBody results term oneOwner) := by
  have lines {group : List FieldMatch} (among : ∀ found ∈ group, found.IsAmong types) :
      policy.Admits renderer (group.map (Explorer.fieldMatchLine oneOwner)) := by
    apply map
    intro found member
    obtain ⟨owner, field, args⟩ := among found member
    exact fieldMatchLine (covered _ owner) field args
  unfold Explorer.searchBody
  split
  · refine styled (by decide) ?_
    apply cons (word (by decide))
    exact .element .unmarked (shown known) .nil
  · refine ((append ?_ ?_).append ?_).append ?_
    · refine sectionOfSome (by decide) ?_
      apply map
      intro type member
      exact typeLine (covered type (found.types member)).name
    · exact sectionOfSome (by decide) (lines found.fields)
    · exact sectionOfSome (by decide) (lines found.arguments)
    · refine sectionOfSome (by decide) ?_
      apply map
      intro inputMatch member
      obtain ⟨owner, input⟩ := found.inputFields inputMatch member
      exact inputMatchLine (covered _ owner) input

/-- A policy that covers what a mode carries, and the schema, admits the body for the mode. -/
theorem body {presentation : Presentation} {mode : Mode}
    (schema : ∀ schema ∈ presentation.schema, policy.CoversSchema schema)
    (covered : policy.CoversMode mode) :
    policy.Admits presentation.text (mode.body presentation) := by
  cases mode with
  | errors messages => exact errorBody covered
  | spinner => exact styled (by decide) (styled (by decide) .nil)
  | noSchema => exact styled (by decide) (word (by decide))
  | searchResults term scope =>
    cases loaded : presentation.schema with
    | none =>
      rw [Mode.body, loaded]
      exact .nil
    | some known =>
      rw [Mode.body, loaded]
      refine searchBody (search_among ..) (fun type member => ?_) covered.1
      rw [searchedTypes] at member
      split at member
      · rename_i scopeType within
        obtain rfl := List.mem_singleton.1 member
        obtain ⟨definition, given, isType⟩ := Option.bind_eq_some_iff.1 within
        cases definition with
        | type declared =>
          obtain rfl := Option.some.inj isType
          exact covered.2 _ given
        | field declared => cases isType
        | argument declared => cases isType
      · exact (schema known loaded).types type (List.mem_filter.1 member).1
  | schemaRoot =>
    cases loaded : presentation.schema with
    | none =>
      rw [Mode.body, loaded]
      exact .nil
    | some known =>
      rw [Mode.body, loaded]
      exact schemaBody (schema known loaded)
  | typeDetail type => exact typeBody covered
  | memberDetail definition => exact memberBody covered

end Admits
end Policy
end SchemaGuide.Explorer
