import SchemaGuide.Proofs.Explorer.Policy
import SchemaGuide.Proofs.Html.Writing
import SchemaGuide.Proofs.Markdown.Vocabulary

/-! Panels cannot be broken into. Names, values, messages and search terms come from outside,
and so do descriptions, which a text renderer puts into markup. Whatever they are, each of the
former is written so that it begins and ends nothing, and undoing its entities gives it back.
The markup around them is that of the panel, and it is balanced if the renderer's is. -/
namespace SchemaGuide.Explorer

open Html (Balanced Part Plain escapeChars partsOf unescape)

/-! ## What is supplied -/

/-- Strings from outside that a panel may show, and others that it shows through a text
renderer only. -/
structure Supply where
  texts : List String
  sources : List String

namespace Supply

/-- Everything that is supplied by any of them. -/
def all (supplies : List Supply) : Supply where
  texts := supplies.flatMap (·.texts)
  sources := supplies.flatMap (·.sources)

/-- The other supply has everything that this one has. -/
structure Within (inner outer : Supply) : Prop where
  texts : inner.texts ⊆ outer.texts
  sources : inner.sources ⊆ outer.sources

theorem Within.refl (supply : Supply) : supply.Within supply :=
  ⟨List.Subset.refl _, List.Subset.refl _⟩

/-- What has everything has what each of them supplies. -/
theorem Within.of_mem {supplies : List Supply} {inner outer : Supply}
    (within : (all supplies).Within outer) (member : inner ∈ supplies) : inner.Within outer where
  texts _ known := within.texts (List.mem_flatMap.2 ⟨inner, member, known⟩)
  sources _ known := within.sources (List.mem_flatMap.2 ⟨inner, member, known⟩)

end Supply

/-- What an argument or input field supplies. -/
def supplyOfInput (input : InputValue) : Supply where
  texts := input.name :: input.type.namedType :: input.default.toList
  sources := input.description.toList ++ input.deprecation.toList

/-- What a field supplies. -/
def supplyOfField (field : Field) : Supply :=
  .all (⟨[field.name, field.type.namedType],
    field.description.toList ++ field.deprecation.toList⟩ :: field.args.map supplyOfInput)

/-- What an enum value supplies. -/
def supplyOfEnumValue (value : EnumValue) : Supply where
  texts := [value.name]
  sources := value.description.toList ++ value.deprecation.toList

/-- What a type supplies. -/
def supplyOfType (type : NamedType) : Supply :=
  .all (⟨type.name :: type.interfaces ++ type.possibleTypes, type.description.toList⟩ ::
    (type.fields.map supplyOfField ++ type.inputFields.map supplyOfInput ++
      type.enumValues.map supplyOfEnumValue))

/-- What a definition supplies. -/
def supplyOfDefinition : Definition → Supply
  | .type declared => supplyOfType declared
  | .field declared => supplyOfField declared
  | .argument declared => supplyOfInput declared

/-- What a schema supplies. -/
def supplyOfSchema (schema : Schema) : Supply :=
  .all (⟨[], [schema.description.getD defaultSchemaDescription]⟩ ::
    schema.types.entries.map supplyOfType)

/-- What a mode supplies. -/
def supplyOfMode : Mode → Supply
  | .errors messages => ⟨messages, []⟩
  | .spinner | .noSchema | .schemaRoot => ⟨[], []⟩
  | .searchResults term scope => .all (⟨[term], []⟩ :: scope.toList.map supplyOfDefinition)
  | .typeDetail type => supplyOfType type
  | .memberDetail definition => .all (definition.toList.map supplyOfDefinition)

/-- What is supplied for the body of a panel. -/
def supplyOf (presentation : Presentation) (mode : Mode) : Supply :=
  .all (supplyOfMode mode :: presentation.schema.toList.map supplyOfSchema)

namespace Supply

/-- The policy that admits what is supplied. -/
def policy (supply : Supply) : Policy where
  text content := content ∈ supply.texts
  typeLink name := name ∈ supply.texts
  fieldLink owner field := owner ∈ supply.texts ∧ field ∈ supply.texts
  rendered source := source ∈ supply.sources
  typeLabel := id
  fieldLabel := And.right

variable {supply : Supply}

theorem coversInput {input : InputValue} (within : (supplyOfInput input).Within supply) :
    supply.policy.CoversInput input where
  name := within.texts (by simp [supplyOfInput])
  type := within.texts (by simp [supplyOfInput])
  default value given := within.texts (by simp [supplyOfInput, Option.mem_def.1 given])
  description source given := within.sources (by simp [supplyOfInput, Option.mem_def.1 given])
  deprecation source given := within.sources (by simp [supplyOfInput, Option.mem_def.1 given])

theorem coversEnumValue {value : EnumValue} (within : (supplyOfEnumValue value).Within supply) :
    supply.policy.CoversEnumValue value where
  name := within.texts (by simp [supplyOfEnumValue])
  description source given := within.sources (by simp [supplyOfEnumValue, Option.mem_def.1 given])
  deprecation source given := within.sources (by simp [supplyOfEnumValue, Option.mem_def.1 given])

theorem coversField {field : Field} (within : (supplyOfField field).Within supply) :
    supply.policy.CoversField field := by
  have own := within.of_mem List.mem_cons_self
  constructor
  · exact own.texts (by simp)
  · intro arg member
    exact coversInput (within.of_mem (List.mem_cons_of_mem _ (List.mem_map_of_mem member)))
  · exact fun source given => own.sources (by simp [Option.mem_def.1 given])
  · exact fun source given => own.sources (by simp [Option.mem_def.1 given])

theorem coversType {type : NamedType} (within : (supplyOfType type).Within supply) :
    supply.policy.CoversType type := by
  have own := within.of_mem List.mem_cons_self
  have field : ∀ field ∈ type.fields, (supplyOfField field).Within supply := fun field member =>
    within.of_mem (by simp [List.mem_map_of_mem member])
  have input : ∀ input ∈ type.inputFields, (supplyOfInput input).Within supply :=
    fun input member => within.of_mem (by simp [List.mem_map_of_mem member])
  have value : ∀ value ∈ type.enumValues, (supplyOfEnumValue value).Within supply :=
    fun value member => within.of_mem (by simp [List.mem_map_of_mem member])
  constructor
  · exact own.texts (by simp)
  · intro declared member
    have name := (field declared member).of_mem List.mem_cons_self
    exact ⟨own.texts (by simp), name.texts (by simp)⟩
  · exact fun declared member => coversField (field declared member)
  · exact fun declared member => coversInput (input declared member)
  · exact fun declared member => coversEnumValue (value declared member)
  · exact fun name member => own.texts (by simp [member])
  · exact fun name member => own.texts (by simp [member])
  · exact fun source given => own.sources (by simp [Option.mem_def.1 given])

theorem coversDefinition {definition : Definition}
    (within : (supplyOfDefinition definition).Within supply) :
    supply.policy.CoversDefinition definition := by
  cases definition with
  | type declared => exact coversType within
  | field declared => exact coversField within
  | argument declared => exact coversInput within

theorem coversSchema {schema : Schema} (within : (supplyOfSchema schema).Within supply) :
    supply.policy.CoversSchema schema where
  description := (within.of_mem List.mem_cons_self).sources List.mem_cons_self
  types _ member :=
    coversType (within.of_mem (List.mem_cons_of_mem _ (List.mem_map_of_mem member)))

theorem coversMode {mode : Mode} (within : (supplyOfMode mode).Within supply) :
    supply.policy.CoversMode mode := by
  cases mode with
  | errors messages => exact fun message member => within.texts member
  | spinner | noSchema | schemaRoot => trivial
  | searchResults term scope =>
    refine ⟨(within.of_mem List.mem_cons_self).texts List.mem_cons_self, fun shown given => ?_⟩
    have member : shown ∈ scope.toList := Option.mem_toList.2 given
    exact coversDefinition
      (within.of_mem (List.mem_cons_of_mem _ (List.mem_map_of_mem member)))
  | typeDetail type => exact coversType within
  | memberDetail definition =>
    intro shown given
    have member : shown ∈ definition.toList := Option.mem_toList.2 given
    exact coversDefinition (within.of_mem (List.mem_map_of_mem member))

/-- A panel shows nothing but what is supplied for it. -/
theorem admits_body (presentation : Presentation) (mode : Mode) :
    (supplyOf presentation mode).policy.Admits presentation.text (mode.body presentation) := by
  have within : (Supply.all (supplyOfMode mode ::
      presentation.schema.toList.map supplyOfSchema)).Within (supplyOf presentation mode) :=
    .refl _
  refine .body (fun schema given => ?_) (coversMode (within.of_mem List.mem_cons_self))
  have member : schema ∈ presentation.schema.toList := Option.mem_toList.2 given
  exact coversSchema (within.of_mem (List.mem_cons_of_mem _ (List.mem_map_of_mem member)))

end Supply

/-! ## How it is written -/

/-- The values that an attribute can have. -/
def Supply.values (supply : Supply) : Html.AttributeName → List String
  | .styleClass => panelStyles
  | .dataType | .dataField => supply.texts

/-- A value is written so that it ends at its own quotation mark, and it is a style class of
panels or a supplied string with entities. -/
structure Supply.ContainsValue (supply : Supply) (name : Html.AttributeName)
    (written : List Char) : Prop where
  plain : Plain written
  known : String.ofList (unescape written) ∈ supply.values name

/-- The part stays within its bounds. A text begins and ends no tag, and it is a word of panels
or a supplied string with entities; and nothing but the renderer's output for a supplied source
is written as it is. -/
inductive Supply.Contains (supply : Supply) (renderer : TextRenderer) : Part → Prop where
  | text {written : List Char} (plain : Plain written)
    (known : String.ofList (unescape written) ∈ panelWords ++ supply.texts) :
    Contains supply renderer (.text written)
  | opening {tag : Html.Tag} {attributes : List (Html.AttributeName × List Char)}
    (values : ∀ pair ∈ attributes, supply.ContainsValue pair.1 pair.2) :
    Contains supply renderer (.opening tag attributes)
  | closing {tag : Html.Tag} : Contains supply renderer (.closing tag)
  | rendered {source : String} (known : source ∈ supply.sources) :
    Contains supply renderer (.rendered (renderer source).toList)

namespace Supply

variable {supply : Supply} {renderer : TextRenderer}

private theorem containsValue {name : Html.AttributeName} {value : String}
    (known : value ∈ supply.values name) :
    supply.ContainsValue name (escapeChars value.toList) where
  plain := Html.plain_escapeChars _
  known := by simpa using known

private theorem contains_attributes {attributes : List (Html.AttributeName × String)}
    (allowed : supply.policy.Allows attributes) :
    ∀ pair ∈ attributes, supply.ContainsValue pair.1 (escapeChars pair.2.toList) := by
  intro pair member
  cases allowed with
  | unmarked => cases member
  | styled known =>
    obtain rfl := List.mem_singleton.1 member
    exact containsValue known
  | typeLink leads =>
    simp only [List.mem_cons, List.not_mem_nil, or_false] at member
    have style : "type-name" ∈ panelStyles := by decide
    rcases member with rfl | rfl
    · exact containsValue style
    · exact containsValue leads
  | fieldLink leads =>
    simp only [List.mem_cons, List.not_mem_nil, or_false] at member
    have style : "field-name" ∈ panelStyles := by decide
    rcases member with rfl | rfl | rfl
    · exact containsValue style
    · exact containsValue leads.1
    · exact containsValue leads.2

/-- What the policy admits is written within its bounds. -/
theorem contains_parts {nodes : List Html.Node} (admitted : supply.policy.Admits renderer nodes) :
    ∀ part ∈ partsOf nodes, supply.Contains renderer part := by
  induction admitted with
  | nil =>
    intro part member
    cases member
  | text known _ ih =>
    intro part member
    rcases List.mem_append.1 member with first | later
    · obtain rfl := List.mem_singleton.1 first
      exact .text (Html.plain_escapeChars _) (by simpa [Supply.policy] using known)
    · exact ih part later
  | markup known _ ih =>
    intro part member
    rcases List.mem_append.1 member with first | later
    · obtain rfl := List.mem_singleton.1 first
      exact .rendered known
    · exact ih part later
  | element allowed _ _ inside ih =>
    intro part member
    rcases List.mem_append.1 member with first | later
    · rw [Html.Node.parts, List.cons_append, List.mem_cons, List.mem_append,
        List.mem_singleton] at first
      rcases first with rfl | child | rfl
      · refine .opening fun pair found => ?_
        obtain ⟨source, given, rfl⟩ := List.mem_map.1 found
        exact contains_attributes allowed source given
      · exact inside part child
      · exact .closing
    · exact ih part later

end Supply

/-- **Panels cannot be broken into.** Let a text renderer return balanced markup only. Then the
content of each panel is balanced. It consists of tags of the panel's own elements, of texts and
of output of the renderer, and is read as these, whatever is supplied; and undoing the entities
in a text or in the value of an attribute gives a word or style of panels, or a supplied string. -/
theorem panel_content_is_contained (presentation : Presentation) (view : View)
    (balanced : ∀ source, Balanced (presentation.text source).toList) :
    let panel := view.panel presentation
    let parts := partsOf panel.body
    Balanced panel.content.toList ∧
      panel.content.toList = parts.flatMap Part.chars ∧
      Html.scan panel.content.toList = some (parts.flatMap Part.tokens) ∧
      ∀ part ∈ parts, (supplyOf presentation view.mode).Contains presentation.text part := by
  intro panel parts
  have contained := Supply.contains_parts (Supply.admits_body presentation view.mode)
  have renders : Html.RendersBalanced parts := by
    intro output member
    cases contained _ member with
    | rendered known => exact balanced _
  have content : panel.content.toList = Html.writeNodes panel.body := by
    rw [Panel.content, Html.render, String.toList_ofList]
  rw [content]
  exact ⟨Html.balanced_writeNodes renders, Html.writeNodes_eq _, Html.scan_writeNodes renders,
    contained⟩

/-- Names, a value and a description that look like markup. -/
private def hostileView : View where
  mode := .typeDetail {
    name := "</div><script>"
    kind := .object
    description := some "<img src='x'>"
    fields := [{
      name := "a\" onclick=\"b", type := .list (.named "&lt;T&gt;"), description := none
      deprecation := none
      args := [{
        name := "<!--", type := .nonNull (.named "</a>"), description := none
        default := some "\"<b>\"", deprecation := none }] }]
    inputFields := [], enumValues := [], interfaces := [], possibleTypes := ["<"] }
  showsSearch := true
  backLabel := none
  title := "</div><script>"

private def hostilePresentation : Presentation :=
  ⟨none, Markdown.render, ignoringCase, 100, none⟩

theorem panel_of_hostile_type_is_contained :
    (∀ source, Balanced (hostilePresentation.text source).toList) ∧
      Balanced (hostileView.panel hostilePresentation).content.toList ∧
      ∀ part ∈ partsOf (hostileView.panel hostilePresentation).body,
        (supplyOf hostilePresentation hostileView.mode).Contains Markdown.render part := by
  obtain ⟨balanced, -, -, contained⟩ :=
    panel_content_is_contained hostilePresentation hostileView Markdown.balanced_render
  exact ⟨Markdown.balanced_render, balanced, contained⟩

end SchemaGuide.Explorer
