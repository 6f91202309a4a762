import SchemaGuide.Proofs.Explorer.PanelElements
import SchemaGuide.Proofs.Explorer.SearchLimit

/-! Members in panels. What a panel lists is read back from its characters: the panel of a type
lists each field, argument, input field and enum value of the type once, those that are deprecated
behind the others, and the panel of a schema each of its types once, in the order of the names. -/
namespace SchemaGuide.Explorer

open Html (Finder Node Tag)

/-- Members in the order of a panel: in the order of their declaration, but those that are
deprecated behind the others. -/
def inPanelOrder {α : Type} (deprecation : α → Option String) (members : List α) : List α :=
  members.filter (fun member => (deprecation member).isNone) ++
    members.filter (fun member => (deprecation member).isSome)

theorem inPanelOrder_perm {α : Type} (deprecation : α → Option String) (members : List α) :
    (inPanelOrder deprecation members).Perm members := by
  simpa [inPanelOrder] using
    List.filter_append_perm (fun member => (deprecation member).isNone) members

theorem partition_deprecated {α : Type} (deprecation : α → Option String) (members : List α) :
    members.partition (fun member => (deprecation member).isSome) =
      (members.filter (fun member => (deprecation member).isSome),
        members.filter (fun member => (deprecation member).isNone)) := by
  have others : (not ∘ fun member => (deprecation member).isSome) =
      fun member => (deprecation member).isNone := by
    funext member
    exact Option.not_isSome _
  rw [List.partition_eq_filter_filter, others]

/-- The fields of a type in the order of its panel. -/
def shownFields (type : NamedType) : List Field :=
  inPanelOrder (·.deprecation) type.fields

/-- The enum values of a type in the order of its panel. -/
def shownValues (type : NamedType) : List EnumValue :=
  inPanelOrder (·.deprecation) type.enumValues

/-! ## Members of a type -/

/-- What a finder makes of the members of a type. -/
structure MemberReading (α : Type) where
  field : (owner name : String) → List α
  argument : InputValue → List α
  value : String → List α

/-- The finder finds in each member what the reading says, and it looks through everything else. -/
structure MemberReading.IsOf {α : Type} (reading : MemberReading α) (finder : Finder α) : Prop where
  field : ∀ owner name, finder.Finds [fieldLink owner name] (reading.field owner name)
  argument : ∀ argument, finder.Finds [argumentSpan argument] (reading.argument argument)
  value : ∀ name, finder.Finds [Html.span "enum-value" [.text name]] (reading.value name)
  type : finder.style ≠ "type-name"
  line : finder.style ≠ "doc-field"
  layout : finder.style ∉ layoutStyles

/-- A field with its arguments. -/
def MemberReading.inField {α : Type} (reading : MemberReading α) (owner : String)
    (field : Field) : List α :=
  reading.field owner field.name ++ field.args.flatMap reading.argument

namespace MemberReading.IsOf

variable {α : Type} {reading : MemberReading α} {finder : Finder α} (reads : reading.IsOf finder)

include reads

theorem finds_no_link (name : String) : finder.Finds [typeLink name] [] :=
  .element reads.type (.text name)

theorem finds_typeLine (name : String) : finder.Finds [typeLine name] [] :=
  finds_in_layout reads.layout (by decide) (reads.finds_no_link name)

theorem finds_fieldLine (owner : String) (field : Field) :
    finder.Finds [fieldLine owner field] (reading.inField owner field) := by
  have typed : finder.Finds (.text ": " :: linkedType field.type) [] :=
    .behind_text ": " (finds_in_type reads.finds_no_link field.type)
  have line := ((reads.field owner field.name).append
    (finds_in_argumentList reads.argument field.args)).append typed
  rw [List.append_nil] at line
  exact .element reads.line line

theorem finds_inputLine (input : InputValue) :
    finder.Finds [inputLine input] (reading.argument input) :=
  .element reads.line (reads.argument input)

theorem finds_value_line {renderer : TextRenderer}
    (avoids : ∀ source, finder.Avoids (renderer source).toList) (value : EnumValue) :
    finder.Finds [enumValueLine renderer value] (reading.value value.name) := by
  have line := (reads.value value.name).append
    ((finds_in_description reads.layout avoids value.description).append
      (finds_in_deprecation reads.layout avoids value.deprecation))
  rw [List.append_nil, List.append_nil] at line
  exact finds_in_layout reads.layout (by decide) line

/-- Members in a section, and those that are deprecated in a section behind it. -/
theorem finds_members {β : Type} {line : β → Node} {found : β → List α}
    (each : ∀ member, finder.Finds [line member] (found member)) (title deprecatedTitle : String)
    (deprecation : β → Option String) (members : List β) :
    finder.Finds
      (sectionOfSome title
          ((members.filter fun member => (deprecation member).isNone).map line) ++
        sectionOfSome deprecatedTitle
          ((members.filter fun member => (deprecation member).isSome).map line))
      ((inPanelOrder deprecation members).flatMap found) := by
  rw [inPanelOrder, List.flatMap_append]
  apply Finder.Finds.append
  · exact finds_in_sectionOfSome reads.layout title (.map each _)
  · exact finds_in_sectionOfSome reads.layout deprecatedTitle (.map each _)

/-- A panel of a type goes through its fields, its input fields and its enum values. -/
theorem finds_typeBody {renderer : TextRenderer}
    (avoids : ∀ source, finder.Avoids (renderer source).toList) (type : NamedType) :
    finder.Finds (typeBody renderer type)
      ((shownFields type).flatMap (reading.inField type.name) ++
        type.inputFields.flatMap reading.argument ++
        (shownValues type).flatMap fun value => reading.value value.name) := by
  have kind : finder.Finds [Html.div "doc-kind" [.text type.kind.label]] [] :=
    finds_in_layout reads.layout (by decide) (.text type.kind.label)
  have description := finds_in_description reads.layout avoids type.description
  have interfaces := finds_in_sectionOfSome reads.layout "Implements"
    (.intersperse ", " reads.finds_no_link type.interfaces)
  have fields := reads.finds_members (reads.finds_fieldLine type.name) "Fields"
    "Deprecated Fields" Field.deprecation type.fields
  have inputs := finds_in_sectionOfSome reads.layout "Fields"
    (.map reads.finds_inputLine type.inputFields)
  have values := reads.finds_members (reads.finds_value_line avoids) "Enum Values"
    "Deprecated Enum Values" EnumValue.deprecation type.enumValues
  have possible := finds_in_sectionOfSome reads.layout (possibleTypesTitle type.kind)
    (.map reads.finds_typeLine type.possibleTypes)
  have body := ((kind.append description).append interfaces).append
    (((fields.append inputs).append values).append possible)
  rw [typeBody, partition_deprecated Field.deprecation, partition_deprecated EnumValue.deprecation]
  simpa [shownFields, shownValues, flatMap_nothing] using body

end MemberReading.IsOf

/-- What the finders find in the members of a type. -/
theorem fieldLinks_read :
    MemberReading.IsOf ⟨fun owner name => [⟨owner, name, name⟩], fun _ => [], fun _ => []⟩
      fieldLinks where
  field := finds_fieldLink
  argument := finds_no_argument (by decide) (by decide) (by decide)
  value name := .element (by decide) (.text name)
  type := by decide
  line := by decide
  layout := by decide

theorem valueSpans_read :
    MemberReading.IsOf ⟨fun _ _ => [], fun _ => [], fun name => [name]⟩ valueSpans where
  field _ name := .element (by decide) (.text name)
  argument := finds_no_argument (by decide) (by decide) (by decide)
  value := finds_value_span
  type := by decide
  line := by decide
  layout := by decide

theorem argumentSpans_read :
    MemberReading.IsOf
      ⟨fun _ _ => [], fun argument => [⟨argument.name, argument.plain⟩], fun _ => []⟩
      argumentSpans where
  field _ name := .element (by decide) (.text name)
  argument := finds_argument
  value name := .element (by decide) (.text name)
  type := by decide
  line := by decide
  layout := by decide

/-- What a renderer returns holds no link to a field, no enum value and no argument. -/
structure WithoutMembers (renderer : TextRenderer) : Prop where
  fields : ∀ source, fieldLinks.Avoids (renderer source).toList
  values : ∀ source, valueSpans.Avoids (renderer source).toList
  arguments : ∀ source, argumentSpans.Avoids (renderer source).toList

/-- The members of the type are what is read in the characters, each where it belongs. -/
structure ListsMembers (type : NamedType) (chars : List Char) : Prop where
  /-- No member is lost by its place, and none comes twice. -/
  eachOnce : (shownFields type).Perm type.fields ∧ (shownValues type).Perm type.enumValues
  fields : fieldLinks.find chars =
    (shownFields type).map fun field => some ⟨type.name, field.name, field.name⟩
  values : valueSpans.find chars = (shownValues type).map fun value => some value.name
  arguments : argumentSpans.find chars =
    ((shownFields type).flatMap (·.args) ++ type.inputFields).map fun argument =>
      some ⟨argument.name, argument.plain⟩

theorem listsMembers {renderer : TextRenderer} (without : WithoutMembers renderer)
    (type : NamedType) : ListsMembers type (Html.writeNodes (typeBody renderer type)) where
  eachOnce := ⟨inPanelOrder_perm _ _, inPanelOrder_perm _ _⟩
  fields := by
    rw [(fieldLinks_read.finds_typeBody without.fields type).alone]
    unfold MemberReading.inField
    simp [flatMap_nothing, ← List.map_eq_flatMap, Function.comp_def]
  values := by
    rw [(valueSpans_read.finds_typeBody without.values type).alone]
    unfold MemberReading.inField
    simp [flatMap_nothing, ← List.map_eq_flatMap, Function.comp_def]
  arguments := by
    rw [(argumentSpans_read.finds_typeBody without.arguments type).alone]
    unfold MemberReading.inField
    simp [flatMap_nothing, ← List.map_eq_flatMap, List.map_flatMap, Function.comp_def]

/-! ## Types of a schema -/

/-- The titled sections, each with the characters behind its title up to the end of the body. -/
def sections : Finder (String × List Char) where
  tag := .div
  style := "doc-section"
  read chars := do
    let chars ← behind? ['>'] chars
    let chars ← behind? (Html.startOf .div "doc-section-title") chars
    label? .div chars

theorem read_section {title : String} (body : List Node) :
    sections.read ('>' :: (Html.writeNodes (Html.div "doc-section-title" [.text title] :: body) ++
        (Html.writeClosing .div ++ []))) =
      some (title, Html.writeNodes body ++ Html.writeClosing .div) := by
  have written : '>' :: (Html.writeNodes (Html.div "doc-section-title" [.text title] :: body) ++
        (Html.writeClosing .div ++ [])) =
      ['>'] ++ (Html.startOf .div "doc-section-title" ++ '>' :: (Html.writeNodes [.text title] ++
        (Html.writeClosing .div ++ (Html.writeNodes body ++ Html.writeClosing .div)))) := by
    simp [Html.div, Html.writeNodes, Node.write, Html.writeOpening, Html.writeAttribute,
      Html.startOf, Html.escapeChars, Html.escapeChar]
  simp only [sections, written, behind?_append, Option.bind_eq_bind, Option.bind_some,
    label?_written]

theorem find_of_section (title : String) {body : List Node} (inside : sections.Finds body []) :
    sections.find (Html.writeNodes [titledSection title body]) =
      [some (title, Html.writeNodes body ++ Html.writeClosing .div)] := by
  have titled : sections.Finds (Html.div "doc-section-title" [.text title] :: body) [] :=
    .cons (.element (by decide) (.text title)) inside
  have written : Html.writeNodes [titledSection title body] =
      Html.writeOpening .div [(.styleClass, "doc-section")] ++
        (Html.writeNodes (Html.div "doc-section-title" [.text title] :: body) ++
          (Html.writeClosing .div ++ [])) := by
    simp [titledSection, Html.div, Html.writeNodes, Node.write]
  have opened (rest : List Char) :
      sections.find (Html.writeOpening .div [(.styleClass, "doc-section")] ++ rest) =
        sections.read ('>' :: rest) :: sections.find rest :=
    Finder.find_of_own_opening [] rest
  rw [written, opened, read_section, titled, Finder.find_of_closing]
  rfl

/-- The last section is the one of all types: each name of a type that does not start with two
underscores stands there once, in the order of the names. -/
def ListsTypes (schema : Schema) (chars : List Char) : Prop :=
  ∃ (body : List Char) (names : List String),
    (sections.find chars).getLast? = some (some ("All Schema Types", body)) ∧
      typeLinks.find body = names.map (fun name => some ⟨name, name⟩) ∧
      names.Pairwise (· < ·) ∧
      ∀ name, name ∈ names ↔ (schema.type? name).isSome = true ∧ ¬ ['_', '_'] <+: name.toList

theorem listsTypes (renderer : TextRenderer) (schema : Schema) :
    ListsTypes schema (Html.writeNodes (schemaBody renderer schema)) := by
  let lines := schema.userTypes.map fun type => typeLine type.name
  obtain ⟨before, split⟩ : ∃ before,
      schemaBody renderer schema = before ++ [titledSection "All Schema Types" lines] := by
    rw [schemaBody, ← List.singleton_append, ← List.append_assoc]
    exact ⟨_, rfl⟩
  have apart (type : NamedType) : sections.Finds [typeLine type.name] [] :=
    .element (by decide) (.element (by decide) (.text type.name))
  have noSection : sections.Finds lines [] := by
    simpa [flatMap_nothing] using Finder.Finds.map apart schema.userTypes
  have link (type : NamedType) : typeLinks.Finds [typeLine type.name] [⟨type.name, type.name⟩] :=
    .element (by decide) (finds_typeLink type.name)
  refine ⟨Html.writeNodes lines ++ Html.writeClosing .div, schema.userTypes.map (·.name), ?_, ?_,
    (schema.types.ordered.filter _).map _ fun _ _ earlier => earlier, fun name => ⟨?_, ?_⟩⟩
  · -- A description may hold sections too, but in front of this one.
    obtain ⟨first, behind⟩ := Html.exists_behindEach_append sections.mark
      (Html.writeNodes before) (Html.writeNodes [titledSection "All Schema Types" lines])
    have last := find_of_section "All Schema Types" noSection
    rw [Finder.find] at last
    rw [split, Html.writeNodes_append, Finder.find, behind, List.map_append, last,
      List.getLast?_concat]
  · have closed := Finder.Finds.map link schema.userTypes (Html.writeClosing .div ++ [])
    rw [Finder.find_of_closing, List.append_nil] at closed
    simpa [Finder.find, Html.behindEach, ← List.map_eq_flatMap, Function.comp_def] using closed
  · intro named
    obtain ⟨type, listed, rfl⟩ := List.mem_map.mp named
    obtain ⟨found, ordinary⟩ := (mem_userTypes_iff schema type).mp listed
    exact ⟨by rw [found]; rfl, ordinary⟩
  · rintro ⟨present, ordinary⟩
    obtain ⟨type, found⟩ := Option.isSome_iff_exists.mp present
    obtain rfl := TypeTable.name_of_get? found
    exact List.mem_map.mpr ⟨type, (mem_userTypes_iff schema type).mpr ⟨found, ordinary⟩, rfl⟩

theorem content_toList (panel : Panel) : panel.content.toList = Html.writeNodes panel.body := by
  rw [Panel.content, Html.render, String.toList_ofList]

/-- **A panel lists each member once.** If what the renderer returns holds no link to a field, no
enum value and no argument, then those are read in the panel of a type as the type declares them:
the fields, each linked under the name of the type, the enum values, and the arguments of the
fields with the input fields behind them, where what is deprecated comes after the rest. The last
section of a schema panel links each of its types once, in the order of the names, whatever the
renderer returns. -/
theorem panel_lists_members (presentation : Presentation) (view : View) :
    (∀ type, view.mode = .typeDetail type → WithoutMembers presentation.text →
      ListsMembers type (view.panel presentation).content.toList) ∧
    ∀ schema, presentation.schema = some schema → view.mode = .schemaRoot →
      ListsTypes schema (view.panel presentation).content.toList := by
  rw [content_toList, View.panel]
  constructor
  · intro type mode without
    rw [mode]
    exact listsMembers without type
  · intro schema given mode
    rw [mode, Mode.body, given]
    exact listsTypes presentation.text schema

/-- A type with members of every sort, whose names look like markup. -/
private def crowdedType : NamedType where
  name := "Shop<T>"
  kind := .object
  description := some "<a class=\"field-name\""
  fields := [
    { name := "old", type := .named "Int", description := none
      deprecation := some "<span class=\"arg\">"
      args := [⟨"\">", .list (.named "a&b"), none, some "[\"</span>\"]", none⟩] },
    { name := "</a>", type := .named "Shop<T>", description := none, deprecation := none
      args := [⟨"first", .nonNull (.named "Int"), none, none, some "unused"⟩] }]
  inputFields := [⟨"near", .named "Place", none, none, none⟩]
  enumValues := [⟨"SHUT", none, some ""⟩, ⟨"OPEN", some "<span class=\"enum-value\">", none⟩]
  interfaces := ["Place"]
  possibleTypes := ["Shop<T>"]

private def crowdedSchema : Schema :=
  ⟨none, some "Shop<T>", none, none,
    .ofList [crowdedType, { crowdedType with name := "__Shop" }, { crowdedType with name := "A" }]⟩

private def crowdedPresentation : Presentation :=
  ⟨some crowdedSchema, Html.escape, ignoringCase, 100, none⟩

theorem crowded_panels_list_members :
    WithoutMembers crowdedPresentation.text ∧
      (shownFields crowdedType).map (·.name) = ["</a>", "old"] ∧
      ListsMembers crowdedType
        ((View.mk (.typeDetail crowdedType) true none "").panel
          crowdedPresentation).content.toList ∧
      ListsTypes crowdedSchema
        ((View.mk .schemaRoot true none "").panel crowdedPresentation).content.toList := by
  have plain (source : String) : '<' ∉ (Html.escape source).toList := by
    rw [Html.escape, String.toList_ofList]
    exact Html.not_mem_escapeChars (by decide) _
  have without : WithoutMembers crowdedPresentation.text :=
    ⟨fun source => Finder.avoids_of_text (plain source),
      fun source => Finder.avoids_of_text (plain source),
      fun source => Finder.avoids_of_text (plain source)⟩
  exact ⟨without, by decide, (panel_lists_members crowdedPresentation _).1 crowdedType rfl without,
    (panel_lists_members crowdedPresentation _).2 crowdedSchema rfl rfl⟩

end SchemaGuide.Explorer
