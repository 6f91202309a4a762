import SchemaGuide.Proofs.Completion.Documented
import SchemaGuide.Proofs.Schema.Origin

/-! Deprecations as they are told. What a document says of a field comes to a reader in three
places, and each of them works it out anew: the item that completes the field has a tag, the panel
of its type lists it in a section of its own, and the documentation of the item ends with a note.
They tell a deprecation exactly if the record of the field does. -/
namespace SchemaGuide

open Introspection

/-! ## Sections of a panel -/

namespace Explorer

open Html (Node)

/-- The title and the lines of a section. -/
def titled? : Node → Option (String × List Node)
  | .element .div [(.styleClass, outer)]
      (.element .div [(.styleClass, inner)] [.text title] :: lines) =>
    if outer = "doc-section" ∧ inner = "doc-section-title" then some (title, lines) else none
  | _ => none

/-- The lines of a body that stand under a title. -/
def linesUnder (title : String) (body : List Node) : List Node :=
  (body.filterMap titled?).flatMap fun part => if part.1 = title then part.2 else []

variable {title : String}

theorem linesUnder_append (first second : List Node) :
    linesUnder title (first ++ second) = linesUnder title first ++ linesUnder title second := by
  simp [linesUnder]

theorem linesUnder_sectionOfSome (other : String) (lines : List Node) :
    linesUnder title (sectionOfSome other lines) = if other = title then lines else [] := by
  have whole : titled? (titledSection other lines) = some (other, lines) := rfl
  cases lines with
  | nil => simp [sectionOfSome, linesUnder]
  | cons line rest => simp [sectionOfSome, linesUnder, whole]

theorem linesUnder_describe (renderer : TextRenderer) (text : Option String) :
    linesUnder title (describe renderer text) = [] := by
  rw [describe]
  split
  · rfl
  · rfl

/-- Under the first of the two titles for fields stand the fields of a type that are not
deprecated, with the input fields behind them, and under the second one the others. -/
theorem field_lines (renderer : TextRenderer) (type : NamedType) :
    linesUnder "Fields" (typeBody renderer type) =
        (type.fields.filter (!·.deprecation.isSome)).map (fieldLine type.name) ++
          type.inputFields.map inputLine ∧
      linesUnder "Deprecated Fields" (typeBody renderer type) =
        (type.fields.filter (·.deprecation.isSome)).map (fieldLine type.name) := by
  have opening (title : String) : linesUnder title
      (Html.div "doc-kind" [.text type.kind.label] :: describe renderer type.description) = [] :=
    linesUnder_describe renderer type.description
  have possible : possibleTypesTitle type.kind ≠ "Fields" ∧
      possibleTypesTitle type.kind ≠ "Deprecated Fields" := by
    cases type.kind <;> decide
  simp only [typeBody, List.partition_eq_filter_filter, linesUnder_append,
    linesUnder_sectionOfSome, opening, if_neg possible.1, if_neg possible.2]
  constructor <;> simp [Function.comp_def]

end Explorer

/-! ## Documentation of a field -/

namespace Completion

/-- The item carries the names of the subject. -/
def Item.Carries (item : Item) (subject : Subject) : Prop :=
  item.data.bind Subject.ofJson? = some subject

/-- The documentation of a suggestion without a note on its deprecation. -/
def infoOf (settings : Settings) (suggestion : Overlay.Suggestion) : String :=
  Overlay.composeInfo (rendererFor settings.markup) settings.markup settings.fallbackDescription
    suggestion

/-- The note on a deprecation for that reason, behind a blank line. -/
def noteOf (settings : Settings) (reason : String) : String :=
  "\n\n" ++ (settings.markup.deprecationLabel ++ rendererFor settings.markup reason)

theorem documentationOf_eq (settings : Settings) (suggestion : Overlay.Suggestion) :
    documentationOf settings suggestion =
      infoOf settings suggestion ++ (suggestion.deprecation.map (noteOf settings)).getD "" := by
  obtain ⟨label, type, description, deprecation⟩ := suggestion
  cases deprecation with
  | none => exact (String.append_empty).symm
  | some reason => exact String.append_assoc

/-- A note is there to be seen. -/
theorem append_noteOf_ne (settings : Settings) (text reason : String) :
    text ++ noteOf settings reason ≠ text := by
  intro same
  have lengths := congrArg String.length same
  rw [noteOf, String.length_append, String.length_append] at lengths
  have blank : "\n\n".length = 2 := rfl
  omega

theorem document_of_carries {schema : Schema} {item : Item} {subject : Subject}
    {suggestion : Overlay.Suggestion} (carries : item.Carries subject)
    (meant : subject.suggestion? schema = some suggestion) (settings : Settings) :
    (document settings schema item).documentation =
      some (.markup markdownKind (documentationOf settings suggestion)) := by
  obtain ⟨data, given, read⟩ := Option.bind_eq_some_iff.mp carries
  simp [document, suggestionFor?, given, read, meant]

end Completion

open Completion Explorer

/-! ## Fields and their records -/

/-- The field is told of as its record says: its item has the tag of a deprecation exactly if the
record tells one, and so has the documentation of an item for the field a note with the reason. -/
structure Field.Told (schema : Schema) (type : NamedType) (field : Field) (record : Json) :
    Prop where
  name : record.at? fieldKeys "name" = some (.ofText field.name)
  deprecation : field.deprecation = if saysDeprecated record then some (reasonOf record) else none
  reason : reasonOf record ≠ ""
  tagged : (fieldItem type field).tags = some [deprecatedTag] ↔ saysDeprecated record
  untagged : (fieldItem type field).tags = none ↔ ¬ saysDeprecated record
  carried : (fieldItem type field).Carries ⟨type.name, field.name, none⟩
  /-- An item for a name is documented by the first field of that name. -/
  documented : type.field? field.name = some field → ∀ (session : Session) (item : Item),
    session.schema? = some schema → item.Carries ⟨type.name, field.name, none⟩ →
    let info := infoOf session.settings (suggestionOfField field)
    ((session.documentItem item).documentation =
        some (.markup markdownKind (info ++ noteOf session.settings (reasonOf record))) ↔
      saysDeprecated record) ∧
    ((session.documentItem item).documentation = some (.markup markdownKind info) ↔
      ¬ saysDeprecated record)

/-- Whatever a field keeps of its record is told. -/
theorem Field.ReadFrom.toldAlike {schema : Schema} {type : NamedType} {field : Field}
    {record : Json} (readFrom : field.ReadFrom record) (listed : type ∈ schema.types.entries) :
    field.Told schema type record := by
  obtain ⟨name, deprecation⟩ := readFrom.told
  have found : schema.type? type.name = some type := TypeTable.get?_of_mem listed
  have tags : (fieldItem type field).tags =
      if saysDeprecated record then some [deprecatedTag] else none := by
    rw [fieldItem, deprecation]
    cases saysDeprecated record <;> rfl
  refine ⟨name, deprecation, reasonOf_ne_empty record, ?_, ?_, Subject.ofJson_toJson _,
    fun first session item loaded carries => ?_⟩
  · rw [tags]
    cases saysDeprecated record <;> simp
  · rw [tags]
    cases saysDeprecated record <;> simp
  · have meant : Subject.suggestion? ⟨type.name, field.name, none⟩ schema =
        some (suggestionOfField field) := by
      rw [Subject.suggestion?, Schema.field_definition, found, Option.bind_some, first]
      rfl
    have text : documentationOf session.settings (suggestionOfField field) =
        infoOf session.settings (suggestionOfField field) ++
          if saysDeprecated record then noteOf session.settings (reasonOf record) else "" := by
      rw [documentationOf_eq]
      change _ ++ (field.deprecation.map _).getD "" = _
      rw [deprecation]
      cases saysDeprecated record <;> rfl
    have seen := append_noteOf_ne session.settings
      (infoOf session.settings (suggestionOfField field)) (reasonOf record)
    rw [Session.documentItem, loaded, document_of_carries carries meant, text]
    cases saysDeprecated record with
    | true => exact ⟨iff_of_true rfl rfl, iff_of_false (by simpa using seen) (by simp)⟩
    | false => exact ⟨iff_of_false (by simpa using seen.symm) (by simp), by simp⟩

/-! ## Types and their records -/

/-- What is told of the fields of a type agrees with their records, which are in the order of the
fields. -/
structure NamedType.Told (schema : Schema) (type : NamedType) (records : List Json) : Prop where
  fields : List.Forall₂ (fun record field => Field.Told schema type field record) records
    type.fields
  reached : Query.followPath schema [.typeCondition type.name] = some type
  /-- Where the type is selected from, each field is offered, and at most a name behind them. -/
  offered : ∀ path, Query.followPath schema path = some type →
    ∃ trailing, offer schema (.selection path) = type.fields.map (fieldItem type) ++ trailing ∧
      ∀ item ∈ trailing, item.tags = none
  deprecatedLines : ∀ (presentation : Presentation) (view : View),
    view.mode = .typeDetail type →
      linesUnder "Deprecated Fields" (view.panel presentation).body =
        ((records.zip type.fields).filter (saysDeprecated ·.1)).map (fieldLine type.name ·.2)
  otherLines : ∀ (presentation : Presentation) (view : View),
    view.mode = .typeDetail type →
      linesUnder "Fields" (view.panel presentation).body =
        ((records.zip type.fields).filter (!saysDeprecated ·.1)).map (fieldLine type.name ·.2) ++
          type.inputFields.map inputLine

/-- Fields are chosen alike by themselves and by their records. -/
private theorem filter_zip {records : List Json} {fields : List Field}
    {chosen : Json → Bool} {kept : Field → Bool}
    (same : List.Forall₂ (fun record field => kept field = chosen record) records fields) :
    ((records.zip fields).filter (chosen ·.1)).map (·.2) = fields.filter kept := by
  induction same with
  | nil => rfl
  | @cons record field records fields first _ ih =>
    cases told : chosen record with
    | true => simp [told, first, ih]
    | false => simp [told, first, ih]

theorem NamedType.ReadFrom.toldAlike {schema : Schema} {type : NamedType} {record : Json}
    (readFrom : type.ReadFrom record) (listed : type ∈ schema.types.entries) :
    record.at? typeKeys "name" = some (.ofText type.name) ∧
      ∃ records, records.Sublist (fieldRecords record) ∧ type.Told schema records := by
  obtain ⟨name, records, inside, fields⟩ := readFrom.listed
  have deprecated : List.Forall₂
      (fun record field => field.deprecation.isSome = saysDeprecated record) records
      type.fields := by
    refine fields.imp fun record field readFrom => ?_
    rw [readFrom.told.2]
    cases saysDeprecated record <;> rfl
  have others : List.Forall₂
      (fun record field => (!field.deprecation.isSome) = !saysDeprecated record) records
      type.fields :=
    deprecated.imp fun _ _ same => congrArg (!·) same
  have reached : Query.followPath schema [.typeCondition type.name] = some type := by
    have found : schema.type? type.name = some type := TypeTable.get?_of_mem listed
    simp [Query.followPath, Query.followFrom, Query.Step.follow, found]
  refine ⟨name, records, inside, ?_, reached, fun path led => ?_, fun presentation view mode => ?_,
    fun presentation view mode => ?_⟩
  · exact fields.imp fun _ _ readFrom => readFrom.toldAlike listed
  · refine ⟨if type.isComposite then [typenameItem type] else [], ?_, fun item member => ?_⟩
    · simp [offer, led, fieldItems]
    · split at member
      · obtain rfl := List.mem_singleton.mp member
        rfl
      · cases member
  · rw [View.panel, mode]
    change linesUnder _ (typeBody presentation.text type) = _
    rw [(field_lines presentation.text type).2, ← filter_zip deprecated, List.map_map]
    rfl
  · rw [View.panel, mode]
    change linesUnder _ (typeBody presentation.text type) = _
    rw [(field_lines presentation.text type).1, ← filter_zip others, List.map_map]
    rfl

/-- **Deprecations are told alike.** Let a text be read as a schema. Then each type of the schema
has a record in the document of the text, and its fields have records inside of that one, in the
order of the fields, such that the tag of an item, the section of the panel and the documentation
all tell a deprecation exactly if the record of the field does: if it is flagged, or gives a reason
that is not empty, for which the standard one stands in. -/
theorem deprecation_is_told_alike {text : String} {schema : Schema}
    (parsed : Introspection.parse text = .ok schema) :
    ∃ document, Json.parse? text = some document ∧ ∀ type ∈ schema.types.entries,
      ∃ record ∈ typeRecords document, record.at? typeKeys "name" = some (.ofText type.name) ∧
        ∃ records, records.Sublist (fieldRecords record) ∧ type.Told schema records := by
  obtain ⟨document, spelled, types⟩ := types_of_parse parsed
  refine ⟨document, spelled, fun type listed => ?_⟩
  obtain ⟨record, inside, readFrom⟩ := types type listed
  exact ⟨record, inside, readFrom.toldAlike listed⟩

/-! ## A flag with an empty reason -/

private def countText : String :=
  "\x7b\"__schema\":\x7b\"types\":[\x7b\"kind\":\"OBJECT\",\"name\":\"Query\"," ++
    "\"fields\":[\x7b\"name\":\"count\",\"type\":\x7b\"kind\":\"SCALAR\",\"name\":\"Int\"\x7d," ++
    "\"isDeprecated\":true,\"deprecationReason\":\"\"\x7d]\x7d]\x7d\x7d"

private def countType : NamedType where
  name := "Query"
  kind := .object
  description := none
  fields := [⟨"count", .named "Int", none, some "No longer supported", []⟩]
  inputFields := []
  enumValues := []
  interfaces := []
  possibleTypes := []

private def countSchema : Schema := ⟨none, none, none, none, .ofList [countType]⟩

/-- The standard reason stands in for the empty one. -/
theorem flagged_field_is_told :
    Introspection.parse countText = .ok countSchema ∧
      ∃ record, saysDeprecated record = true ∧ reasonOf record = "No longer supported" ∧
        countType.Told countSchema [record] := by
  have parsed : Introspection.parse countText = .ok countSchema := by decide +kernel
  obtain ⟨document, _, types⟩ := deprecation_is_told_alike parsed
  obtain ⟨_, _, _, records, _, told⟩ := types countType List.mem_cons_self
  obtain ⟨record, others, first, rest, rfl⟩ := List.forall₂_cons_right_iff.mp told.fields
  obtain rfl := List.forall₂_nil_right_iff.mp rest
  have flagged : saysDeprecated record = true := first.tagged.mp rfl
  have reason := first.deprecation
  rw [flagged] at reason
  exact ⟨parsed, record, flagged, (Option.some.inj reason).symm, told⟩

end SchemaGuide
