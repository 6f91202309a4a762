import SchemaGuide.Proofs.Json.Given
import SchemaGuide.Schema.Introspection

/-! Where the parts of a schema come from. A schema that was read from a text has each of its
types from a record of the document, and each field of the type from a record inside of that one,
in the order of the records. What a record says of a deprecation is told here from its two keys
alone. -/
namespace SchemaGuide

namespace Introspection

/-! ## Records of a document -/

/-- The keys of a result. -/
def resultKeys : List String := ["data", "__schema", "errors"]

/-- The keys of a schema. -/
def schemaKeys : List String :=
  ["description", "queryType", "mutationType", "subscriptionType", "types"]

/-- The keys of a type. -/
def typeKeys : List String :=
  ["kind", "name", "description", "fields", "inputFields", "interfaces", "enumValues",
    "possibleTypes"]

/-- The keys of a field. -/
def fieldKeys : List String :=
  ["name", "description", "args", "type", "isDeprecated", "deprecationReason"]

/-- The schema that a document carries. One inside `data` goes before one at the top. -/
def schemaRecord? (document : Json) : Option Json :=
  ((document.given? resultKeys "data").bind (·.given? ["__schema"] "__schema")).or
    (document.given? resultKeys "__schema")

/-- The types that a document lists. -/
def typeRecords (document : Json) : List Json :=
  (schemaRecord? document).elim [] (·.itemsAt schemaKeys "types")

/-- The fields that a type lists. -/
def fieldRecords (type : Json) : List Json :=
  type.itemsAt typeKeys "fields"

/-! ## Deprecations of a document -/

/-- Whether a field says that it is deprecated. -/
def isFlagged (field : Json) : Bool :=
  (field.at? fieldKeys "isDeprecated").bind Json.bool? == some true

/-- The reason that a field gives for its deprecation. The empty text is none. -/
def givenReason? (field : Json) : Option String :=
  ((field.at? fieldKeys "deprecationReason").bind Json.text?).filter (!·.isEmpty)

/-- Whether a field is deprecated, because it says so or gives a reason. -/
def saysDeprecated (field : Json) : Bool :=
  isFlagged field || (givenReason? field).isSome

/-- The reason of a deprecation: the one that is given, or else the standard one. -/
def reasonOf (field : Json) : String :=
  (givenReason? field).getD "No longer supported"

theorem reasonOf_ne_empty (field : Json) : reasonOf field ≠ "" := by
  rw [reasonOf]
  cases given : givenReason? field with
  | none => exact nofun
  | some reason =>
    have told := (Option.filter_eq_some_iff.mp given).2
    simpa using told

end Introspection

open Introspection

/-! ## Fields -/

/-- The record is read as the field. -/
def Field.ReadFrom (field : Field) (record : Json) : Prop :=
  ∃ levels raw, RawField.decode? levels record = some raw ∧ raw.field? = some field

/-- The flag and the reason are all that counts. -/
private theorem deprecation_eq (flag : Bool) (reason : Option String) :
    deprecation flag reason =
      if flag || (reason.filter (!·.isEmpty)).isSome then
        some ((reason.filter (!·.isEmpty)).getD "No longer supported")
      else none := by
  rw [deprecation]
  cases reason.filter (!·.isEmpty) with
  | some told => simp
  | none => cases flag <;> rfl

/-- What a field keeps of its record: its name and its deprecation. -/
theorem Field.ReadFrom.told {field : Field} {record : Json} (readFrom : field.ReadFrom record) :
    record.at? fieldKeys "name" = some (.ofText field.name) ∧
      field.deprecation = if saysDeprecated record then some (reasonOf record) else none := by
  obtain ⟨levels, raw, decoded, converted⟩ := readFrom
  cases levels with
  | zero => cases decoded
  | succ levels =>
    simp only [RawField.decode?, Option.bind_eq_bind, Option.bind_eq_some_iff] at decoded
    obtain ⟨read, isRead, name, nameRead, _, _, _, _, _, _, flag, flagRead, reason, reasonRead,
      same⟩ := decoded
    obtain rfl := Option.some.inj same
    obtain ⟨_, _, rfl⟩ := Option.map_eq_some_iff.mp converted
    have named : record.at? fieldKeys "name" = some (.ofText name) := by
      obtain ⟨part, given, text⟩ := Json.Record.given_of_required isRead (by simp) nameRead
      rw [fieldKeys, given, Json.text?_eq_some_iff.mp text]
    have flagged : isFlagged record = flag :=
      Json.Record.flag_of_defaulted isRead (by simp) flagRead
    have told : (record.at? fieldKeys "deprecationReason").bind Json.text? = reason :=
      Json.Record.text_of_optional isRead (by simp) reasonRead
    refine ⟨named, ?_⟩
    rw [saysDeprecated, reasonOf, givenReason?, flagged, told]
    exact deprecation_eq flag reason

/-! ## Types -/

/-- The record is read as the type. -/
def NamedType.ReadFrom (type : NamedType) (record : Json) : Prop :=
  ∃ levels raw, RawType.decode? levels record = some raw ∧ raw.type? = some type

/-- What is converted comes from what was read, in the same order. -/
private theorem kept_of_forall₂ {α ρ β : Type} {reads : α → ρ → Prop} {items : List α}
    {raws : List ρ} (convert : ρ → Option β) (same : List.Forall₂ reads items raws) :
    ∃ kept, kept.Sublist items ∧
      List.Forall₂ (fun item x => ∃ raw, reads item raw ∧ convert raw = some x) kept
        (raws.filterMap convert) := by
  induction same with
  | nil => exact ⟨[], .slnil, .nil⟩
  | @cons item raw items raws first _ ih =>
    obtain ⟨kept, inside, others⟩ := ih
    cases converted : convert raw with
    | none =>
      rw [List.filterMap_cons_none converted]
      exact ⟨kept, inside.cons item, others⟩
    | some x =>
      rw [List.filterMap_cons_some converted]
      exact ⟨item :: kept, inside.cons_cons item, .cons ⟨raw, first, converted⟩ others⟩

/-- A type has its name and its fields from its record. -/
theorem NamedType.ReadFrom.listed {type : NamedType} {record : Json}
    (readFrom : type.ReadFrom record) :
    record.at? typeKeys "name" = some (.ofText type.name) ∧
      ∃ kept, kept.Sublist (fieldRecords record) ∧
        List.Forall₂ (fun part field => Field.ReadFrom field part) kept type.fields := by
  obtain ⟨levels, raw, decoded, converted⟩ := readFrom
  cases levels with
  | zero => cases decoded
  | succ levels =>
    simp only [RawType.decode?, Option.bind_eq_bind, Option.bind_eq_some_iff] at decoded
    obtain ⟨read, isRead, kind, _, name, nameRead, _, _, fields, fieldsRead, _, _, _, _, _, _, _,
      _, same⟩ := decoded
    obtain rfl := Option.some.inj same
    rw [RawType.type?] at converted
    split at converted
    · rename_i kind name _ named
      obtain rfl := Option.some.inj converted
      obtain rfl : _ = some name := named
      constructor
      · have told := Json.Record.text_of_optional isRead (by simp) nameRead
        obtain ⟨part, given, text⟩ := Option.bind_eq_some_iff.mp told
        rw [typeKeys, given, Json.text?_eq_some_iff.mp text]
      · obtain ⟨inner, items⟩ := Json.Record.items_of_optional isRead (by simp) fieldsRead
        obtain ⟨kept, inside, fields⟩ := kept_of_forall₂ RawField.field? items
        refine ⟨kept, inside, fields.imp fun part field readFrom => ?_⟩
        obtain ⟨raw, read, converted⟩ := readFrom
        exact ⟨inner, raw, read, converted⟩
    · cases converted

/-! ## Schemas -/

theorem TypeTable.mem_of_mem_ofList {types : List NamedType} {type : NamedType}
    (member : type ∈ (ofList types).entries) : type ∈ types := by
  have grown : ∀ (types : List NamedType) (table : TypeTable),
      type ∈ (types.foldl insert table).entries → type ∈ types ∨ type ∈ table.entries := by
    intro types
    induction types with
    | nil => exact fun _ member => .inr member
    | cons first rest ih =>
      intro table member
      rcases ih (table.insert first) member with later | here
      · exact .inl (List.mem_cons_of_mem first later)
      · rcases mem_place here with rfl | old
        · exact .inl List.mem_cons_self
        · exact .inr old
  exact (grown types empty member).resolve_right List.not_mem_nil

/-- What was read into a list was read from something. -/
private theorem mem_of_forall₂ {α β : Type} {reads : α → β → Prop} {items : List α}
    {list : List β} (same : List.Forall₂ reads items list) {x : β} (member : x ∈ list) :
    ∃ item ∈ items, reads item x := by
  induction same with
  | nil => cases member
  | @cons item first items rest here _ ih =>
    rcases List.mem_cons.mp member with rfl | later
    · exact ⟨item, List.mem_cons_self, here⟩
    · obtain ⟨other, inside, reads⟩ := ih later
      exact ⟨other, List.mem_cons_of_mem item inside, reads⟩

namespace Introspection

/-- A schema has its types from the records that it lists. -/
private theorem types_of_schema {levels : Nat} {record : Json} {raw : RawSchema}
    (decoded : RawSchema.decode? levels record = some raw) {type : NamedType}
    (member : type ∈ raw.schema.types.entries) :
    ∃ part ∈ record.itemsAt schemaKeys "types", type.ReadFrom part := by
  cases levels with
  | zero => cases decoded
  | succ levels =>
    simp only [RawSchema.decode?, Option.bind_eq_bind, Option.bind_eq_some_iff] at decoded
    obtain ⟨read, isRead, _, _, _, _, _, _, _, _, types, typesRead, same⟩ := decoded
    obtain rfl := Option.some.inj same
    obtain ⟨inner, items⟩ := Json.Record.items_of_defaulted isRead (by simp) typesRead
    obtain ⟨raw, listed, converted⟩ :=
      List.mem_filterMap.mp (TypeTable.mem_of_mem_ofList member)
    obtain ⟨part, inside, decoded⟩ := mem_of_forall₂ items listed
    exact ⟨part, inside, inner, raw, decoded, converted⟩

/-- The record is read as a schema in its layout. -/
def Carries (record : Json) (raw : RawSchema) : Prop :=
  ∃ levels, RawSchema.decode? levels record = some raw

/-- An envelope carries the schema of its record. -/
private theorem carried_of_envelope {levels : Nat} {record : Json} {carried : Option RawSchema}
    (decoded : decodeEnvelope? levels record = some carried) :
    Option.Rel Carries (record.given? ["__schema"] "__schema") carried := by
  cases levels with
  | zero => cases decoded
  | succ levels =>
    simp only [decodeEnvelope?, Option.bind_eq_bind, Option.bind_eq_some_iff] at decoded
    obtain ⟨read, isRead, schemaRead⟩ := decoded
    have given := Json.Record.given_of_optional isRead (by simp) schemaRead
    generalize record.given? ["__schema"] "__schema" = part at given ⊢
    cases given with
    | none => exact .none
    | some decoded => exact .some ⟨levels, decoded⟩

/-- A result carries the schema of the record that counts. -/
theorem carried_of_response {levels : Nat} {document : Json} {response : Response}
    (decoded : Response.decode? levels document = some response) :
    Option.Rel Carries (schemaRecord? document) (response.data.join.or response.schema) := by
  cases levels with
  | zero => cases decoded
  | succ levels =>
    simp only [Response.decode?, Option.bind_eq_bind, Option.bind_eq_some_iff] at decoded
    obtain ⟨read, isRead, data, dataRead, bare, bareRead, errors, _, same⟩ := decoded
    obtain rfl := Option.some.inj same
    have inside : Option.Rel (fun part carried => decodeEnvelope? levels part = some carried)
        (document.given? resultKeys "data") data :=
      Json.Record.given_of_optional isRead (by simp) dataRead
    have atTop : Option.Rel (fun part raw => RawSchema.decode? levels part = some raw)
        (document.given? resultKeys "__schema") bare :=
      Json.Record.given_of_optional isRead (by simp) bareRead
    rw [schemaRecord?]
    generalize document.given? resultKeys "data" = envelope at inside ⊢
    generalize document.given? resultKeys "__schema" = top at atTop ⊢
    have first : Option.Rel Carries (envelope.bind (·.given? ["__schema"] "__schema"))
        data.join := by
      cases inside with
      | none => exact .none
      | some decoded => exact carried_of_envelope decoded
    generalize envelope.bind (·.given? ["__schema"] "__schema") = part at first ⊢
    generalize data.join = carried at first
    cases first with
    | some carries => exact .some carries
    | none =>
      cases atTop with
      | none => exact .none
      | some decoded => exact .some ⟨levels, decoded⟩

/-- The schema of a result is the one that it carries. -/
theorem carried_of_schema? {response : Response} {schema : Schema}
    (found : response.schema? = .ok schema) :
    ∃ raw, response.data.join.or response.schema = some raw ∧ raw.schema = schema := by
  rw [Response.schema?] at found
  split at found
  · rename_i raw inside
    exact ⟨raw, by rw [inside]; rfl, Except.ok.inj found⟩
  · rename_i raw missing atTop
    exact ⟨raw, by rw [missing, atTop]; rfl, Except.ok.inj found⟩
  · split at found
    · cases found
    · cases found

/-- A schema that was read from a text has each type from a record of the document. -/
theorem types_of_parse {text : String} {schema : Schema} (parsed : parse text = .ok schema) :
    ∃ document, Json.parse? text = some document ∧ ∀ type ∈ schema.types.entries,
      ∃ record ∈ typeRecords document, type.ReadFrom record := by
  rw [parse] at parsed
  cases spelled : Json.parse? text with
  | none =>
    rw [spelled] at parsed
    cases parsed
  | some document =>
    simp only [spelled, decode] at parsed
    cases decoded : Response.decode? maxDepth document with
    | none =>
      rw [decoded] at parsed
      cases parsed
    | some response =>
      rw [decoded] at parsed
      obtain ⟨raw, carried, rfl⟩ := carried_of_schema? parsed
      have carries := carried_of_response decoded
      rw [carried] at carries
      refine ⟨document, rfl, fun type member => ?_⟩
      rw [typeRecords]
      generalize schemaRecord? document = record at carries ⊢
      cases carries with
      | some read =>
        obtain ⟨inner, decoded⟩ := read
        exact types_of_schema decoded member

end Introspection
end SchemaGuide
