import SchemaGuide.Proofs.Json.Printing
import SchemaGuide.Proofs.Schema.Layout

/-! A text in the standard layout is read as the schema that it lays out. Each record is decoded
into the parts that its layout gives, and the parts are turned into what is laid out, as long as
no deprecation has the empty text for its reason. The types find their places in the table
whatever their order in the text is. -/
namespace SchemaGuide

open Json

/-- If everything fine is converted back, then so is a list in which everything is fine. -/
private theorem filterMap_of_corresponds {α ρ : Type} {convert : ρ → Option α} {fine : α → Prop}
    {raws : List ρ} {list : List α}
    (same : List.Forall₂ (fun raw x => fine x → convert raw = some x) raws list)
    (all : ∀ x ∈ list, fine x) : raws.filterMap convert = list := by
  induction same with
  | nil => rfl
  | cons first _ ih =>
    obtain ⟨fineFirst, fineRest⟩ := List.forall_mem_cons.1 all
    rw [List.filterMap_cons_some (first fineFirst), ih fineRest]

/-! ## References -/

namespace Introspection

private theorem ofName?_keyword (kind : TypeKind) :
    Kind.ofName? kind.keyword = some (.of kind) := by
  cases kind <;> rfl

private theorem readKind {record : Record} {keys : List String} {value : Json} {word : String}
    {kind : Kind} (reads : record.Reads keys value) (known : "kind" ∈ keys)
    (given : value.Gives "kind" (IsText word)) (named : Kind.ofName? word = some kind)
    (levels : Nat) : record.required "kind" (Kind.decode? levels) = some kind := by
  have decoded : ∀ part, IsText word part → Kind.decode? levels part = some kind := by
    rintro _ rfl
    rw [ofText, Kind.decode?, named]
  obtain ⟨_, read, rfl⟩ := reads.required known given
    fun part isText => ⟨kind, decoded part isText, Eq.refl kind⟩
  exact read

/-- A reference is decoded from its kind, its name and what it wraps. -/
private theorem Reference.decode?_of_parts {levels : Nat} {value : Json} {word : String}
    {kind : Kind} (name : Option String) (inner : Option Reference)
    (isRecord : value.IsRecord ["kind", "name", "ofType"])
    (givesKind : value.Gives "kind" (IsText word)) (named : Kind.ofName? word = some kind)
    (givesName : value.MayGive "name" IsText name)
    (wraps : value.MayGive "ofType" (fun raw part => Reference.decode? levels part = some raw)
      inner) : Reference.decode? (levels + 1) value = some (.mk kind name inner) := by
  obtain ⟨record, isRead, reads⟩ := isRecord.read
  have kindRead := readKind reads (by simp) givesKind named levels
  have nameRead := reads.optional_text (by simp) _ givesName
  have noNull : Reference.decode? levels .null = none := by cases levels <;> rfl
  have innerRead := reads.optional_eq (by simp) wraps noNull fun raw _ read => ⟨raw, read, rfl⟩
  simp [Reference.decode?, isRead, kindRead, nameRead, innerRead]

/-- A name by itself is decoded, and it carries the name and stands for it. -/
private theorem Reference.decodes_name : Layout.Decodes TypeRef.NameLaidOut Reference.decode?
    fun raw name => raw.name = some name ∧ raw.type? = some (.named name) := by
  rintro _ name value laidOut
  cases laidOut with
  | named kind isRecord givesKind givesName inner =>
    exact ⟨_, Reference.decode?_of_parts (some name) none isRecord givesKind (ofName?_keyword kind)
      givesName inner, rfl, rfl⟩

/-- A reference is decoded, and it stands for its type. -/
private theorem Reference.decodes : Layout.Decodes TypeRef.LaidOut Reference.decode?
    fun raw type => raw.type? = some type := by
  intro levels type value laidOut
  induction laidOut with
  | named kind isRecord givesKind givesName inner =>
    obtain ⟨raw, read, _, same⟩ :=
      Reference.decodes_name _ _ _ (.named kind isRecord givesKind givesName inner)
    exact ⟨raw, read, same⟩
  | @list levels inner value part isRecord givesKind name wraps laidOut ih =>
    obtain ⟨raw, read, same⟩ := ih
    refine ⟨.mk .list none (some raw), ?_, ?_⟩
    · exact Reference.decode?_of_parts none (some raw) isRecord givesKind rfl name
        ⟨part, wraps, read⟩
    · simp [Reference.type?, same]
  | @nonNull levels inner value part isRecord givesKind name wraps laidOut ih =>
    obtain ⟨raw, read, same⟩ := ih
    refine ⟨.mk .nonNull none (some raw), ?_, ?_⟩
    · exact Reference.decode?_of_parts none (some raw) isRecord givesKind rfl name
        ⟨part, wraps, read⟩
    · simp [Reference.type?, same]

private theorem names_of_corresponds {raws : List Reference} {names : List String}
    (same : List.Forall₂ (fun raw name => raw.name = some name ∧ raw.type? = some (.named name))
      raws names) : raws.filterMap (·.name) = names :=
  filterMap_of_corresponds (same.imp fun _ _ named (_ : True) => named.1) fun _ _ => trivial

/-! ## Members of types -/

/-- The flag and the reason of a record are read, and they tell its deprecation. -/
private theorem readDeprecation {record : Record} {keys : List String} {value : Json}
    {deprecated : Option String} (reads : record.Reads keys value)
    (knownFlag : "isDeprecated" ∈ keys) (knownReason : "deprecationReason" ∈ keys)
    (deprecates : Deprecates value deprecated) :
    ∃ flag reason, record.defaulted "isDeprecated" bool? false = some flag ∧
      record.optional "deprecationReason" text? = some reason ∧
      (deprecated ≠ some "" → deprecation flag reason = deprecated) := by
  have readFlag := reads.get? _ knownFlag
  have readReason := reads.optional_text knownReason
  cases deprecates with
  | no flag reason =>
    refine ⟨false, none, ?_, readReason none reason, fun _ => rfl⟩
    rcases flag with missing | unset
    · rw [Record.defaulted, readFlag, missing]
    · rw [Record.defaulted, readFlag, unset]
      rfl
  | @because reason flag given =>
    have told : some reason ≠ some "" → ∀ flag, deprecation flag (some reason) = some reason := by
      intro nonempty flag
      have kept : (some reason).filter (!·.isEmpty) = some reason := by simpa using nonempty
      rw [deprecation, kept]
    rcases flag with missing | set
    · refine ⟨false, some reason, ?_, readReason (some reason) given, (told · false)⟩
      rw [Record.defaulted, readFlag, missing]
    · refine ⟨true, some reason, ?_, readReason (some reason) given, (told · true)⟩
      rw [Record.defaulted, readFlag, set]
      rfl
  | standard flag reason =>
    refine ⟨true, none, ?_, readReason none reason, fun _ => rfl⟩
    rw [Record.defaulted, readFlag, flag]
    rfl

end Introspection

open Introspection

private theorem InputValue.decodes : Layout.Decodes InputValue.LaidOut RawInputValue.decode?
    fun raw input => input.Explained → raw.value? = some input := by
  rintro _ input value ⟨parts⟩
  obtain ⟨record, isRead, reads⟩ := parts.isRecord.read
  have name := reads.required_text (by simp) parts.name
  have description := reads.optional_text (by simp) _ parts.description
  obtain ⟨type, typeRead, typeSame⟩ := reads.required (by simp) parts.type
    (Reference.decodes _ _)
  have default := reads.optional_text (by simp) _ parts.default
  obtain ⟨flag, reason, flagRead, reasonRead, told⟩ :=
    readDeprecation reads (by simp) (by simp) parts.deprecation
  refine ⟨⟨input.name, input.description, type, input.default, flag, reason⟩, ?_, ?_⟩
  · simp [RawInputValue.decode?, isRead, name, description, typeRead, default, flagRead,
      reasonRead]
  · intro explained
    simp [RawInputValue.value?, typeSame, told explained]

private theorem Field.decodes : Layout.Decodes Field.LaidOut RawField.decode?
    fun raw field => field.Explained → raw.field? = some field := by
  rintro _ field value ⟨parts⟩
  obtain ⟨record, isRead, reads⟩ := parts.isRecord.read
  have name := reads.required_text (by simp) parts.name
  have description := reads.optional_text (by simp) _ parts.description
  obtain ⟨args, argsRead, argsSame⟩ :=
    reads.defaultedList (by simp) InputValue.decodes parts.args
  obtain ⟨type, typeRead, typeSame⟩ := reads.required (by simp) parts.type
    (Reference.decodes _ _)
  obtain ⟨flag, reason, flagRead, reasonRead, told⟩ :=
    readDeprecation reads (by simp) (by simp) parts.deprecation
  refine ⟨⟨field.name, field.description, args, type, flag, reason⟩, ?_, ?_⟩
  · simp [RawField.decode?, isRead, name, description, argsRead, typeRead, flagRead, reasonRead]
  · rintro ⟨explained, argsExplained⟩
    simp [RawField.field?, typeSame, told explained,
      filterMap_of_corresponds argsSame argsExplained]

private theorem EnumValue.decodes : Layout.Decodes EnumValue.LaidOut RawEnumValue.decode?
    fun raw value => value.Explained → some raw.value = some value := by
  rintro _ enumValue value ⟨parts⟩
  obtain ⟨record, isRead, reads⟩ := parts.isRecord.read
  have name := reads.required_text (by simp) parts.name
  have description := reads.optional_text (by simp) _ parts.description
  obtain ⟨flag, reason, flagRead, reasonRead, told⟩ :=
    readDeprecation reads (by simp) (by simp) parts.deprecation
  refine ⟨⟨enumValue.name, enumValue.description, flag, reason⟩, ?_, ?_⟩
  · simp [RawEnumValue.decode?, isRead, name, description, flagRead, reasonRead]
  · intro explained
    simp [RawEnumValue.value, told explained]

/-! ## Types and schemas -/

private theorem NamedType.decodes : Layout.Decodes NamedType.LaidOut RawType.decode?
    fun raw type => type.Explained → raw.type? = some type := by
  rintro _ type value ⟨parts⟩
  obtain ⟨record, isRead, reads⟩ := parts.isRecord.read
  have kind := readKind reads (by simp) parts.kind (ofName?_keyword type.kind)
  have name := reads.optional_text (by simp) (some type.name) parts.name
  have description := reads.optional_text (by simp) _ parts.description
  obtain ⟨fields, fieldsRead, fieldsSame⟩ :=
    reads.optionalList (by simp) Field.decodes parts.fields
  obtain ⟨inputs, inputsRead, inputsSame⟩ :=
    reads.optionalList (by simp) InputValue.decodes parts.inputFields
  obtain ⟨interfaces, interfacesRead, interfacesSame⟩ :=
    reads.optionalList (by simp) Reference.decodes_name parts.interfaces
  obtain ⟨values, valuesRead, valuesSame⟩ :=
    reads.optionalList (by simp) EnumValue.decodes parts.enumValues
  obtain ⟨possible, possibleRead, possibleSame⟩ :=
    reads.optionalList (by simp) Reference.decodes_name parts.possibleTypes
  refine ⟨⟨.of type.kind, some type.name, type.description, fields, inputs, interfaces, values,
    possible⟩, ?_, ?_⟩
  · simp [RawType.decode?, isRead, kind, name, description, fieldsRead, inputsRead,
      interfacesRead, valuesRead, possibleRead]
  · rintro ⟨fieldsExplained, inputsExplained, valuesExplained⟩
    have valuesKept : (values.getD []).map (·.value) = type.enumValues := by
      rw [← List.filterMap_eq_map]
      exact filterMap_of_corresponds valuesSame valuesExplained
    simp [RawType.type?, valuesKept, filterMap_of_corresponds fieldsSame fieldsExplained,
      filterMap_of_corresponds inputsSame inputsExplained, names_of_corresponds interfacesSame,
      names_of_corresponds possibleSame]

namespace TypeTable

private theorem place_perm {type : NamedType} : ∀ {entries : List NamedType},
    type.name ∉ entries.map (·.name) → (place type entries).Perm (type :: entries)
  | [], _ => .refl _
  | first :: rest, new => by
    rw [List.map_cons, List.mem_cons, not_or] at new
    unfold place
    split
    · exact .refl _
    · rename_i notBefore
      split
      · exact ((place_perm new.2).cons first).trans (.swap type first rest)
      · rename_i notAfter
        exact absurd (String.le_antisymm (String.not_lt.1 notAfter) (String.not_lt.1 notBefore))
          new.1

/-- If no name occurs twice, every type finds a place of its own. -/
private theorem foldl_insert_perm : ∀ {types : List NamedType} {table : TypeTable},
    ((types ++ table.entries).map (·.name)).Nodup →
      (types.foldl insert table).entries.Perm (types ++ table.entries)
  | [], _, _ => .refl _
  | type :: rest, table, nodup => by
    rw [List.cons_append, List.map_cons, List.nodup_cons] at nodup
    have new : type.name ∉ table.entries.map (·.name) := fun member =>
      nodup.1 (by rw [List.map_append]; exact List.mem_append_right _ member)
    have placed : (table.insert type).entries.Perm (type :: table.entries) := place_perm new
    have moved : (rest ++ (table.insert type).entries).Perm (type :: (rest ++ table.entries)) :=
      (placed.append_left rest).trans List.perm_middle
    have nodupMoved : ((rest ++ (table.insert type).entries).map (·.name)).Nodup := by
      rw [(moved.map _).nodup_iff, List.map_cons, List.nodup_cons]
      exact nodup
    exact (foldl_insert_perm nodupMoved).trans moved

/-- A table is made from its types in any order. -/
theorem ofList_of_perm {listed : List NamedType} {table : TypeTable}
    (same : listed.Perm table.entries) : ofList listed = table := by
  have names : (table.entries.map (·.name)).Nodup := by
    rw [List.Nodup, List.pairwise_map]
    exact table.ordered.imp fun before => String.ne_of_lt before
  have nodup : ((listed ++ empty.entries).map (·.name)).Nodup := by
    rw [empty, List.append_nil, (same.map _).nodup_iff]
    exact names
  have perm : (ofList listed).entries.Perm table.entries := by
    simpa [ofList, empty] using (foldl_insert_perm nodup).trans (by simpa [empty] using same)
  -- Both are in the strict order of their names, so they can differ in nothing else.
  have equal : (ofList listed).entries = table.entries :=
    perm.eq_of_pairwise (fun _ _ _ _ before after => absurd after (String.lt_asymm before))
      (ofList listed).ordered table.ordered
  cases table
  cases equal
  rfl

end TypeTable

namespace Schema

private theorem decodes_root : Layout.Decodes RootLaidOut decodeName? Eq := by
  rintro _ name value ⟨isRecord, named⟩
  obtain ⟨record, isRead, reads⟩ := isRecord.read
  have name := reads.required_text (by simp) named
  exact ⟨_, by simp [decodeName?, isRead, name], rfl⟩

private theorem decodes : Layout.Decodes LaidOut RawSchema.decode?
    fun raw schema => schema.Explained → raw.schema = schema := by
  rintro _ schema value (@⟨levels, _, _, parts⟩)
  obtain ⟨record, isRead, reads⟩ := parts.isRecord.read
  obtain ⟨listed, anyOrder, types⟩ := parts.types
  have noNull : decodeName? levels .null = none := by cases levels <;> rfl
  have description := reads.optional_text (by simp) _ parts.description
  have query := reads.optional_eq (by simp) parts.query noNull (decodes_root _)
  have mutation := reads.optional_eq (by simp) parts.mutation noNull (decodes_root _)
  have subscription := reads.optional_eq (by simp) parts.subscription noNull (decodes_root _)
  obtain ⟨raws, typesRead, typesSame⟩ := reads.defaultedList (by simp) NamedType.decodes types
  refine ⟨⟨schema.description, schema.query, schema.mutation, schema.subscription, raws⟩, ?_, ?_⟩
  · simp [RawSchema.decode?, isRead, description, query, mutation, subscription, typesRead]
  · intro explained
    have kept : raws.filterMap (·.type?) = listed :=
      filterMap_of_corresponds typesSame fun type member =>
        explained type (anyOrder.mem_iff.1 member)
    simp [RawSchema.schema, kept, TypeTable.ofList_of_perm anyOrder]

end Schema

/-! ## Results -/

namespace Introspection

/-- A decoded schema corresponds to the one that is laid out. -/
private def Corresponds (raw : RawSchema) (schema : Schema) : Prop :=
  schema.Explained → raw.schema = schema

private theorem decodes_envelope :
    Layout.Decodes EnvelopeLaidOut decodeEnvelope? (Option.Rel Corresponds) := by
  rintro _ carried value (@⟨levels, _, _, isRecord, given⟩)
  obtain ⟨record, isRead, reads⟩ := isRecord.read
  have noNull : RawSchema.decode? levels .null = none := by cases levels <;> rfl
  obtain ⟨raw, read, same⟩ := reads.optional (by simp) given noNull (Schema.decodes levels)
  exact ⟨raw, by simp [decodeEnvelope?, isRead, read], same⟩

private theorem decodes_report : Layout.Decodes ReportLaidOut decodeReport? Eq := by
  rintro _ message value ⟨isRecord, given⟩
  obtain ⟨record, isRead, reads⟩ := isRecord.read
  have read := reads.required_text (by simp) given
  exact ⟨_, by simp [decodeReport?, isRead, read], rfl⟩

/-- The decoded schema that counts corresponds to the one that counts in the layout. -/
private theorem carried_corresponds {rawData : Option (Option RawSchema)}
    {data : Option (Option Schema)} {rawBare : Option RawSchema} {bare : Option Schema}
    {schema : Schema} (dataSame : Option.Rel (Option.Rel Corresponds) rawData data)
    (bareSame : Option.Rel Corresponds rawBare bare)
    (carried : data.join.or bare = some schema) :
    ∃ raw, rawData.join.or rawBare = some raw ∧ Corresponds raw schema := by
  have onlyBare : bare = some schema →
      ∃ raw, rawBare = some raw ∧ Corresponds raw schema := by
    rintro rfl
    cases bareSame with
    | some same => exact ⟨_, rfl, same⟩
  cases dataSame with
  | none => exact onlyBare carried
  | some inside =>
    cases inside with
    | none => exact onlyBare carried
    | some same =>
      cases carried
      exact ⟨_, rfl, same⟩

/-- A result that carries a schema yields it, whatever errors it reports. -/
theorem Response.schema?_of_carried {response : Response} {raw : RawSchema}
    (carried : response.data.join.or response.schema = some raw) :
    response.schema? = .ok raw.schema := by
  rw [Response.schema?]
  cases inside : response.data.join with
  | some inner =>
    rw [inside] at carried
    cases carried
    rfl
  | none =>
    rw [inside, Option.none_or] at carried
    rw [carried]

private theorem decodes_result : Layout.Decodes ResultLaidOut Response.decode?
    fun raw schema => schema.Explained → raw.schema? = .ok schema := by
  rintro _ schema value (@⟨levels, _, _, parts⟩)
  obtain ⟨record, isRead, reads⟩ := parts.isRecord.read
  obtain ⟨data, bare, givesData, givesBare, carried⟩ := parts.carries
  obtain ⟨messages, givesErrors⟩ := parts.errors
  have noEnvelope : decodeEnvelope? levels .null = none := by cases levels <;> rfl
  have noSchema : RawSchema.decode? levels .null = none := by cases levels <;> rfl
  have noReports : list? decodeReport? levels .null = none := by cases levels <;> rfl
  obtain ⟨rawData, dataRead, dataSame⟩ :=
    reads.optional (by simp) givesData noEnvelope (decodes_envelope levels)
  obtain ⟨rawBare, bareRead, bareSame⟩ :=
    reads.optional (by simp) givesBare noSchema (Schema.decodes levels)
  obtain ⟨reports, reportsRead, _⟩ :=
    reads.optional (by simp) givesErrors noReports (decodes_report.array levels)
  refine ⟨⟨rawData, rawBare, reports⟩, ?_, ?_⟩
  · simp [Response.decode?, isRead, dataRead, bareRead, reportsRead]
  · intro explained
    obtain ⟨raw, chosen, same⟩ := carried_corresponds dataSame bareSame carried
    rw [Response.schema?_of_carried chosen, same explained]

/-- A text that spells a schema in the standard layout is read as that schema. -/
theorem parse_of_spells {text : String} {value : Json} {schema : Schema}
    (spells : Json.Spells text value) (laidOut : ResultLaidOut maxDepth schema value)
    (explained : schema.Explained) : parse text = .ok schema := by
  obtain ⟨response, read, same⟩ := decodes_result _ _ _ laidOut
  rw [parse, Json.parse?_of_spells spells]
  simp only [decode, read, same explained]

/-! A result inside `data`, with its types out of order, a key that is no part of the layout and
wrappers around a name. -/
section Example

private def referenceTo (name : String) : Json :=
  ofNamed [("kind", .ofText "OBJECT"), ("name", .ofText name), ("ofType", .null)]

private def listType : Json :=
  ofNamed [("ofType", ofNamed [("kind", .ofText "NON_NULL"), ("ofType", referenceTo "User")]),
    ("name", .null), ("kind", .ofText "LIST")]

private def usersField : Json :=
  ofNamed [("name", .ofText "users"), ("isDeprecated", .bool true), ("position", .array [.null]),
    ("type", listType)]

private def queryType : Json :=
  ofNamed [("name", .ofText "Query"), ("fields", .array [usersField]), ("kind", .ofText "OBJECT")]

private def userType : Json :=
  ofNamed [("kind", .ofText "OBJECT"), ("name", .ofText "User"), ("description", .ofText "A\n"),
    ("interfaces", .array [])]

private def schemaValue : Json :=
  ofNamed [("types", .array [userType, queryType]),
    ("queryType", ofNamed [("name", .ofText "Query")]), ("mutationType", .null)]

private def resultValue : Json :=
  ofNamed [("data", ofNamed [("__schema", schemaValue)]), ("extensions", .null)]

private def users : Field :=
  ⟨"users", .list (.nonNull (.named "User")), none, some defaultDeprecation, []⟩

private def query : NamedType := ⟨"Query", .object, none, [users], [], [], [], []⟩

private def user : NamedType := ⟨"User", .object, some "A\n", [], [], [], [], []⟩

private def usersSchema : Schema where
  description := none
  query := some "Query"
  mutation := none
  subscription := none
  types := ⟨[query, user], by decide⟩

private theorem listType_laidOut : TypeRef.LaidOut 120 users.type listType :=
  .list ⟨_, rfl, by decide⟩ ⟨_, rfl, rfl⟩ (.inr rfl) rfl
    (.nonNull ⟨_, rfl, by decide⟩ ⟨_, rfl, rfl⟩ (.inl rfl) rfl
      (.named .object ⟨_, rfl, by decide⟩ ⟨_, rfl, rfl⟩ ⟨_, rfl, rfl⟩ (.inr rfl)))

private theorem users_laidOut : Field.LaidOut 121 users usersField :=
  .mk {
    isRecord := ⟨_, rfl, by decide⟩
    name := ⟨_, rfl, rfl⟩
    description := .inl rfl
    args := .inr ⟨rfl, rfl⟩
    type := ⟨_, rfl, listType_laidOut⟩
    deprecation := .standard rfl (.inl rfl) }

private theorem query_laidOut : NamedType.LaidOut 123 query queryType :=
  .mk {
    isRecord := ⟨_, rfl, by decide⟩
    kind := ⟨_, rfl, rfl⟩
    name := ⟨_, rfl, rfl⟩
    description := .inl rfl
    fields := .inl ⟨_, rfl, .mk ⟨_, rfl, .cons users_laidOut .nil⟩⟩
    inputFields := .inr ⟨rfl, .inl rfl⟩
    interfaces := .inr ⟨rfl, .inl rfl⟩
    enumValues := .inr ⟨rfl, .inl rfl⟩
    possibleTypes := .inr ⟨rfl, .inl rfl⟩ }

private theorem user_laidOut : NamedType.LaidOut 123 user userType :=
  .mk {
    isRecord := ⟨_, rfl, by decide⟩
    kind := ⟨_, rfl, rfl⟩
    name := ⟨_, rfl, rfl⟩
    description := ⟨_, rfl, rfl⟩
    fields := .inr ⟨rfl, .inl rfl⟩
    inputFields := .inr ⟨rfl, .inl rfl⟩
    interfaces := .inl ⟨_, rfl, .mk ⟨_, rfl, .nil⟩⟩
    enumValues := .inr ⟨rfl, .inl rfl⟩
    possibleTypes := .inr ⟨rfl, .inl rfl⟩ }

private theorem usersSchema_laidOut : Schema.LaidOut 125 usersSchema schemaValue :=
  .mk {
    isRecord := ⟨_, rfl, by decide⟩
    description := .inl rfl
    query := ⟨_, rfl, .mk ⟨⟨_, rfl, by decide⟩, _, rfl, rfl⟩⟩
    mutation := .inr rfl
    subscription := .inl rfl
    types := ⟨[user, query], .swap query user [],
      .inl ⟨_, rfl, .mk ⟨_, rfl, .cons user_laidOut (.cons query_laidOut .nil)⟩⟩⟩ }

private theorem result_laidOut : ResultLaidOut maxDepth usersSchema resultValue :=
  .mk {
    isRecord := ⟨_, rfl, by decide⟩
    carries := ⟨some (some usersSchema), none,
      ⟨_, rfl, .mk ⟨⟨_, rfl, by decide⟩, _, rfl, usersSchema_laidOut⟩⟩, .inl rfl, rfl⟩
    errors := ⟨none, .inl rfl⟩ }

/-- The printed result is read as its schema. -/
theorem wrapped_result_is_read :
    parse (Json.print resultValue) = .ok usersSchema :=
  parse_of_spells (Json.spells_print (by
      simp [resultValue, schemaValue, userType, queryType, usersField, listType, referenceTo,
        ofNamed, ofText, Json.IsPrintable, Json.arePrintable, Json.membersPrintable]))
    result_laidOut (by
      simp [Schema.Explained, NamedType.Explained, Field.Explained, usersSchema, query, user,
        users, defaultDeprecation])

end Example

end Introspection
end SchemaGuide
