import Mathlib.Data.List.Induction
import SchemaGuide.Proofs.Schema.Closed
import SchemaGuide.Proofs.Schema.Decoding
import SchemaGuide.Proofs.Schema.Origin

/-! What becomes of a document. A record of a type that has a name and a kind of its own becomes a
type, unless a later one has the name too. It keeps all members in their order but those with a
malformed type: a reference has to be wrappers around a name, and one that is not costs its own
field, argument or input field and nothing else. -/
namespace SchemaGuide

/-! ## Tables -/

namespace TypeTable

theorem find?_place (type : NamedType) (name : String) :
    ∀ {entries : List NamedType}, entries.Pairwise (·.name < ·.name) →
      (place type entries).find? (·.name == name) =
        if type.name = name then some type else entries.find? (·.name == name)
  | [], _ => by
    by_cases same : type.name = name <;> simp [place, same]
  | first :: rest, ordered => by
    rw [place]
    split
    · by_cases same : type.name = name <;> simp [same]
    · rename_i notBefore
      split
      · rename_i after
        have later := find?_place type name (List.pairwise_cons.1 ordered).2
        by_cases same : type.name = name
        · have other : first.name ≠ name := same ▸ String.ne_of_lt after
          simpa [other, same] using later
        · by_cases here : first.name = name <;> simp [here, same, later]
      · rename_i notAfter
        have equal : type.name = first.name :=
          String.le_antisymm (String.not_lt.1 notAfter) (String.not_lt.1 notBefore)
        by_cases same : type.name = name
        · simp [same]
        · simp [same, equal ▸ same]

/-- The type is found by its name from now on, the others as before. -/
theorem get?_insert (table : TypeTable) (type : NamedType) (name : String) :
    (table.insert type).get? name = if type.name = name then some type else table.get? name :=
  find?_place type name table.ordered

/-- Of the types with a name the last one is found. -/
theorem get?_ofList (types : List NamedType) (name : String) :
    (ofList types).get? name = types.reverse.find? (·.name == name) := by
  induction types using List.reverseRecOn with
  | nil => rfl
  | append_singleton earlier type ih =>
    rw [ofList, List.foldl_append, List.foldl_cons, List.foldl_nil, get?_insert, ← ofList, ih,
      List.reverse_append, List.reverse_singleton, List.singleton_append]
    by_cases same : type.name = name <;> simp [same]

end TypeTable

/-! ## References -/

namespace Introspection

/-- The keys of a reference. -/
def referenceKeys : List String := ["kind", "name", "ofType"]

/-- The word that a value is: a text, or the name of its only member, which is null. -/
def word? : Json → Option String
  | .string word => word
  | .object [(word, .null)] => word
  | _ => none

/-- The kind that a value gives. -/
def kindAt? (keys : List String) (record : Json) : Option String :=
  (record.at? keys "kind").bind word?

/-- The text that a value gives for a key. -/
def textAt? (keys : List String) (key : String) (record : Json) : Option String :=
  (record.at? keys key).bind Json.text?

/-- The value is a reference to the type: wrappers, each around the next one, and then a kind of
types that have names, with a name. -/
inductive Refers : Json → TypeRef → Prop where
  | named {record : Json} {kind : TypeKind} {name : String}
    (isKind : kindAt? referenceKeys record = some kind.keyword)
    (isNamed : textAt? referenceKeys "name" record = some name) : Refers record (.named name)
  | list {record part : Json} {inner : TypeRef}
    (isList : kindAt? referenceKeys record = some "LIST")
    (wraps : record.at? referenceKeys "ofType" = some part) (refers : Refers part inner) :
    Refers record (.list inner)
  | nonNull {record part : Json} {inner : TypeRef}
    (isNonNull : kindAt? referenceKeys record = some "NON_NULL")
    (wraps : record.at? referenceKeys "ofType" = some part) (refers : Refers part inner) :
    Refers record (.nonNull inner)

/-- The name of a kind. -/
def Kind.keyword : Kind → String
  | .of kind => kind.keyword
  | .list => "LIST"
  | .nonNull => "NON_NULL"

theorem Kind.keyword_injective {kind other : Kind} (same : kind.keyword = other.keyword) :
    kind = other := by
  rcases kind with (_ | _ | _ | _ | _ | _) | _ | _ <;>
    rcases other with (_ | _ | _ | _ | _ | _) | _ | _ <;>
      first | rfl | exact absurd same (by decide)

theorem kind_unique {keys : List String} {record : Json} (kind other : Kind)
    (isKind : kindAt? keys record = some kind.keyword)
    (also : kindAt? keys record = some other.keyword) : kind = other :=
  Kind.keyword_injective (Option.some.inj (isKind.symm.trans also))

private theorem keyword_of_ofName? {name : String} {kind : Kind}
    (known : Kind.ofName? name = some kind) : name = kind.keyword := by
  unfold Kind.ofName? at known
  repeat' split at known
  all_goals cases known <;> assumption

theorem word_of_decode? {depth : Nat} {part : Json} {kind : Kind}
    (decoded : Kind.decode? depth part = some kind) : word? part = some kind.keyword := by
  rw [Kind.decode?.eq_def] at decoded
  split at decoded
  · exact congrArg some (keyword_of_ofName? decoded)
  · exact congrArg some (keyword_of_ofName? decoded)
  · cases decoded

theorem kind_of_required {keys : List String} {value : Json} {record : Json.Record} {depth : Nat}
    {kind : Kind} (read : value.record? keys = some record) (known : "kind" ∈ keys)
    (decoded : record.required "kind" (Kind.decode? depth) = some kind) :
    kindAt? keys value = some kind.keyword := by
  obtain ⟨part, given, decoded⟩ := Json.Record.given_of_required read known decoded
  rw [kindAt?, given]
  exact word_of_decode? decoded

/-- The parts of a reference that was read. -/
theorem parts_of_reference {depth : Nat} {value : Json} {kind : Kind} {name : Option String}
    {inner : Option Reference}
    (decoded : Reference.decode? depth value = some (.mk kind name inner)) :
    kindAt? referenceKeys value = some kind.keyword ∧ textAt? referenceKeys "name" value = name ∧
      ∃ levels, levels < depth ∧
        Option.Rel (fun part raw => Reference.decode? levels part = some raw)
          (value.given? referenceKeys "ofType") inner := by
  cases depth with
  | zero => cases decoded
  | succ depth =>
    simp only [Reference.decode?, Option.bind_eq_bind, Option.bind_eq_some_iff] at decoded
    obtain ⟨record, read, kind, kindRead, name, nameRead, inner, innerRead, same⟩ := decoded
    cases same
    exact ⟨kind_of_required read (by decide) kindRead,
      Json.Record.text_of_optional read (by decide) nameRead,
      depth, Nat.lt_succ_self depth, Json.Record.given_of_optional read (by decide) innerRead⟩

/-- No value that is null is a reference. -/
theorem not_refers_null (type : TypeRef) : ¬ Refers .null type := by
  intro refers
  cases refers with
  | named isKind _ => cases isKind
  | list isList _ _ => cases isList
  | nonNull isNonNull _ _ => cases isNonNull

/-- What a wrapper wraps is not null. -/
theorem given_of_wraps {value part : Json} {type : TypeRef}
    (wraps : value.at? referenceKeys "ofType" = some part) (refers : Refers part type) :
    value.given? referenceKeys "ofType" = some part := by
  rw [Json.given?, wraps, Option.filter_some, if_pos]
  cases part with
  | null => exact absurd refers (not_refers_null type)
  | _ => rfl

/-- Where something wrapped was read, it is there. -/
private theorem part_of_inner {value : Json} {levels : Nat} {inner : Reference}
    (given : Option.Rel (fun part raw => Reference.decode? levels part = some raw)
      (value.given? referenceKeys "ofType") (some inner)) :
    ∃ part, value.at? referenceKeys "ofType" = some part ∧
      Reference.decode? levels part = some inner := by
  generalize found : value.given? referenceKeys "ofType" = part at given
  cases given with
  | some read => exact ⟨_, Json.at?_of_given? found, read⟩

/-- A reference that was read stands for a type exactly if the value is a reference to it. -/
theorem type_of_reference_iff {depth : Nat} {value : Json} {raw : Reference}
    (decoded : Reference.decode? depth value = some raw) (type : TypeRef) :
    raw.type? = some type ↔ Refers value type := by
  -- What is wrapped was read with fewer levels left.
  induction depth using Nat.strongRecOn generalizing value raw type with
  | ind depth ih =>
    obtain ⟨kind, name, inner⟩ := raw
    obtain ⟨isKind, isNamed, levels, fewer, given⟩ := parts_of_reference decoded
    constructor
    · intro converted
      cases kind with
      | of kind =>
        obtain ⟨name, rfl, rfl⟩ := Option.map_eq_some_iff.mp converted
        exact .named isKind isNamed
      | list =>
        cases inner with
        | none => cases converted
        | some inner =>
          obtain ⟨type, wrapped, rfl⟩ := Option.map_eq_some_iff.mp converted
          obtain ⟨part, wraps, read⟩ := part_of_inner given
          exact .list isKind wraps ((ih levels fewer read type).mp wrapped)
      | nonNull =>
        cases inner with
        | none => cases converted
        | some inner =>
          obtain ⟨type, wrapped, rfl⟩ := Option.map_eq_some_iff.mp converted
          obtain ⟨part, wraps, read⟩ := part_of_inner given
          exact .nonNull isKind wraps ((ih levels fewer read type).mp wrapped)
    · intro refers
      cases refers with
      | @named _ other _ ofKind named =>
        obtain rfl := kind_unique (.of other) kind ofKind isKind
        obtain rfl : name = some _ := isNamed.symm.trans named
        rfl
      | @list _ part inner isList wraps refers =>
        obtain rfl := kind_unique .list kind isList isKind
        rw [given_of_wraps wraps refers] at given
        cases given with
        | some read =>
          have converted := (ih levels fewer read _).mpr refers
          simp [Reference.type?, converted]
      | nonNull isNonNull wraps refers =>
        obtain rfl := kind_unique .nonNull kind isNonNull isKind
        rw [given_of_wraps wraps refers] at given
        cases given with
        | some read =>
          have converted := (ih levels fewer read _).mpr refers
          simp [Reference.type?, converted]

/-! ## Members -/

/-- The keys of an argument or input field. -/
def inputKeys : List String :=
  ["name", "description", "type", "defaultValue", "isDeprecated", "deprecationReason"]

/-- The keys of an enum value. -/
def enumValueKeys : List String := ["name", "description", "isDeprecated", "deprecationReason"]

/-- The type of the member is well-formed. -/
def IsTyped (keys : List String) (record : Json) : Prop :=
  ∃ part type, record.at? keys "type" = some part ∧ Refers part type

/-- The deprecation that the flag and the reason of a member make. -/
def deprecationAt (keys : List String) (record : Json) : Option String :=
  deprecation ((record.at? keys "isDeprecated").bind Json.bool? == some true)
    (textAt? keys "deprecationReason" record)

/-- Each record that fits is converted, in the order of the records, and the others are dropped. -/
inductive Keeps {α : Type} (fits : Json → Prop) (converted : α → Json → Prop) :
    List Json → List α → Prop where
  | nil : Keeps fits converted [] []
  | keep {record : Json} {records : List Json} {x : α} {list : List α} (fine : fits record)
      (made : converted x record) (others : Keeps fits converted records list) :
      Keeps fits converted (record :: records) (x :: list)
  | drop {record : Json} {records : List Json} {list : List α} (malformed : ¬ fits record)
      (others : Keeps fits converted records list) : Keeps fits converted (record :: records) list

end Introspection

open Introspection

/-- The argument or input field is what the record says. -/
structure InputValue.ConvertedFrom (value : InputValue) (record : Json) : Prop where
  name : textAt? inputKeys "name" record = some value.name
  type : ∃ part, record.at? inputKeys "type" = some part ∧ Refers part value.type
  description : textAt? inputKeys "description" record = value.description
  default : textAt? inputKeys "defaultValue" record = value.default
  deprecation : deprecationAt inputKeys record = value.deprecation

/-- The field is what the record says, without the arguments that have a malformed type. -/
structure Field.ConvertedFrom (field : Field) (record : Json) : Prop where
  name : textAt? fieldKeys "name" record = some field.name
  type : ∃ part, record.at? fieldKeys "type" = some part ∧ Refers part field.type
  description : textAt? fieldKeys "description" record = field.description
  deprecation : deprecationAt fieldKeys record = field.deprecation
  args : Keeps (IsTyped inputKeys) InputValue.ConvertedFrom (record.itemsAt fieldKeys "args")
    field.args

/-- The enum value is what the record says. -/
structure EnumValue.ConvertedFrom (value : EnumValue) (record : Json) : Prop where
  name : textAt? enumValueKeys "name" record = some value.name
  description : textAt? enumValueKeys "description" record = value.description
  deprecation : deprecationAt enumValueKeys record = value.deprecation

namespace Introspection

/-- What is read is kept exactly if it fits. -/
theorem keeps_of_forall₂ {α ρ : Type} {fits : Json → Prop} {converted : α → Json → Prop}
    {reads : Json → ρ → Prop} {convert : ρ → Option α} {records : List Json} {raws : List ρ}
    (same : List.Forall₂ reads records raws)
    (made : ∀ record raw x, reads record raw → convert raw = some x →
      fits record ∧ converted x record)
    (dropped : ∀ record raw, reads record raw → convert raw = none → ¬ fits record) :
    Keeps fits converted records (raws.filterMap convert) := by
  induction same with
  | nil => exact .nil
  | @cons record raw records raws first _ ih =>
    cases found : convert raw with
    | none =>
      rw [List.filterMap_cons_none found]
      exact .drop (dropped record raw first found) ih
    | some x =>
      rw [List.filterMap_cons_some found]
      obtain ⟨fine, made⟩ := made record raw x first found
      exact .keep fine made ih

/-- The type of a member that was read is well-formed exactly if it is converted. -/
theorem type_of_required {keys : List String} {value : Json} {record : Json.Record} {depth : Nat}
    {raw : Reference} (read : value.record? keys = some record) (known : "type" ∈ keys)
    (decoded : record.required "type" (Reference.decode? depth) = some raw) :
    (∀ type, raw.type? = some type →
      ∃ part, value.at? keys "type" = some part ∧ Refers part type) ∧
      (raw.type? = none → ¬ IsTyped keys value) := by
  obtain ⟨part, given, decoded⟩ := Json.Record.given_of_required read known decoded
  constructor
  · intro type converted
    exact ⟨part, given, (type_of_reference_iff decoded type).mp converted⟩
  · rintro missing ⟨other, type, present, refers⟩
    obtain rfl : part = other := Option.some.inj (given.symm.trans present)
    rw [(type_of_reference_iff decoded type).mpr refers] at missing
    cases missing

theorem deprecation_of_parts {keys : List String} {value : Json} {record : Json.Record}
    {flag : Bool} {reason : Option String} (read : value.record? keys = some record)
    (knownFlag : "isDeprecated" ∈ keys) (knownReason : "deprecationReason" ∈ keys)
    (flagRead : record.defaulted "isDeprecated" Json.bool? false = some flag)
    (reasonRead : record.optional "deprecationReason" Json.text? = some reason) :
    deprecationAt keys value = deprecation flag reason := by
  have told : textAt? keys "deprecationReason" value = reason :=
    Json.Record.text_of_optional read knownReason reasonRead
  rw [deprecationAt, Json.Record.flag_of_defaulted read knownFlag flagRead, told]

theorem input_of_record {levels : Nat} {record : Json} {raw : RawInputValue}
    (decoded : RawInputValue.decode? levels record = some raw) :
    (∀ value, raw.value? = some value →
      IsTyped inputKeys record ∧ value.ConvertedFrom record) ∧
      (raw.value? = none → ¬ IsTyped inputKeys record) := by
  cases levels with
  | zero => cases decoded
  | succ levels =>
    simp only [RawInputValue.decode?, Option.bind_eq_bind, Option.bind_eq_some_iff] at decoded
    obtain ⟨read, isRead, name, nameRead, description, descriptionRead, type, typeRead, default,
      defaultRead, flag, flagRead, reason, reasonRead, same⟩ := decoded
    obtain rfl := Option.some.inj same
    obtain ⟨refers, malformed⟩ := type_of_required isRead (by decide) typeRead
    constructor
    · intro value converted
      obtain ⟨type, found, rfl⟩ := Option.map_eq_some_iff.mp converted
      obtain ⟨part, given, refers⟩ := refers type found
      exact ⟨⟨part, type, given, refers⟩, {
        name := Json.Record.text_of_required isRead (by decide) nameRead
        type := ⟨part, given, refers⟩
        description := Json.Record.text_of_optional isRead (by decide) descriptionRead
        default := Json.Record.text_of_optional isRead (by decide) defaultRead
        deprecation :=
          deprecation_of_parts isRead (by decide) (by decide) flagRead reasonRead }⟩
    · intro dropped
      exact malformed (Option.map_eq_none_iff.mp dropped)

theorem keeps_inputs {levels : Nat} {records : List Json} {raws : List RawInputValue}
    (read : List.Forall₂ (fun record raw => RawInputValue.decode? levels record = some raw)
      records raws) :
    Keeps (IsTyped inputKeys) InputValue.ConvertedFrom records
      (raws.filterMap RawInputValue.value?) :=
  keeps_of_forall₂ read (fun _ _ x decoded => (input_of_record decoded).1 x)
    fun _ _ decoded => (input_of_record decoded).2

theorem field_of_record {levels : Nat} {record : Json} {raw : RawField}
    (decoded : RawField.decode? levels record = some raw) :
    (∀ field, raw.field? = some field →
      IsTyped fieldKeys record ∧ field.ConvertedFrom record) ∧
      (raw.field? = none → ¬ IsTyped fieldKeys record) := by
  cases levels with
  | zero => cases decoded
  | succ levels =>
    simp only [RawField.decode?, Option.bind_eq_bind, Option.bind_eq_some_iff] at decoded
    obtain ⟨read, isRead, name, nameRead, description, descriptionRead, args, argsRead, type,
      typeRead, flag, flagRead, reason, reasonRead, same⟩ := decoded
    obtain rfl := Option.some.inj same
    obtain ⟨refers, malformed⟩ := type_of_required isRead (by decide) typeRead
    obtain ⟨inner, args⟩ := Json.Record.items_of_defaulted isRead (by decide) argsRead
    constructor
    · intro field converted
      obtain ⟨type, found, rfl⟩ := Option.map_eq_some_iff.mp converted
      obtain ⟨part, given, refers⟩ := refers type found
      exact ⟨⟨part, type, given, refers⟩, {
        name := Json.Record.text_of_required isRead (by decide) nameRead
        type := ⟨part, given, refers⟩
        description := Json.Record.text_of_optional isRead (by decide) descriptionRead
        deprecation :=
          deprecation_of_parts isRead (by decide) (by decide) flagRead reasonRead
        args := keeps_inputs args }⟩
    · intro dropped
      exact malformed (Option.map_eq_none_iff.mp dropped)

theorem enumValue_of_record {levels : Nat} {record : Json} {raw : RawEnumValue}
    (decoded : RawEnumValue.decode? levels record = some raw) :
    raw.value.ConvertedFrom record := by
  cases levels with
  | zero => cases decoded
  | succ levels =>
    simp only [RawEnumValue.decode?, Option.bind_eq_bind, Option.bind_eq_some_iff] at decoded
    obtain ⟨read, isRead, name, nameRead, description, descriptionRead, flag, flagRead, reason,
      reasonRead, same⟩ := decoded
    obtain rfl := Option.some.inj same
    exact {
      name := Json.Record.text_of_required isRead (by decide) nameRead
      description := Json.Record.text_of_optional isRead (by decide) descriptionRead
      deprecation := deprecation_of_parts isRead (by decide) (by decide) flagRead reasonRead }

/-! ## Types -/

/-- The record is one of a type with this name. -/
def Declares (record : Json) (name : String) : Prop :=
  textAt? typeKeys "name" record = some name ∧
    ∃ kind : TypeKind, kindAt? typeKeys record = some kind.keyword

end Introspection

/-- The type is what the record says, without the members that have a malformed type. -/
structure NamedType.ConvertedFrom (type : NamedType) (record : Json) : Prop where
  name : textAt? typeKeys "name" record = some type.name
  kind : kindAt? typeKeys record = some type.kind.keyword
  description : textAt? typeKeys "description" record = type.description
  fields : Keeps (IsTyped fieldKeys) Field.ConvertedFrom (fieldRecords record) type.fields
  inputFields : Keeps (IsTyped inputKeys) InputValue.ConvertedFrom
    (record.itemsAt typeKeys "inputFields") type.inputFields
  enumValues : List.Forall₂ (fun part value => EnumValue.ConvertedFrom value part)
    (record.itemsAt typeKeys "enumValues") type.enumValues
  interfaces : (record.itemsAt typeKeys "interfaces").filterMap (textAt? referenceKeys "name") =
    type.interfaces
  possibleTypes :
    (record.itemsAt typeKeys "possibleTypes").filterMap (textAt? referenceKeys "name") =
      type.possibleTypes

namespace Introspection

theorem names_of_references {levels : Nat} {records : List Json} {raws : List Reference}
    (read : List.Forall₂ (fun record raw => Reference.decode? levels record = some raw)
      records raws) :
    records.filterMap (textAt? referenceKeys "name") = raws.filterMap (·.name) := by
  induction read with
  | nil => rfl
  | @cons record raw records raws first _ ih =>
    obtain ⟨kind, name, inner⟩ := raw
    obtain ⟨_, named, _⟩ := parts_of_reference first
    rw [List.filterMap_cons, List.filterMap_cons, named, ih]
    rfl

theorem enumValues_of_records {levels : Nat} {records : List Json} {raws : List RawEnumValue}
    (read : List.Forall₂ (fun record raw => RawEnumValue.decode? levels record = some raw)
      records raws) :
    List.Forall₂ (fun part value => EnumValue.ConvertedFrom value part) records
      (raws.map (·.value)) := by
  rw [List.forall₂_map_right_iff]
  exact read.imp fun _ _ decoded => enumValue_of_record decoded

theorem type_of_record {levels : Nat} {record : Json} {raw : RawType}
    (decoded : RawType.decode? levels record = some raw) :
    (∀ type, raw.type? = some type → Declares record type.name ∧ type.ConvertedFrom record) ∧
      (raw.type? = none → ∀ name, ¬ Declares record name) := by
  cases levels with
  | zero => cases decoded
  | succ levels =>
    simp only [RawType.decode?, Option.bind_eq_bind, Option.bind_eq_some_iff] at decoded
    obtain ⟨read, isRead, kind, kindRead, name, nameRead, description, descriptionRead, fields,
      fieldsRead, inputs, inputsRead, interfaces, interfacesRead, values, valuesRead, possible,
      possibleRead, same⟩ := decoded
    obtain rfl := Option.some.inj same
    have isKind := kind_of_required isRead (by decide) kindRead
    have isNamed : textAt? typeKeys "name" record = name :=
      Json.Record.text_of_optional isRead (by decide) nameRead
    obtain ⟨_, fields⟩ := Json.Record.items_of_optional isRead (by decide) fieldsRead
    obtain ⟨_, inputs⟩ := Json.Record.items_of_optional isRead (by decide) inputsRead
    obtain ⟨_, interfaces⟩ := Json.Record.items_of_optional isRead (by decide) interfacesRead
    obtain ⟨_, values⟩ := Json.Record.items_of_optional isRead (by decide) valuesRead
    obtain ⟨_, possible⟩ := Json.Record.items_of_optional isRead (by decide) possibleRead
    constructor
    · intro type converted
      rw [RawType.type?] at converted
      split at converted
      · rename_i kind name ofKind named
        obtain rfl := Option.some.inj converted
        obtain rfl : _ = Kind.of kind := ofKind
        obtain rfl : _ = some name := named
        exact ⟨⟨isNamed, kind, isKind⟩, {
          name := isNamed
          kind := isKind
          description := Json.Record.text_of_optional isRead (by decide) descriptionRead
          fields := keeps_of_forall₂ fields (fun _ _ x decoded => (field_of_record decoded).1 x)
            fun _ _ decoded => (field_of_record decoded).2
          inputFields := keeps_inputs inputs
          enumValues := enumValues_of_records values
          interfaces := names_of_references interfaces
          possibleTypes := names_of_references possible }⟩
      · cases converted
    · rintro dropped other ⟨named, declared, ofKind⟩
      obtain rfl : name = some other := isNamed.symm.trans named
      obtain rfl := kind_unique kind (.of declared) isKind ofKind
      cases dropped

/-- What the records make of a name: nothing if none of them declares it, and otherwise what the
last one that does is converted to. -/
inductive Found (records : List Json) (name : String) : Option NamedType → Prop where
  | absent (undeclared : ∀ record ∈ records, ¬ Declares record name) : Found records name none
  | last {earlier later : List Json} {record : Json} {type : NamedType}
      (place : records = earlier ++ record :: later) (declares : Declares record name)
      (undeclared : ∀ other ∈ later, ¬ Declares other name) (named : type.name = name)
      (made : type.ConvertedFrom record) : Found records name (some type)

/-- A record in front changes nothing for a name that it does not declare. -/
theorem Found.behind_other {records : List Json} {name : String} {found : Option NamedType}
    (others : Found records name found) {record : Json} (other : ¬ Declares record name) :
    Found (record :: records) name found := by
  cases others with
  | absent undeclared => exact .absent (List.forall_mem_cons.mpr ⟨other, undeclared⟩)
  | @last earlier _ _ _ place declares undeclared named made =>
    have longer := congrArg (record :: ·) place
    exact .last (longer.trans (List.cons_append ..).symm) declares undeclared named made

/-- A record in front counts if no other one declares the name. -/
theorem Found.behind {records : List Json} {record : Json} {type : NamedType}
    {found : Option NamedType} (others : Found records type.name found)
    (declares : Declares record type.name) (made : type.ConvertedFrom record) :
    Found (record :: records) type.name (found.or (some type)) := by
  cases others with
  | absent undeclared => exact .last (List.nil_append _).symm declares undeclared rfl made
  | @last earlier _ _ _ place declares undeclared named made =>
    have longer := congrArg (record :: ·) place
    exact .last (longer.trans (List.cons_append ..).symm) declares undeclared named made

theorem found_of_records {levels : Nat} {records : List Json} {raws : List RawType}
    (read : List.Forall₂ (fun record raw => RawType.decode? levels record = some raw)
      records raws) (name : String) :
    Found records name ((TypeTable.ofList (raws.filterMap (·.type?))).get? name) := by
  rw [TypeTable.get?_ofList]
  -- Of the types behind a record one that has the name goes before the record.
  induction read with
  | nil => exact .absent nofun
  | @cons record raw records raws first _ ih =>
    obtain ⟨made, dropped⟩ := type_of_record first
    cases converted : raw.type? with
    | none =>
      rw [List.filterMap_cons_none converted]
      exact ih.behind_other (dropped converted name)
    | some type =>
      obtain ⟨declares, made⟩ := made type converted
      rw [List.filterMap_cons_some converted, List.reverse_cons, List.find?_append]
      by_cases same : type.name = name
      · subst same
        simpa using ih.behind declares made
      · have other : ¬ Declares record name := fun also =>
          same (Option.some.inj (declares.1.symm.trans also.1))
        simpa [same] using ih.behind_other other

/-! ## Schemas -/

/-- The name of the type that a value gives for a kind of operations. -/
def rootAt? (key : String) (record : Json) : Option String :=
  (record.at? schemaKeys key).bind (textAt? ["name"] "name")

theorem root_of_optional {value : Json} {record : Json.Record} {key : String} {depth : Nat}
    {name : Option String} (read : value.record? schemaKeys = some record)
    (known : key ∈ schemaKeys) (decoded : record.optional key (decodeName? depth) = some name) :
    rootAt? key value = name := by
  have given := Json.Record.given_of_optional read known decoded
  rw [rootAt?]
  generalize found : value.given? schemaKeys key = part at given
  cases given with
  | none =>
    rcases Json.at?_of_not_given found with missing | null
    · rw [missing]
      rfl
    · rw [null]
      rfl
  | @some part name named =>
    rw [Json.at?_of_given? found, Option.bind_some]
    cases depth with
    | zero => cases named
    | succ depth =>
      obtain ⟨inner, isRead, named⟩ := Option.bind_eq_some_iff.mp named
      exact Json.Record.text_of_required isRead (by decide) named

end Introspection

/-- The schema is what the record says, without the members that have a malformed type. -/
structure Schema.ConvertedFrom (schema : Schema) (record : Json) : Prop where
  description : textAt? schemaKeys "description" record = schema.description
  query : rootAt? "queryType" record = schema.query
  mutation : rootAt? "mutationType" record = schema.mutation
  subscription : rootAt? "subscriptionType" record = schema.subscription
  types : ∀ name, Found (record.itemsAt schemaKeys "types") name (schema.type? name)

namespace Introspection

theorem schema_of_record {record : Json} {raw : RawSchema} (carries : Carries record raw) :
    raw.schema.ConvertedFrom record := by
  obtain ⟨levels, decoded⟩ := carries
  cases levels with
  | zero => cases decoded
  | succ levels =>
    simp only [RawSchema.decode?, Option.bind_eq_bind, Option.bind_eq_some_iff] at decoded
    obtain ⟨read, isRead, description, descriptionRead, query, queryRead, mutation, mutationRead,
      subscription, subscriptionRead, types, typesRead, same⟩ := decoded
    obtain rfl := Option.some.inj same
    obtain ⟨_, types⟩ := Json.Record.items_of_defaulted isRead (by decide) typesRead
    exact {
      description := Json.Record.text_of_optional isRead (by decide) descriptionRead
      query := root_of_optional isRead (by decide) queryRead
      mutation := root_of_optional isRead (by decide) mutationRead
      subscription := root_of_optional isRead (by decide) subscriptionRead
      types := found_of_records types }

/-- **Only malformed members are dropped.** A result that is read at all yields a schema exactly if
it carries the record of one, and the schema is what this record says. For each name it has what the
last type with that name is converted to, and nothing else: its fields, arguments and input fields
are those whose type is made of wrappers around a name, each with that type, and in their order,
and its interfaces and possible types are the names that are given. -/
theorem only_malformed_members_are_dropped {text : String}
    (decodes : parse text ≠ .error .notJson) :
    ∃ document, Json.parse? text = some document ∧
      (∀ record, schemaRecord? document = some record →
        ∃ schema, parse text = .ok schema ∧ schema.ConvertedFrom record) ∧
      (schemaRecord? document = none → ∀ schema, parse text ≠ .ok schema) := by
  rw [parse] at decodes ⊢
  cases spelled : Json.parse? text with
  | none =>
    rw [spelled] at decodes
    exact absurd rfl decodes
  | some document =>
    refine ⟨document, rfl, ?_⟩
    simp only [spelled, decode] at decodes ⊢
    cases decoded : Response.decode? maxDepth document with
    | none =>
      rw [decoded] at decodes
      exact absurd rfl decodes
    | some response =>
      have carried := carried_of_response decoded
      generalize schemaRecord? document = found at carried ⊢
      generalize inside : response.data.join.or response.schema = raw at carried
      cases carried with
      | some carries =>
        constructor
        · intro record same
          obtain rfl := Option.some.inj same
          exact ⟨_, Response.schema?_of_carried inside, schema_of_record carries⟩
        · intro missing
          cases missing
      | none =>
        constructor
        · intro record present
          cases present
        · intro _ schema found
          obtain ⟨raw, other, _⟩ := carried_of_schema? found
          rw [inside] at other
          cases other

/-! ## A result with malformed members -/

section Messy

open Json (ofNamed)

private def member (name : String) (args : List Json) (type : Json) : Json :=
  ofNamed [("name", .ofText name), ("type", type), ("args", .array args)]

private def plainType (kind name : String) : Json :=
  ofNamed [("kind", .ofText kind), ("name", .ofText name)]

private def wrapped (kind : String) (inner : Json) : Json :=
  ofNamed [("kind", .ofText kind), ("ofType", inner)]

private def nameless : Json := ofNamed [("kind", .ofText "SCALAR")]

/-- The second type of the name counts: it loses a field, an argument of another field and an
interface. -/
private def messyResult : Json :=
  ofNamed [("__schema", ofNamed [("types", .array [
    plainType "SCALAR" "Query",
    ofNamed [("kind", .ofText "OBJECT"), ("name", .ofText "Query"),
      ("fields", .array [
        member "lost" [] (wrapped "LIST" .null),
        member "kept" [member "bad" [] (wrapped "LIST" nameless),
            member "good" [] (plainType "SCALAR" "Int")]
          (wrapped "NON_NULL" (plainType "ENUM" "Kind"))]),
      ("interfaces", .array [nameless, plainType "INTERFACE" "Node"])],
    plainType "LIST" "Query"])])]

private def messyType : NamedType where
  name := "Query"
  kind := .object
  description := none
  fields := [⟨"kept", .nonNull (.named "Kind"), none, none,
    [⟨"good", .named "Int", none, none, none⟩]⟩]
  inputFields := []
  enumValues := []
  interfaces := ["Node"]
  possibleTypes := []

private def messySchema : Schema := ⟨none, none, none, none, .ofList [messyType]⟩

theorem messy_result_is_read :
    parse (Json.print messyResult) = .ok messySchema ∧
      ∃ record, schemaRecord? messyResult = some record ∧ messySchema.ConvertedFrom record := by
  have spelled : Json.parse? (Json.print messyResult) = some messyResult :=
    Json.parse?_print (by
      simp [messyResult, ofNamed, member, plainType, wrapped, nameless, Json.ofText,
        Json.IsPrintable, Json.arePrintable, Json.membersPrintable])
  have parsed : parse (Json.print messyResult) = .ok messySchema := by
    rw [parse, spelled]
    decide +kernel
  have decodes : parse (Json.print messyResult) ≠ .error .notJson := by
    rw [parsed]
    intro same
    cases same
  obtain ⟨document, read, made, -⟩ := only_malformed_members_are_dropped decodes
  obtain rfl : document = messyResult := Option.some.inj (read.symm.trans spelled)
  obtain ⟨schema, found, made⟩ := made _ rfl
  obtain rfl : schema = messySchema := Except.ok.inj (found.symm.trans parsed)
  exact ⟨parsed, _, rfl, made⟩

end Messy

end Introspection
end SchemaGuide
