import SchemaGuide.Proofs.Schema.Closed
import SchemaGuide.Session.Basic

/-! Offers that can be documented. An item is made from a type that a path led to, and is
documented later from nothing but the names that it carries. Those names lead back to the
member: a path ends at a type that the schema has under its own name, and what is found
under the name of a member is the first of that name, which is the one that completes. -/
namespace SchemaGuide.Completion

open Overlay (Suggestion)

/-! ## What is completed -/

/-- A field as a suggestion. -/
def suggestionOfField (field : Field) : Suggestion where
  label := field.name
  type := some field.type
  description := field.description
  deprecation := field.deprecation

/-- An argument as a suggestion. -/
def suggestionOfArgument (argument : InputValue) : Suggestion where
  label := argument.name
  type := some argument.type
  description := argument.description
  deprecation := argument.deprecation

/-- The members that a context completes, in the order of their declaration: the fields of the
type that is selected from, or the arguments of the first field of that name. -/
def completed (schema : Schema) : Query.Context → List Suggestion
  | .selection path =>
    (Query.followPath schema path).elim [] fun type => type.fields.map suggestionOfField
  | .arguments path name =>
    ((Query.followPath schema path).bind (·.field? name)).elim [] fun field =>
      field.args.map suggestionOfArgument

/-- The members that a place in a text completes. -/
def completedAt (schema : Schema) (text : String) (offset : Nat) : List Suggestion :=
  (Query.contextAt? text offset).elim [] (completed schema)

/-! ## Subjects -/

namespace Subject

/-- A subject is read as it was written. -/
theorem ofJson_toJson (subject : Subject) : ofJson? subject.toJson = some subject := by
  obtain ⟨typeName, field, argument⟩ := subject
  cases argument <;> rfl

/-- The field of a type that the schema has is found under the names of both, and it is the
first field of its name. -/
theorem suggestion_of_field {schema : Schema} {type : NamedType}
    (found : schema.type? type.name = some type) (name : String) :
    suggestion? ⟨type.name, name, none⟩ schema =
      (type.fields.map suggestionOfField).find? (·.label == name) := by
  rw [suggestion?, Schema.field_definition, found, List.find?_map]
  simp only [Option.bind_some]
  change _ = (type.field? name).map suggestionOfField
  cases type.field? name <;> rfl

/-- So is the argument of a field. -/
theorem suggestion_of_argument {schema : Schema} {type : NamedType} {field : Field}
    (found : schema.type? type.name = some type) {owner : String}
    (declared : type.field? owner = some field) (name : String) :
    suggestion? ⟨type.name, owner, some name⟩ schema =
      (field.args.map suggestionOfArgument).find? (·.label == name) := by
  rw [suggestion?, Schema.argument_definition, found, List.find?_map]
  simp only [Option.bind_some, declared]
  change _ = (field.argument? name).map suggestionOfArgument
  cases field.argument? name <;> rfl

end Subject

/-! ## Paths -/

/-- The schema has the type under its own name. -/
def Listed (schema : Schema) (type : NamedType) : Prop :=
  schema.type? type.name = some type

theorem listed_of_type? {schema : Schema} {name : String} {type : NamedType}
    (found : schema.type? name = some type) : Listed schema type := by
  have named : type.name = name := TypeTable.name_of_get? found
  rw [Listed, named]
  exact found

theorem listed_of_follow {schema : Schema} {outer : Option NamedType} {step : Query.Step}
    {type : NamedType} (led : step.follow schema outer = some type) : Listed schema type := by
  cases step with
  | operation keyword =>
    obtain ⟨name, _, found⟩ := Option.bind_eq_some_iff.1 led
    exact listed_of_type? found
  | typeCondition name => exact listed_of_type? led
  | field name =>
    obtain ⟨around, _, inside⟩ := Option.bind_eq_some_iff.1 led
    obtain ⟨field, _, found⟩ := Option.bind_eq_some_iff.1 inside
    exact listed_of_type? found

theorem listed_of_followFrom {schema : Schema} {path : List Query.Step} {type : NamedType}
    {outer : Option NamedType} (known : ∀ around ∈ outer, Listed schema around)
    (led : Query.followFrom schema outer path = some type) : Listed schema type := by
  induction path generalizing outer with
  | nil => exact known type led
  | cons step rest ih =>
    obtain ⟨next, first, later⟩ := Option.bind_eq_some_iff.1 led
    refine ih (fun around same => ?_) later
    obtain rfl := Option.some.inj same
    exact listed_of_follow first

/-- A path leads to a type that the schema has. -/
theorem listed_of_followPath {schema : Schema} {path : List Query.Step} {type : NamedType}
    (led : Query.followPath schema path = some type) : Listed schema type :=
  listed_of_followFrom (by simp) led

/-! ## Items -/

/-- What an item carries leads to a suggestion of its label, the first one of that label. -/
def LeadsTo (schema : Schema) (members : List Suggestion) (item : Item)
    (suggestion : Suggestion) : Prop :=
  suggestion.label = item.label ∧ members.find? (·.label == item.label) = some suggestion ∧
    ∃ data subject, item.data = some data ∧ Subject.ofJson? data = some subject ∧
      subject.suggestion? schema = some suggestion

/-- An item leads to the first member of its label, if that is what its subject leads to. -/
theorem leadsTo_of_subject {schema : Schema} {members : List Suggestion} {item : Item}
    (subject : Subject) (carried : item.data = some subject.toJson)
    (meant : subject.suggestion? schema = members.find? (·.label == item.label))
    (declared : ∃ member ∈ members, member.label = item.label) :
    ∃ suggestion, LeadsTo schema members item suggestion := by
  have known : (members.find? (·.label == item.label)).isSome = true := by
    rw [List.find?_isSome]
    obtain ⟨member, declared, label⟩ := declared
    exact ⟨member, declared, by simp [label]⟩
  obtain ⟨suggestion, first⟩ := Option.isSome_iff_exists.1 known
  exact ⟨suggestion, by simpa using List.find?_some first, first, _, subject, carried,
    subject.ofJson_toJson, meant.trans first⟩

/-- What is offered in a context: an item for each member, and behind them the name of the type
if there is a type to ask for it. -/
theorem offer_cases (schema : Schema) (context : Query.Context) :
    ∃ members trailing, offer schema context = members ++ trailing ∧
      (trailing = [] ∨ ∃ type, trailing = [typenameItem type]) ∧
      members.map (·.label) = (completed schema context).map (·.label) ∧
      ∀ item ∈ members, ∃ suggestion,
        LeadsTo schema (completed schema context) item suggestion := by
  cases context with
  | selection path =>
    cases led : Query.followPath schema path with
    | none => exact ⟨[], [], by simp [offer, led], .inl rfl, by simp [completed, led], by simp⟩
    | some type =>
      have meant : completed schema (.selection path) = type.fields.map suggestionOfField := by
        simp [completed, led]
      have labels : (type.fields.map (fieldItem type)).map (·.label) =
          (type.fields.map suggestionOfField).map (·.label) := by
        simp only [List.map_map]
        rfl
      refine ⟨type.fields.map (fieldItem type),
        if type.isComposite then [typenameItem type] else [], by simp [offer, led, fieldItems], ?_,
        meant ▸ labels, fun item member => ?_⟩
      · split
        · exact .inr ⟨type, rfl⟩
        · exact .inl rfl
      · obtain ⟨field, declared, rfl⟩ := List.mem_map.1 member
        rw [meant]
        exact leadsTo_of_subject ⟨type.name, field.name, none⟩ rfl
          (Subject.suggestion_of_field (listed_of_followPath led) field.name)
          ⟨suggestionOfField field, List.mem_map_of_mem declared, rfl⟩
  | «arguments» path name =>
    cases led : Query.followPath schema path with
    | none => exact ⟨[], [], by simp [offer, led], .inl rfl, by simp [completed, led], by simp⟩
    | some type =>
      cases owner : type.field? name with
      | none =>
        exact ⟨[], [], by simp [offer, led, owner], .inl rfl, by simp [completed, led, owner],
          by simp⟩
      | some field =>
        have named : field.name = name := (NamedType.mem_of_field? owner).2
        have meant : completed schema (.arguments path name) =
            field.args.map suggestionOfArgument := by
          simp [completed, led, owner]
        have labels : (field.args.map (argumentItem type field)).map (·.label) =
            (field.args.map suggestionOfArgument).map (·.label) := by
          simp only [List.map_map]
          rfl
        refine ⟨field.args.map (argumentItem type field), [],
          by simp [offer, led, owner, argumentItems], .inl rfl, meant ▸ labels,
          fun item member => ?_⟩
        obtain ⟨argument, declared, rfl⟩ := List.mem_map.1 member
        rw [meant]
        exact leadsTo_of_subject ⟨type.name, field.name, some argument.name⟩ rfl
          (Subject.suggestion_of_argument (listed_of_followPath led) (named ▸ owner)
            argument.name)
          ⟨suggestionOfArgument argument, List.mem_map_of_mem declared, rfl⟩

/-! ## Documentation -/

/-- An item that leads to a suggestion is documented by it, and otherwise kept. -/
theorem document_of_leadsTo {schema : Schema} {members : List Suggestion} {item : Item}
    {suggestion : Suggestion} (leads : LeadsTo schema members item suggestion)
    (settings : Settings) :
    document settings schema item =
      { item with
        documentation := some (.markup markdownKind (documentationOf settings suggestion)) } := by
  obtain ⟨_, _, data, subject, carried, read, meant⟩ := leads
  simp [document, suggestionFor?, carried, read, meant]

/-- Documentation does not change where an item leads. -/
theorem LeadsTo.with_documentation {schema : Schema} {members : List Suggestion} {item : Item}
    {suggestion : Suggestion} (leads : LeadsTo schema members item suggestion)
    (documentation : Option Documentation) :
    LeadsTo schema members { item with documentation } suggestion :=
  leads

end SchemaGuide.Completion

namespace SchemaGuide

open Completion

/-- **What is offered can be documented.** At any place of an open document, an item is offered
for each member that is completed there, and behind them at most the name of the type. What an
item for a member carries leads to a suggestion of its label, the one of the first member of
that name; and the item is documented by that suggestion, with nothing else about it changed,
however often it is documented. -/
theorem offers_can_be_documented {session : Session} {schema : Schema} {address text : String}
    (loaded : session.schema? = some schema) (opened : session.document? address = some text)
    (line column : Nat) :
    ∃ members trailing, session.completions address line column = members ++ trailing ∧
      (trailing = [] ∨ ∃ type, trailing = [typenameItem type]) ∧
      members.map (·.label) =
        (completedAt schema text (Text.positionOffset column line text.toList)).map (·.label) ∧
      ∀ item ∈ members, ∃ data subject suggestion,
        item.data = some data ∧ Subject.ofJson? data = some subject ∧
        subject.suggestion? schema = some suggestion ∧ suggestion.label = item.label ∧
        (completedAt schema text (Text.positionOffset column line text.toList)).find?
          (·.label == item.label) = some suggestion ∧
        session.documentItem item =
          { item with
            documentation :=
              some (.markup markdownKind (documentationOf session.settings suggestion)) } ∧
        session.documentItem (session.documentItem item) = session.documentItem item := by
  have documents (item : Item) : session.documentItem item =
      document session.settings schema item := by
    rw [Session.documentItem, loaded]
  have offered : session.completions address line column =
      offerAt schema text (Text.positionOffset column line text.toList) := by
    rw [Session.completions, opened, loaded]
  rw [offered]
  unfold offerAt completedAt
  cases Query.contextAt? text (Text.positionOffset column line text.toList) with
  | none => exact ⟨[], [], rfl, .inl rfl, rfl, by simp⟩
  | some context =>
    obtain ⟨members, trailing, split, last, labels, leads⟩ := offer_cases schema context
    refine ⟨members, trailing, split, last, labels, fun item member => ?_⟩
    obtain ⟨suggestion, known⟩ := leads item member
    have once := document_of_leadsTo known session.settings
    obtain ⟨label, first, data, subject, carried, read, meant⟩ := known
    refine ⟨data, subject, suggestion, carried, read, meant, label, first, ?_, ?_⟩
    · rw [documents, once]
    · rw [documents, documents, once]
      exact document_of_leadsTo (LeadsTo.with_documentation
        ⟨label, first, data, subject, carried, read, meant⟩ _) session.settings

/-! ## A field that is declared twice -/

/-- A type that declares the field twice; the second declaration is deprecated. -/
private def twiceDeclaring : NamedType where
  name := "Query"
  kind := .object
  description := none
  fields := [
    { name := "user", type := .nonNull (.named "User"), description := some "The user.",
      deprecation := none, args := [] },
    { name := "user", type := .named "Query", description := none, deprecation := some "Gone.",
      args := [] }]
  inputFields := []
  enumValues := []
  interfaces := []
  possibleTypes := []

private def twiceDeclared : Schema := ⟨none, some "Query", none, none, .ofList [twiceDeclaring]⟩

private def editedText : String := "query \x7b\n  user \x7b u"

private def editing : Session :=
  { Session.start ⟨none, none⟩ with
    source := ⟨.loaded ⟨0, twiceDeclared⟩, none⟩
    documents := [("a", editedText)] }

/-- Each of the two items for the field is documented by the first declaration. -/
theorem repeated_field_is_documented_by_first :
    editing.schema? = some twiceDeclared ∧
      editing.document? "a" = some editedText ∧
      (editing.completions "a" 0 7).length = 3 ∧
      ∀ item ∈ editing.completions "a" 0 7, item.label = "user" →
        (editing.documentItem item).documentation =
          some (.markup "markdown" "\x60User!\x60 The user.") := by
  have loaded : editing.schema? = some twiceDeclared := rfl
  have opened : editing.document? "a" = some editedText := rfl
  have first : (completedAt twiceDeclared editedText
      (Text.positionOffset 7 0 editedText.toList)).find? (·.label == "user") =
        some ⟨"user", some (.nonNull (.named "User")), some "The user.", none⟩ := by decide
  refine ⟨loaded, opened, by decide, fun item offered label => ?_⟩
  obtain ⟨members, trailing, split, last, _, documented⟩ :=
    offers_can_be_documented loaded opened 0 7
  rcases List.mem_append.1 (split ▸ offered) with member | behind
  · obtain ⟨_, _, suggestion, _, _, _, _, found, once, _⟩ := documented item member
    rw [label, first] at found
    obtain rfl := Option.some.inj found
    rw [once]
    rfl
  · -- The item behind the members has another label.
    rcases last with rfl | ⟨type, rfl⟩
    · cases behind
    · obtain rfl := List.mem_singleton.1 behind
      exact absurd label (by simp [typenameItem, Item.ofLabel, typenameField])

end SchemaGuide
