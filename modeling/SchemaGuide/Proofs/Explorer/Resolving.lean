import SchemaGuide.Explorer.Action
import SchemaGuide.Proofs.Explorer.Policy
import SchemaGuide.Proofs.Html.Writing
import SchemaGuide.Proofs.Schema.Closed

/-! Links that lead somewhere. A panel names types that something refers to, and types and
fields that the schema has. Where the schema has every type that it refers to, each link of a
panel names something that is found, as long as all that was visited is from that schema. -/
namespace SchemaGuide.Explorer

open Html (Node Part partsOf unescape escapeChars)

/-! ## Links -/

/-- What the link of a tag opens, with the entities in its names undone. -/
def linkOf? : Part → Option Action
  | .opening _ attributes =>
    let name (key : Html.AttributeName) : Option String :=
      (attributes.lookup key).map fun written => String.ofList (unescape written)
    match name .dataType, name .dataField with
    | some owner, some field => some (.openField owner field)
    | some type, none => some (.openType type)
    | none, _ => none
  | .closing _ | .text _ | .rendered _ => none

/-- The links in the body of a panel. -/
def Panel.links (panel : Panel) : List Action :=
  (partsOf panel.body).filterMap linkOf?

/-- The name of the member that an action opens. -/
def Action.member? : Action → Option String
  | .openType name => some name
  | .openField _ field => some field
  | .openArgument _ _ argument => some argument
  | .refresh | .reset | .pop | .search _ => none

/-- What an action opens is a type of the schema, or a part of one. -/
inductive Opens (schema : Schema) : Action → Definition → Prop where
  | type {name : String} {type : NamedType} (found : schema.type? name = some type) :
    Opens schema (.openType name) (.type type)
  | field {owner name : String} {type : NamedType} {field : Field}
    (found : schema.type? owner = some type) (named : type.field? name = some field) :
    Opens schema (.openField owner name) (.field field)
  | argument {owner field name : String} {type : NamedType} {declared : Field}
    {argument : InputValue} (found : schema.type? owner = some type)
    (declares : type.field? field = some declared)
    (named : declared.argument? name = some argument) :
    Opens schema (.openArgument owner field name) (.argument argument)

theorem opens_of_target {schema : Schema} {action : Action} {definition : Definition}
    (found : action.target? schema = some definition) : Opens schema action definition := by
  cases action with
  | refresh | reset | pop | search term => cases found
  | openType name =>
    rw [Action.target?, Schema.type_definition] at found
    obtain ⟨type, typed, rfl⟩ := Option.map_eq_some_iff.1 found
    exact .type typed
  | openField typeName field =>
    rw [Action.target?, Schema.field_definition] at found
    obtain ⟨type, typed, inside⟩ := Option.bind_eq_some_iff.1 found
    obtain ⟨declared, named, rfl⟩ := Option.map_eq_some_iff.1 inside
    exact .field typed named
  | openArgument typeName field argument =>
    rw [Action.target?, Schema.argument_definition] at found
    obtain ⟨type, typed, inside⟩ := Option.bind_eq_some_iff.1 found
    obtain ⟨given, named, rfl⟩ := Option.map_eq_some_iff.1 inside
    obtain ⟨declared, declares, named⟩ := Option.bind_eq_some_iff.1 named
    exact .argument typed declares named

theorem Opens.target {schema : Schema} {action : Action} {definition : Definition}
    (opens : Opens schema action definition) : action.target? schema = some definition := by
  cases opens with
  | type found => simp [Action.target?, Schema.type_definition, found]
  | field found named => simp [Action.target?, Schema.field_definition, found, named]
  | argument found declares named =>
    simp [Action.target?, Schema.argument_definition, found, declares, named]

/-- What an action opens has the name that the action gives. -/
theorem Opens.name {schema : Schema} {action : Action} {definition : Definition}
    (opens : Opens schema action definition) : action.member? = some definition.name := by
  cases opens with
  | type found => exact congrArg some (TypeTable.name_of_get? found).symm
  | field found named => exact congrArg some (NamedType.mem_of_field? named).2.symm
  | argument found declares named => exact congrArg some (Field.mem_of_argument? named).2.symm

/-- What an action does to a history. -/
inductive Moves (source : Source) (before : History) : Action → History → Prop where
  | kept : Moves source before .refresh before
  | reset : Moves source before .reset before.reset
  | popped : Moves source before .pop before.pop.2
  | searched (term : String) : Moves source before (.search term) (before.setSearch term)
  | opened {loaded : Stamped Schema} {action : Action} {definition : Definition}
    (given : source.schema? = some loaded) (opens : Opens loaded.value action definition) :
    Moves source before action (before.push (.ofDefinition definition))

theorem moves_of_act {explorer acted : DocExplorer} {source : Source} {action : Action}
    (done : explorer.act source action = (.ok (), acted)) :
    Moves source explorer.history action acted.history := by
  have target (done : explorer.openTarget source action = (.ok (), acted)) :
      Moves source explorer.history action acted.history := by
    rw [DocExplorer.openTarget] at done
    split at done
    · cases done
    · rename_i loaded given
      split at done
      · cases done
      · rename_i definition found
        cases done
        exact .opened given (opens_of_target found)
  cases action with
  | refresh => cases done; exact .kept
  | reset => cases done; exact .reset
  | pop => cases done; exact .popped
  | search term => cases done; exact .searched term
  | openType name => exact target done
  | openField typeName field => exact target done
  | openArgument typeName field argument => exact target done

/-- The policy that admits links to what a schema has. -/
def resolving (schema : Schema) : Policy where
  text _ := True
  typeLink name := (schema.type? name).isSome = true
  fieldLink owner field :=
    ∃ type, schema.type? owner = some type ∧ (type.field? field).isSome = true
  rendered _ := True
  typeLabel _ := trivial
  fieldLabel _ := trivial

/-- The action opens something that the schema has. -/
def Resolves (schema : Schema) (action : Action) : Prop :=
  ∃ definition, Opens schema action definition

variable {schema : Schema} {renderer : TextRenderer}

private theorem resolves_of_allowed {tag : Html.Tag}
    {attributes : List (Html.AttributeName × String)} {link : Action}
    (allowed : (resolving schema).Allows attributes)
    (found : linkOf? (.opening tag
      (attributes.map fun pair => (pair.1, escapeChars pair.2.toList))) = some link) :
    Resolves schema link := by
  cases allowed with
  | unmarked => cases found
  | styled known => cases found
  | @typeLink name leads =>
    have opened : linkOf? (.opening tag
        [(.styleClass, escapeChars "type-name".toList), (.dataType, escapeChars name.toList)]) =
          some (.openType (String.ofList (unescape (escapeChars name.toList)))) := rfl
    obtain rfl := Option.some.inj (opened.symm.trans found)
    rw [Html.unescape_escapeChars, String.ofList_toList]
    obtain ⟨type, named⟩ := Option.isSome_iff_exists.1 leads
    exact ⟨_, .type named⟩
  | @fieldLink owner field leads =>
    have opened : linkOf? (.opening tag
        [(.styleClass, escapeChars "field-name".toList), (.dataType, escapeChars owner.toList),
          (.dataField, escapeChars field.toList)]) =
          some (.openField (String.ofList (unescape (escapeChars owner.toList)))
            (String.ofList (unescape (escapeChars field.toList)))) := rfl
    obtain rfl := Option.some.inj (opened.symm.trans found)
    rw [Html.unescape_escapeChars, Html.unescape_escapeChars, String.ofList_toList,
      String.ofList_toList]
    obtain ⟨type, named, declares⟩ := leads
    obtain ⟨declared, found⟩ := Option.isSome_iff_exists.1 declares
    exact ⟨_, .field named found⟩

/-- Each link of an admitted fragment leads to something. -/
theorem resolves_of_admitted {nodes : List Node}
    (admitted : (resolving schema).Admits renderer nodes) :
    ∀ link ∈ (partsOf nodes).filterMap linkOf?, Resolves schema link := by
  induction admitted with
  | nil =>
    intro link member
    cases member
  | text known _ ih => exact ih
  | markup known _ ih => exact ih
  | @element tag attributes children rest allowed _ _ inside ih =>
    intro link member
    obtain ⟨part, written, found⟩ := List.mem_filterMap.1 member
    rcases List.mem_append.1 written with first | later
    · rw [Node.parts, List.cons_append, List.mem_cons, List.mem_append,
        List.mem_singleton] at first
      rcases first with rfl | child | rfl
      · exact resolves_of_allowed allowed found
      · exact inside link (List.mem_filterMap.2 ⟨part, child, found⟩)
      · cases found
    · exact ih link (List.mem_filterMap.2 ⟨part, later, found⟩)

/-! ## Panels of what is visited -/

private theorem coversType_of_closed (closed : schema.Closed) {type : NamedType}
    (member : type ∈ schema.types.entries) : (resolving schema).CoversType type := by
  have found : schema.type? type.name = some type := TypeTable.get?_of_mem member
  have input {input : InputValue} (known : input.type.namedType ∈ type.references) :
      (resolving schema).CoversInput input :=
    ⟨trivial, closed type member _ known, fun _ _ => trivial, fun _ _ => trivial,
      fun _ _ => trivial⟩
  have referred {field : Field} (declared : field ∈ type.fields) {name : String}
      (known : name ∈ field.references) : name ∈ type.references := by
    simp only [NamedType.references, List.mem_append]
    exact .inl (.inl (.inl (List.mem_flatMap.2 ⟨field, declared, known⟩)))
  constructor
  · exact Option.isSome_iff_exists.2 ⟨type, found⟩
  · intro field declared
    refine ⟨type, found, ?_⟩
    rw [NamedType.field?, List.find?_isSome]
    exact ⟨field, declared, beq_self_eq_true _⟩
  · intro field declared
    constructor
    · exact closed type member _ (referred declared List.mem_cons_self)
    · intro arg given
      have known : arg.type.namedType ∈ field.args.map (·.type.namedType) :=
        List.mem_map_of_mem given
      exact input (referred declared (List.mem_cons_of_mem _ known))
    · exact fun _ _ => trivial
    · exact fun _ _ => trivial
  · intro given declared
    have known : given.type.namedType ∈ type.inputFields.map (·.type.namedType) :=
      List.mem_map_of_mem declared
    exact input (by simp only [NamedType.references, List.mem_append, known, true_or, or_true])
  · exact fun _ _ => ⟨trivial, fun _ _ => trivial, fun _ _ => trivial⟩
  · intro name known
    exact closed type member _
      (by simp only [NamedType.references, List.mem_append, known, true_or, or_true])
  · intro name known
    exact closed type member _
      (by simp only [NamedType.references, List.mem_append, known, or_true])
  · exact fun _ _ => trivial

/-- What can be opened in a closed schema may be shown. -/
theorem Opens.covers (closed : schema.Closed) {action : Action} {definition : Definition}
    (opens : Opens schema action definition) : (resolving schema).CoversDefinition definition := by
  cases opens with
  | type found => exact coversType_of_closed closed (TypeTable.mem_of_get? found)
  | field found named =>
    have type := coversType_of_closed closed (TypeTable.mem_of_get? found)
    exact type.fields _ (NamedType.mem_of_field? named).1
  | argument found declares named =>
    have type := coversType_of_closed closed (TypeTable.mem_of_get? found)
    have field := type.fields _ (NamedType.mem_of_field? declares).1
    exact field.args _ (Field.mem_of_argument? named).1

/-- Everything that was visited may be shown. -/
def History.Covered (policy : Policy) (history : History) : Prop :=
  ∀ entry ∈ history.current :: history.below, ∀ definition ∈ entry.definition,
    policy.CoversDefinition definition

namespace History.Covered

variable {policy : Policy} {history : History}

theorem initial : History.initial.Covered policy := by
  intro entry member definition shown
  obtain rfl := List.mem_singleton.1 member
  cases shown

theorem push (covered : history.Covered policy) {definition : Definition}
    (known : policy.CoversDefinition definition) :
    (history.push (.ofDefinition definition)).Covered policy := by
  intro entry member shown given
  rcases List.mem_cons.1 member with rfl | earlier
  · obtain rfl := Option.some.inj given
    exact known
  · exact covered entry earlier shown given

theorem pop (covered : history.Covered policy) : history.pop.2.Covered policy := by
  obtain ⟨current, below, revision⟩ := history
  cases below with
  | nil => exact covered
  | cons entry rest =>
    exact fun other member => covered other (List.mem_cons_of_mem _ member)

theorem setSearch (covered : history.Covered policy) (term : String) :
    (history.setSearch term).Covered policy := by
  intro entry member shown given
  rcases List.mem_cons.1 member with rfl | earlier
  · exact covered history.current List.mem_cons_self shown given
  · exact covered entry (List.mem_cons_of_mem _ earlier) shown given

theorem reset : history.reset.Covered policy := by
  intro entry member definition shown
  obtain rfl := List.mem_singleton.1 member
  cases shown

/-- An action keeps it, if what is opened may be shown. -/
theorem act {explorer acted : DocExplorer} {source : Source} {action : Action}
    (covered : explorer.history.Covered policy)
    (opened : ∀ loaded ∈ source.schema?, ∀ definition, Opens loaded.value action definition →
      policy.CoversDefinition definition)
    (done : explorer.act source action = (.ok (), acted)) : acted.history.Covered policy := by
  have moves := moves_of_act done
  generalize acted.history = after at moves ⊢
  cases moves with
  | kept => exact covered
  | reset => exact reset
  | popped => exact covered.pop
  | searched term => exact covered.setSearch term
  | opened given opens => exact covered.push (opened _ given _ opens)

end History.Covered

/-- The panel of a history in a closed schema has only links that lead somewhere. -/
theorem resolves_of_render (closed : schema.Closed) {explorer : DocExplorer} {source : Source}
    (loaded : ∀ given ∈ source.schema?, given.value = schema)
    (covered : explorer.history.Covered (resolving schema)) :
    ∀ link ∈ (explorer.renderNow source).links, Resolves schema link := by
  have current : ∀ definition ∈ explorer.history.current.definition,
      (resolving schema).CoversDefinition definition :=
    covered explorer.history.current List.mem_cons_self
  refine resolves_of_admitted (.body (fun other given => ?_) ?_)
  · obtain ⟨stamped, known, rfl⟩ := Option.map_eq_some_iff.1 given
    rw [loaded stamped known]
    exact ⟨trivial, fun type member => coversType_of_closed closed member⟩
  · -- Errors and search terms are texts, which carry no link.
    unfold View.of modeAt
    split
    · exact fun _ _ => trivial
    · trivial
    · trivial
    · split
      · exact ⟨trivial, current⟩
      · split
        · trivial
        · split
          · rename_i declared visited
            exact current _ visited
          · exact current

end SchemaGuide.Explorer
