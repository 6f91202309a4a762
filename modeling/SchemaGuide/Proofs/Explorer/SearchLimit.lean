import SchemaGuide.Proofs.Explorer.Search
import SchemaGuide.Proofs.Schema.Closed

/-! The limit of a search. A search that finds too much shows the beginning of what it would
find without a limit, group by group: no group takes room from another, and none that is full
ends the search. So a field is found either by its own name or through its arguments, and
nothing is shown only where the limit is zero or nothing matches at all. -/
namespace SchemaGuide.Explorer

/-! ## What is searched -/

/-- The types that a search is about. Within a type, its members alone are searched. Otherwise
the types are searched by name and by their members, namely all whose name does not start with
two underscores, in the order of their names. -/
structure AreSearched (named owners : List NamedType) (schema : Schema)
    (scope : Option Definition) : Prop where
  within : ∀ type, scope = some (.type type) → named = [] ∧ owners = [type]
  everywhere : (∀ type, scope ≠ some (.type type)) →
    named = owners ∧ owners.Pairwise (·.name < ·.name) ∧
      ∀ type, type ∈ owners ↔
        schema.type? type.name = some type ∧ ¬ ['_', '_'] <+: type.name.toList

private theorem isIntrospection_iff (type : NamedType) :
    type.isIntrospection = true ↔ ['_', '_'] <+: type.name.toList := by
  rw [NamedType.isIntrospection]
  split
  · rename_i rest reserved
    simp [reserved]
  · rename_i other
    refine iff_of_false (by simp) fun ⟨rest, reserved⟩ => other rest reserved.symm

theorem mem_userTypes_iff (schema : Schema) (type : NamedType) :
    type ∈ schema.userTypes ↔
      schema.type? type.name = some type ∧ ¬ ['_', '_'] <+: type.name.toList := by
  have listed : type ∈ schema.types.entries ↔ schema.type? type.name = some type :=
    ⟨TypeTable.get?_of_mem, TypeTable.mem_of_get?⟩
  rw [Schema.userTypes, List.mem_filter, listed, ← isIntrospection_iff]
  simp

theorem asType_eq_none_iff (scope : Option Definition) :
    scope.bind (·.asType?) = none ↔ ∀ type, scope ≠ some (.type type) := by
  cases scope with
  | none => simp
  | some definition => cases definition <;> simp [Definition.asType?]

theorem areSearched (schema : Schema) (scope : Option Definition) :
    AreSearched (namedTypes schema scope) (searchedTypes schema scope) schema scope := by
  constructor
  · rintro type rfl
    exact ⟨rfl, rfl⟩
  · intro untyped
    have everywhere := (asType_eq_none_iff scope).mpr untyped
    rw [namedTypes, searchedTypes, everywhere]
    exact ⟨rfl, schema.types.ordered.filter _, mem_userTypes_iff schema⟩

/-! ## What matches -/

section Matches

variable (isMatch : String → Bool)

/-- Nothing that is searched matches: no name of a type, and no field, argument or input field. -/
structure NothingMatches (named owners : List NamedType) : Prop where
  types : ∀ type ∈ named, isMatch type.name = false
  fields : ∀ owner ∈ owners, ∀ field ∈ owner.fields, isMatch field.name = false
  arguments : ∀ owner ∈ owners, ∀ field ∈ owner.fields, ∀ arg ∈ field.args,
    isMatch arg.name = false
  inputFields : ∀ owner ∈ owners, ∀ input ∈ owner.inputFields, isMatch input.name = false

variable {isMatch} {owner : NamedType}

/-- A field is found through its arguments exactly where one of them matches and it does not
itself. -/
theorem throughArguments_eq_none_iff (field : Field) :
    throughArguments isMatch owner field = none ↔
      isMatch field.name = true ∨ ∀ arg ∈ field.args, isMatch arg.name = false := by
  cases own : isMatch field.name <;> simp [throughArguments, own]

theorem matchingFields_eq_nil_iff :
    matchingFields isMatch owner = [] ↔ ∀ field ∈ owner.fields, isMatch field.name = false := by
  simp [matchingFields]

theorem matchingInputs_eq_nil_iff :
    matchingInputs isMatch owner = [] ↔
      ∀ input ∈ owner.inputFields, isMatch input.name = false := by
  simp [matchingInputs]

theorem matchingArguments_eq_nil_iff :
    matchingArguments isMatch owner = [] ↔ ∀ field ∈ owner.fields,
      isMatch field.name = true ∨ ∀ arg ∈ field.args, isMatch arg.name = false := by
  simp [matchingArguments, throughArguments_eq_none_iff]

/-- Where no group has a match, nothing matches. That a field which matches hides its arguments
does not count then. -/
theorem nothingMatches_iff (named owners : List NamedType) :
    NothingMatches isMatch named owners ↔
      named.filter (isMatch ·.name) = [] ∧ owners.flatMap (matchingFields isMatch) = [] ∧
        owners.flatMap (matchingArguments isMatch) = [] ∧
        owners.flatMap (matchingInputs isMatch) = [] := by
  simp only [List.filter_eq_nil_iff, List.flatMap_eq_nil_iff, matchingFields_eq_nil_iff,
    matchingArguments_eq_nil_iff, matchingInputs_eq_nil_iff, Bool.not_eq_true]
  constructor
  · rintro ⟨types, fields, arguments, inputFields⟩
    exact ⟨types, fields, fun owner member field declared =>
      .inr (arguments owner member field declared), inputFields⟩
  · rintro ⟨types, fields, arguments, inputFields⟩
    refine ⟨types, fields, fun owner member field declared => ?_, inputFields⟩
    exact (arguments owner member field declared).resolve_left
      (by simp [fields owner member field declared])

/-- A field that is found by its name matches. -/
theorem matches_of_matchingFields {found : FieldMatch}
    (member : found ∈ matchingFields isMatch owner) : isMatch found.field.name = true := by
  obtain ⟨field, matched, rfl⟩ := List.mem_map.mp member
  exact (List.mem_filter.mp matched).2

/-- One that is found through its arguments does not. -/
theorem not_matches_of_matchingArguments {found : FieldMatch}
    (member : found ∈ matchingArguments isMatch owner) : isMatch found.field.name = false := by
  obtain ⟨field, _, through⟩ := List.mem_filterMap.mp member
  rw [throughArguments] at through
  split at through
  · cases through
  · rename_i other
    cases through
    exact Bool.eq_false_iff.mpr fun matched => other (by simp [matched])

end Matches

private theorem take_eq_nil_iff_all {α β γ δ : Type} (limit : Nat) (first : List α)
    (second : List β) (third : List γ) (fourth : List δ) :
    (first.take limit = [] ∧ second.take limit = [] ∧ third.take limit = [] ∧
        fourth.take limit = []) ↔
      limit = 0 ∨ (first = [] ∧ second = [] ∧ third = [] ∧ fourth = []) := by
  simp only [List.take_eq_nil_iff, ← or_and_left]

/-- **A search with a limit is the beginning of one without.** Each group of results is the first
of all matches of its kind, in the order of the types and, within a type, of the declarations. No
field is found both by its name and through its arguments, and nothing is found exactly where the
limit is zero or nothing matches. -/
theorem search_takes_first_matches (matcher : Matcher) (limit : Nat) (schema : Schema)
    (term : String) (scope : Option Definition) :
    ∃ named owners, AreSearched named owners schema scope ∧
      let isMatch (name : String) : Bool := matcher name term
      let results := search matcher limit schema term scope
      (results.types = (named.filter (isMatch ·.name)).take limit ∧
        results.fields = (owners.flatMap (matchingFields isMatch)).take limit ∧
        results.arguments = (owners.flatMap (matchingArguments isMatch)).take limit ∧
        results.inputFields = (owners.flatMap (matchingInputs isMatch)).take limit) ∧
      (∀ found ∈ results.fields, ∀ other ∈ results.arguments,
        found.field.name ≠ other.field.name) ∧
      (results.isEmpty = true ↔ limit = 0 ∨ NothingMatches isMatch named owners) := by
  refine ⟨_, _, areSearched schema scope, ?_⟩
  intro isMatch results
  have cut : results =
      { types := ((namedTypes schema scope).filter (isMatch ·.name)).take limit
        fields := ((searchedTypes schema scope).flatMap (matchingFields isMatch)).take limit
        arguments := ((searchedTypes schema scope).flatMap (matchingArguments isMatch)).take limit
        inputFields :=
          ((searchedTypes schema scope).flatMap (matchingInputs isMatch)).take limit } :=
    search_eq_take limit matcher schema term scope
  rw [cut]
  refine ⟨⟨rfl, rfl, rfl, rfl⟩, fun found byName other through same => ?_, ?_⟩
  · obtain ⟨_, _, byName⟩ := List.mem_flatMap.mp (List.mem_of_mem_take byName)
    obtain ⟨_, _, through⟩ := List.mem_flatMap.mp (List.mem_of_mem_take through)
    have matched := matches_of_matchingFields byName
    rw [same, not_matches_of_matchingArguments through] at matched
    cases matched
  · rw [nothingMatches_iff, ← take_eq_nil_iff_all]
    simp [SearchResults.isEmpty, and_assoc]

end SchemaGuide.Explorer
