import SchemaGuide.Explorer.Search

/-! What a search finds. Every group of results is the beginning of what an unlimited search
would find: the matching members of the searched types, in the order of the types and, within
a type, in the order of their declaration. -/
namespace SchemaGuide.Explorer

/-- A group takes matches until it is full. -/
theorem foldl_addUpTo {α : Type} (limit : Nat) (group found : List α) :
    found.foldl (addUpTo limit) group = group ++ found.take (limit - group.length) := by
  induction found generalizing group with
  | nil => simp
  | cons first rest ih =>
    rw [List.foldl_cons, ih, addUpTo]
    split
    · rename_i room
      obtain ⟨left, more⟩ : ∃ left, limit - group.length = left + 1 :=
        ⟨limit - group.length - 1, by omega⟩
      have less : limit - (group ++ [first]).length = left := by
        rw [List.length_append, List.length_singleton]
        omega
      rw [more, less, List.take_succ_cons, List.append_assoc, List.singleton_append]
    · rename_i full
      rw [Nat.sub_eq_zero_of_le (Nat.not_lt.1 full), List.take_zero, List.take_zero]

variable (isMatch : String → Bool)

/-- The fields of a type that match. -/
def matchingFields (owner : NamedType) : List FieldMatch :=
  (owner.fields.filter (isMatch ·.name)).map (⟨owner, ·, []⟩)

/-- A field that does not match itself, with its arguments that do, if there are any. -/
def throughArguments (owner : NamedType) (field : Field) : Option FieldMatch :=
  let args := field.args.filter (isMatch ·.name)
  if isMatch field.name || args.isEmpty then none else some ⟨owner, field, args⟩

/-- The fields of a type that match through their arguments. -/
def matchingArguments (owner : NamedType) : List FieldMatch :=
  owner.fields.filterMap (throughArguments isMatch owner)

/-- The input fields of a type that match. -/
def matchingInputs (owner : NamedType) : List InputMatch :=
  (owner.inputFields.filter (isMatch ·.name)).map (⟨owner, ·⟩)

/-- The results with more matches. -/
def SearchResults.add (results : SearchResults) (limit : Nat) (more : SearchResults) :
    SearchResults where
  types := more.types.foldl (addUpTo limit) results.types
  fields := more.fields.foldl (addUpTo limit) results.fields
  arguments := more.arguments.foldl (addUpTo limit) results.arguments
  inputFields := more.inputFields.foldl (addUpTo limit) results.inputFields

variable (limit : Nat) (results : SearchResults)

private theorem visitInput_eq (owner : NamedType) (inputs : List InputValue) :
    inputs.foldl (visitInput isMatch limit owner) results =
      results.add limit
        ⟨[], [], [], (inputs.filter (isMatch ·.name)).map (⟨owner, ·⟩)⟩ := by
  induction inputs generalizing results with
  | nil => rfl
  | cons input rest ih =>
    rw [List.foldl_cons, ih, visitInput]
    by_cases same : isMatch input.name = true
    · simp [same, SearchResults.add]
    · simp [same]

private theorem visitField_eq (owner : NamedType) (fields : List Field) :
    fields.foldl (visitField isMatch limit owner) results =
      results.add limit
        ⟨[], (fields.filter (isMatch ·.name)).map (⟨owner, ·, []⟩),
          fields.filterMap (throughArguments isMatch owner), []⟩ := by
  induction fields generalizing results with
  | nil => rfl
  | cons field rest ih =>
    rw [List.foldl_cons, ih, visitField]
    by_cases same : isMatch field.name = true
    · have none : throughArguments isMatch owner field = none := by simp [throughArguments, same]
      rw [if_pos same, List.filterMap_cons_none none]
      simp [same, SearchResults.add]
    · rw [if_neg same]
      by_cases empty : (field.args.filter (isMatch ·.name)).isEmpty = true
      · have none : throughArguments isMatch owner field = none := by
          simp only [throughArguments, empty, Bool.or_true, if_true]
        rw [List.filterMap_cons_none none]
        simp [same, empty]
      · have found : throughArguments isMatch owner field =
            some ⟨owner, field, field.args.filter (isMatch ·.name)⟩ := by
          simp [throughArguments, same, empty]
        rw [List.filterMap_cons_some found]
        simp [same, empty, SearchResults.add]

private theorem visitMembers_eq (owner : NamedType) :
    visitMembers isMatch limit results owner =
      results.add limit
        ⟨[], matchingFields isMatch owner, matchingArguments isMatch owner,
          matchingInputs isMatch owner⟩ := by
  rw [visitMembers, visitInput_eq, visitField_eq]
  rfl

private theorem visitMembers_all_eq (types : List NamedType) :
    types.foldl (visitMembers isMatch limit) results =
      results.add limit
        ⟨[], types.flatMap (matchingFields isMatch), types.flatMap (matchingArguments isMatch),
          types.flatMap (matchingInputs isMatch)⟩ := by
  induction types generalizing results with
  | nil => rfl
  | cons type rest ih =>
    rw [List.foldl_cons, ih, visitMembers_eq]
    simp [SearchResults.add]

private theorem visitType_all_eq (types : List NamedType) :
    types.foldl (visitType isMatch limit) results =
      results.add limit ⟨types.filter (isMatch ·.name), [], [], []⟩ := by
  induction types generalizing results with
  | nil => rfl
  | cons type rest ih =>
    rw [List.foldl_cons, ih, visitType]
    by_cases same : isMatch type.name = true
    · simp [same, SearchResults.add]
    · simp [same]

/-- The types whose members are searched. -/
def searchedTypes (schema : Schema) (scope : Option Definition) : List NamedType :=
  match scope.bind (·.asType?) with
  | some type => [type]
  | none => schema.userTypes

/-- The types that are searched by name: none, within a type. -/
def namedTypes (schema : Schema) (scope : Option Definition) : List NamedType :=
  match scope.bind (·.asType?) with
  | some _ => []
  | none => schema.userTypes

/-- Each group is the beginning of all matches of its kind. -/
theorem search_eq_take (matcher : Matcher) (schema : Schema) (term : String)
    (scope : Option Definition) :
    let isMatch (name : String) : Bool := matcher name term
    let types := searchedTypes schema scope
    search matcher limit schema term scope =
      { types := ((namedTypes schema scope).filter (isMatch ·.name)).take limit
        fields := (types.flatMap (matchingFields isMatch)).take limit
        arguments := (types.flatMap (matchingArguments isMatch)).take limit
        inputFields := (types.flatMap (matchingInputs isMatch)).take limit } := by
  intro isMatch types
  rw [search]
  cases within : scope.bind (·.asType?) with
  | some type =>
    have only : types = [type] := by
      simp only [types, searchedTypes, within]
    simp only [only, namedTypes, within, visitMembers_eq]
    simp [SearchResults.add, SearchResults.none, foldl_addUpTo, isMatch]
  | none =>
    have all : types = schema.userTypes := by
      simp only [types, searchedTypes, within]
    simp only [all, namedTypes, within, visitMembers_all_eq, visitType_all_eq]
    simp [SearchResults.add, SearchResults.none, foldl_addUpTo, isMatch]

/-- A field of one of the types was found, through arguments of its own if through any. -/
structure FieldMatch.IsAmong (found : FieldMatch) (types : List NamedType) : Prop where
  owner : found.owner ∈ types
  field : found.field ∈ found.owner.fields
  args : found.args ⊆ found.field.args

/-- An input field of one of the types was found. -/
structure InputMatch.IsAmong (found : InputMatch) (types : List NamedType) : Prop where
  owner : found.owner ∈ types
  input : found.input ∈ found.owner.inputFields

/-- Everything that was found is in the types. -/
structure SearchResults.Among (results : SearchResults) (searched : List NamedType) : Prop where
  types : results.types ⊆ searched
  fields : ∀ found ∈ results.fields, found.IsAmong searched
  arguments : ∀ found ∈ results.arguments, found.IsAmong searched
  inputFields : ∀ found ∈ results.inputFields, found.IsAmong searched

/-- A search finds nothing but members of the types that it searches. -/
theorem search_among (matcher : Matcher) (schema : Schema) (term : String)
    (scope : Option Definition) :
    (search matcher limit schema term scope).Among (searchedTypes schema scope) := by
  rw [search_eq_take]
  constructor
  · intro type member
    have named := (List.mem_filter.1 (List.mem_of_mem_take member)).1
    revert named
    rw [namedTypes, searchedTypes]
    cases scope.bind (·.asType?) with
    | some type => exact fun none => nomatch none
    | none => exact id
  · intro found member
    obtain ⟨owner, searched, inside⟩ := List.mem_flatMap.1 (List.mem_of_mem_take member)
    obtain ⟨field, matched, rfl⟩ := List.mem_map.1 inside
    exact ⟨searched, (List.mem_filter.1 matched).1, List.nil_subset _⟩
  · intro found member
    obtain ⟨owner, searched, inside⟩ := List.mem_flatMap.1 (List.mem_of_mem_take member)
    obtain ⟨field, declared, matched⟩ := List.mem_filterMap.1 inside
    rw [throughArguments] at matched
    split at matched
    · cases matched
    · obtain rfl := Option.some.inj matched
      exact ⟨searched, declared, fun arg kept => (List.mem_filter.1 kept).1⟩
  · intro found member
    obtain ⟨owner, searched, inside⟩ := List.mem_flatMap.1 (List.mem_of_mem_take member)
    obtain ⟨input, matched, rfl⟩ := List.mem_map.1 inside
    exact ⟨searched, (List.mem_filter.1 matched).1⟩

end SchemaGuide.Explorer
