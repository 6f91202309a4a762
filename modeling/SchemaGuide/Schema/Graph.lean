import SchemaGuide.Schema.Basic

/-! A schema: its named types in the order of their names, each name once, and the names
of the types where operations start. -/
namespace SchemaGuide

/-- Named types in the strict order of their names, so each name occurs once. -/
structure TypeTable where
  entries : List NamedType
  ordered : entries.Pairwise (·.name < ·.name)

namespace TypeTable

/-- The table without types. -/
def empty : TypeTable := ⟨[], .nil⟩

/-- The type of that name. -/
def get? (table : TypeTable) (name : String) : Option NamedType :=
  table.entries.find? (·.name == name)

/-- The list with the type at the place of its name, instead of one of the same name. -/
def place (type : NamedType) : List NamedType → List NamedType
  | [] => [type]
  | first :: rest =>
    if type.name < first.name then type :: first :: rest
    else if first.name < type.name then first :: place type rest
    else type :: rest

theorem mem_place {type other : NamedType} :
    ∀ {entries : List NamedType}, other ∈ place type entries → other = type ∨ other ∈ entries
  | [], member => by simpa [place] using member
  | first :: rest, member => by
    unfold place at member
    split at member
    · simpa using member
    · split at member
      · rcases List.mem_cons.1 member with same | later
        · exact .inr (by simp [same])
        · exact (mem_place later).imp id (List.mem_cons_of_mem _)
      · rcases List.mem_cons.1 member with same | later
        · exact .inl same
        · exact .inr (List.mem_cons_of_mem _ later)

theorem place_ordered (type : NamedType) :
    ∀ {entries : List NamedType}, entries.Pairwise (·.name < ·.name) →
      (place type entries).Pairwise (·.name < ·.name)
  | [], _ => by simp [place]
  | first :: rest, ordered => by
    have above := (List.pairwise_cons.1 ordered).1
    have inner := (List.pairwise_cons.1 ordered).2
    unfold place
    split
    · rename_i before
      refine List.pairwise_cons.2 ⟨fun other member => ?_, ordered⟩
      rcases List.mem_cons.1 member with same | later
      · exact same ▸ before
      · exact String.lt_trans before (above other later)
    · rename_i notBefore
      split
      · rename_i after
        refine List.pairwise_cons.2 ⟨fun other member => ?_, place_ordered type inner⟩
        rcases mem_place member with same | later
        · exact same ▸ after
        · exact above other later
      · rename_i notAfter
        have same : type.name = first.name :=
          String.le_antisymm (String.not_lt.1 notAfter) (String.not_lt.1 notBefore)
        exact List.pairwise_cons.2 ⟨fun other member => same ▸ above other member, inner⟩

/-- The table with the type, which replaces an earlier one of its name. -/
def insert (table : TypeTable) (type : NamedType) : TypeTable :=
  ⟨place type table.entries, place_ordered type table.ordered⟩

/-- The table of a list of types, in which a later type replaces an earlier one of its name. -/
def ofList (types : List NamedType) : TypeTable :=
  types.foldl insert empty

end TypeTable

/-- A loaded schema. -/
structure Schema where
  description : Option String
  /-- The name of the type where queries start. -/
  query : Option String
  /-- The name of the type where mutations start. -/
  mutation : Option String
  /-- The name of the type where subscriptions start. -/
  subscription : Option String
  types : TypeTable

namespace Schema

/-- The type of that name. -/
def type? (schema : Schema) (name : String) : Option NamedType :=
  schema.types.get? name

/-- The name of the type where an operation of that keyword starts. -/
def rootName? (schema : Schema) (keyword : String) : Option String :=
  if keyword = "query" then schema.query
  else if keyword = "mutation" then schema.mutation
  else if keyword = "subscription" then schema.subscription
  else none

/-- The type where an operation of that keyword starts. -/
def rootType? (schema : Schema) (keyword : String) : Option NamedType :=
  (schema.rootName? keyword).bind schema.type?

/-- The operation keywords whose starting type exists, each with that type. -/
def rootTypes (schema : Schema) : List (String × NamedType) :=
  ["query", "mutation", "subscription"].filterMap fun keyword =>
    (schema.rootType? keyword).map (keyword, ·)

/-- The types that describe the user's data, in the order of their names. -/
def userTypes (schema : Schema) : List NamedType :=
  schema.types.entries.filter (!·.isIntrospection)

/-- The definition that a type, field and argument name lead to. -/
def definition? (schema : Schema) (typeName : String) (field argument : Option String) :
    Option Definition :=
  match schema.type? typeName, field, argument with
  | none, _, _ => none
  | some type, none, _ => some (.type type)
  | some type, some field, none => (type.field? field).map .field
  | some type, some field, some argument =>
    ((type.field? field).bind (·.argument? argument)).map .argument

end Schema
end SchemaGuide
