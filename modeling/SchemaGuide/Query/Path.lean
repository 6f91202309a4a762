import SchemaGuide.Query.Context
import SchemaGuide.Schema.Graph

/-! The type whose members a selection set selects, found by following its path through a
schema. -/
namespace SchemaGuide.Query

/-- The type that a step leads to from the type around it. -/
def Step.follow (schema : Schema) (outer : Option NamedType) : Step → Option NamedType
  | .operation keyword => schema.rootType? keyword
  | .typeCondition name => schema.type? name
  | .field name => do
    let field ← (← outer).field? name
    schema.type? field.type.namedType

/-- The type that a path leads to from the type around it. -/
def followFrom (schema : Schema) : Option NamedType → List Step → Option NamedType
  | outer, [] => outer
  | outer, step :: path =>
    (step.follow schema outer).bind fun type => followFrom schema (some type) path

/-- The type that a path leads to. An empty path leads to none. -/
def followPath (schema : Schema) (path : List Step) : Option NamedType :=
  followFrom schema none path

end SchemaGuide.Query
