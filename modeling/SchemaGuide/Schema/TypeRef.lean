/-! References to types as they stand in field and argument positions. A reference wraps
exactly one name in finitely many list and non-null wrappers. -/
namespace SchemaGuide

/-- A reference to a type. -/
inductive TypeRef where
  /-- The type of that name. -/
  | named (name : String)
  /-- A list of the inner type. -/
  | list (inner : TypeRef)
  /-- The inner type, never null. -/
  | nonNull (inner : TypeRef)
deriving DecidableEq, Repr, Inhabited

namespace TypeRef

/-- The name inside all wrappers. -/
def namedType : TypeRef → String
  | .named name => name
  | .list inner => inner.namedType
  | .nonNull inner => inner.namedType

/-- The notation of a type in pieces: brackets and bangs as `mark` makes them, the name as
`leaf` makes it. -/
def pieces {α : Type} (mark leaf : String → α) : TypeRef → List α
  | .named name => [leaf name]
  | .list inner => mark "[" :: inner.pieces mark leaf ++ [mark "]"]
  | .nonNull inner => inner.pieces mark leaf ++ [mark "!"]

/-- The notation of a type as plain text, such as `[User!]!`. -/
def plain (type : TypeRef) : String :=
  String.join (type.pieces id id)

end TypeRef
end SchemaGuide
