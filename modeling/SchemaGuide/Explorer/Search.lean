import SchemaGuide.Schema.Graph
import SchemaGuide.Text.Lowercase
import SchemaGuide.Text.Substring

/-! Search for members of a schema by name. What counts as a match is left to a matcher;
here it is decided what is matched, and into which group a match falls. Every group takes
matches until it is full. -/
namespace SchemaGuide.Explorer

/-- Whether a name matches a term. -/
abbrev Matcher := (name term : String) → Bool

/-- A name matches a term that occurs in it, without regard to case. -/
def ignoringCase : Matcher := fun name term =>
  Text.occursIn (Text.lowercase term.toList) (Text.lowercase name.toList)

/-- A field that was found, with the type on which it was found. -/
structure FieldMatch where
  owner : NamedType
  field : Field
  /-- The arguments that matched, if the field was found through them. -/
  args : List InputValue
deriving DecidableEq

/-- A field of an input object that was found. -/
structure InputMatch where
  owner : NamedType
  input : InputValue
deriving DecidableEq

/-- What a search found. -/
structure SearchResults where
  /-- Types with a matching name. -/
  types : List NamedType
  /-- Fields with a matching name. -/
  fields : List FieldMatch
  /-- Other fields, with the arguments that have a matching name. -/
  arguments : List FieldMatch
  inputFields : List InputMatch
deriving DecidableEq

namespace SearchResults

/-- Nothing was found. -/
def none : SearchResults := ⟨[], [], [], []⟩

/-- Whether nothing was found. -/
def isEmpty (results : SearchResults) : Bool :=
  results.types.isEmpty && results.fields.isEmpty && results.arguments.isEmpty &&
    results.inputFields.isEmpty

end SearchResults

/-- A group with one more match, unless it is full. -/
def addUpTo {α : Type} (limit : Nat) (group : List α) (found : α) : List α :=
  if group.length < limit then group ++ [found] else group

/-- The results after an input field. -/
def visitInput (isMatch : String → Bool) (limit : Nat) (owner : NamedType)
    (results : SearchResults) (input : InputValue) : SearchResults :=
  if isMatch input.name then
    { results with inputFields := addUpTo limit results.inputFields ⟨owner, input⟩ }
  else results

/-- The results after a field. A field whose own name matches is not looked at for its
arguments. -/
def visitField (isMatch : String → Bool) (limit : Nat) (owner : NamedType)
    (results : SearchResults) (field : Field) : SearchResults :=
  if isMatch field.name then
    { results with fields := addUpTo limit results.fields ⟨owner, field, []⟩ }
  else
    let args := field.args.filter fun arg => isMatch arg.name
    if args.isEmpty then results
    else { results with arguments := addUpTo limit results.arguments ⟨owner, field, args⟩ }

/-- The results after the members of a type. -/
def visitMembers (isMatch : String → Bool) (limit : Nat) (results : SearchResults)
    (owner : NamedType) : SearchResults :=
  owner.fields.foldl (visitField isMatch limit owner)
    (owner.inputFields.foldl (visitInput isMatch limit owner) results)

/-- The results after the name of a type. -/
def visitType (isMatch : String → Bool) (limit : Nat) (results : SearchResults)
    (type : NamedType) : SearchResults :=
  if isMatch type.name then { results with types := addUpTo limit results.types type }
  else results

/-- Searches a schema. Within a type only its members are searched; a field or an argument
has no members, so that the whole schema is searched there. -/
def search (matcher : Matcher) (limit : Nat) (schema : Schema) (term : String)
    (scope : Option Definition) : SearchResults :=
  let isMatch (name : String) : Bool := matcher name term
  match scope.bind (·.asType?) with
  | some type => visitMembers isMatch limit .none type
  | none =>
    let types := schema.userTypes
    types.foldl (visitMembers isMatch limit) (types.foldl (visitType isMatch limit) .none)

end SchemaGuide.Explorer
