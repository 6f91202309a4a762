import SchemaGuide.Schema.Graph

/-! Where an explorer's schema comes from and how far it got. Loaded things carry the stamp
of their loading: two things with one stamp are the same thing, and equal content does not
make two things one. -/
namespace SchemaGuide.Explorer

/-- A value with the number of the event that brought it. -/
structure Stamped (α : Type) where
  stamp : Nat
  value : α

/-- How far the schema got. -/
inductive Slot where
  /-- It is not there yet. -/
  | pending
  /-- It was looked for, and there is none. -/
  | absent
  | loaded (schema : Stamped Schema)

/-- The schema and the errors of loading it. -/
structure Source where
  slot : Slot
  errors : Option (Stamped (List String))

/-- What a source offers to a view. -/
inductive Availability where
  | loading
  /-- Loading failed with these messages. -/
  | errored (messages : List String)
  | unavailable
  | ready (schema : Schema)

namespace Source

/-- The source before anything is loaded. -/
def initial : Source := ⟨.pending, none⟩

/-- The schema, if it is there. -/
def schema? (source : Source) : Option (Stamped Schema) :=
  match source.slot with
  | .loaded schema => some schema
  | .pending | .absent => none

/-- What the source offers. Errors come first, whatever else is there. -/
def availability (source : Source) : Availability :=
  match source.errors, source.slot with
  | some ⟨_, message :: more⟩, _ => .errored (message :: more)
  | _, .pending => .loading
  | _, .absent => .unavailable
  | _, .loaded schema => .ready schema.value

end Source
end SchemaGuide.Explorer
