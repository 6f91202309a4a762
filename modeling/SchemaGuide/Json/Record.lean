import SchemaGuide.Json.Basic

/-! Decoding of records. A record with known keys is written as an object, in which other
keys are ignored and a known key may stand once, or as the array of its values in the
order of the keys. Levels of nesting are counted: `depth` is how many more may be
entered. -/
namespace SchemaGuide.Json

/-- The values that a document gives for the keys of a record. -/
structure Record where
  /-- Whether the values were given by position. -/
  positional : Bool
  values : List (String × Json)

/-- Reads a record of these keys. -/
def record? (keys : List String) : Json → Option Record
  | .object members => do
    let named ← members.mapM fun member => member.1.map (·, member.2)
    let known := named.filter fun member => keys.contains member.1
    if (known.map (·.1)).Nodup then some ⟨false, known⟩ else none
  | .array items => if items.length ≤ keys.length then some ⟨true, keys.zip items⟩ else none
  | _ => none

namespace Record

/-- The value for a key. -/
def get? (record : Record) (key : String) : Option Json :=
  (record.values.find? (·.1 == key)).map (·.2)

/-- A value that must be there. -/
def required {α : Type} (record : Record) (key : String) (decode : Json → Option α) : Option α :=
  (record.get? key).bind decode

/-- A value that may be null, or be left out of an object. -/
def optional {α : Type} (record : Record) (key : String) (decode : Json → Option α) :
    Option (Option α) :=
  match record.get? key with
  | some .null => some none
  | some value => (decode value).map some
  | none => if record.positional then none else some none

/-- A value that may be left out, but not be null. -/
def defaulted {α : Type} (record : Record) (key : String) (decode : Json → Option α)
    (standard : α) : Option α :=
  match record.get? key with
  | some value => decode value
  | none => some standard

end Record

/-- A list of values, each read one level deeper. -/
def list? {α : Type} (decode : Nat → Json → Option α) : Nat → Json → Option (List α)
  | depth + 1, .array items => items.mapM (decode depth)
  | _, _ => none

end SchemaGuide.Json
