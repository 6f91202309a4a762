import SchemaGuide.Json.Record

/-! What a JSON value has to look like to be taken. A shape refuses the values that do not
fit, and brings the others into a normal form: keys that it does not know and optional
members that are null are gone, and records are objects. -/
namespace SchemaGuide.Json

/-- The normal form of a value, if the value fits. -/
abbrev Shape : Type := Json → Option Json

namespace Shape

/-- Any value. -/
def any : Shape := some

/-- A text. -/
def text : Shape := fun value => value.text?.map Json.ofText

/-- A truth value. -/
def bool : Shape := fun value => value.bool?.map Json.bool

/-- One of these words. -/
def word (words : List String) : Shape := fun value =>
  (value.text?.filter words.contains).map Json.ofText

/-- An integer between two bounds. -/
def integer (least most : Int) : Shape := fun value =>
  (value.int?.filter fun number => least ≤ number && number ≤ most).map Json.ofInt

/-- A list of values of one shape. -/
def listOf (item : Shape) : Shape
  | .array items => (items.mapM item).map Json.array
  | _ => none

/-- One of two shapes, the first one if both fit. -/
def either (first second : Shape) : Shape := fun value =>
  (first value).or (second value)

/-- A key of a record. -/
structure Key where
  name : String
  /-- Whether the record needs the key. Any other key may be missing or null. -/
  needed : Bool
  shape : Shape

/-- A record of these keys, in this order. -/
def recordOf (keys : List Key) : Shape := fun value => do
  let record ← record? (keys.map (·.name)) value
  let members ← keys.mapM fun key =>
    if key.needed then (record.required key.name key.shape).map fun value => (key.name, some value)
    else (record.optional key.name key.shape).map fun value => (key.name, value)
  some (ofMembers members)

end Shape
end SchemaGuide.Json
