/-! JSON values. Members keep their order and repeated names, and numbers keep their
text, so nothing that a document says is lost before it is decoded. Texts are read and
written as by `serde_json` 1 without its optional features, and values are decoded as by the
decoders that `serde` derives. -/
namespace SchemaGuide

/-- A JSON value. A string whose escapes name half of a surrogate pair is valid JSON but
spells no text; it is `none`, as a value and as the name of a member. -/
inductive Json where
  | null
  | bool (value : Bool)
  /-- A number as it is written. -/
  | number (text : String)
  | string (value : Option String)
  | array (items : List Json)
  | object (members : List (Option String × Json))
deriving Inhabited

namespace Json

/-- The value of a text. -/
def ofText (text : String) : Json := .string (some text)

/-- The text of a string. -/
def text? : Json → Option String
  | .string value => value
  | _ => none

/-- The integer. -/
def int? : Json → Option Int
  | .number text => text.toInt?
  | _ => none

/-- An integer as a number. -/
def ofInt (value : Int) : Json := .number (toString value)

/-- The items of an array, and nothing for another value. -/
def items : Json → List Json
  | .array items => items
  | _ => []

/-- The truth value. -/
def bool? : Json → Option Bool
  | .bool value => some value
  | _ => none

/-- The members of an object that have a text for a name, and nothing for another value. -/
def members : Json → List (String × Json)
  | .object members => members.filterMap fun member => member.1.map (·, member.2)
  | _ => []

/-- The value of the first member of that name. -/
def member? (value : Json) (name : String) : Option Json :=
  (value.members.find? (·.1 == name)).map (·.2)

/-- An object of the members that are present. -/
def ofMembers (members : List (String × Option Json)) : Json :=
  .object (members.filterMap fun member => member.2.map (some member.1, ·))

end Json
end SchemaGuide
