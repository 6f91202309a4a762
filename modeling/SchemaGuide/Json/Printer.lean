import SchemaGuide.Json.Basic

/-! JSON text of a value, without blanks. -/
namespace SchemaGuide.Json

/-- A hexadecimal digit. -/
def hexDigitChar (n : Nat) : Char :=
  if n < 10 then Char.ofNat ('0'.toNat + n) else Char.ofNat ('a'.toNat + (n - 10))

/-- A character inside of a string. -/
def stringChar (c : Char) : List Char :=
  if c = '\x22' then ['\\', '\x22']
  else if c = '\\' then ['\\', '\\']
  else if c.toNat < 0x20 then
    ['\\', 'u', '0', '0', hexDigitChar (c.toNat / 16), hexDigitChar (c.toNat % 16)]
  else [c]

/-- A string. One that spells no text is written as the replacement character. -/
def printString (text : Option String) : List Char :=
  '\x22' :: ((text.getD "\uFFFD").toList.flatMap stringChar ++ ['\x22'])

mutual

/-- The text of a value. -/
def printValue : Json → List Char
  | .null => "null".toList
  | .bool true => "true".toList
  | .bool false => "false".toList
  | .number text => text.toList
  | .string value => printString value
  | .array items => '[' :: (printItems items ++ [']'])
  | .object members => '{' :: (printMembers members ++ ['}'])

/-- The items of an array, with commas between them. -/
def printItems : List Json → List Char
  | [] => []
  | [item] => printValue item
  | item :: rest => printValue item ++ ',' :: printItems rest

/-- The members of an object, with commas between them. -/
def printMembers : List (Option String × Json) → List Char
  | [] => []
  | [(name, value)] => printString name ++ ':' :: printValue value
  | (name, value) :: rest =>
    printString name ++ ':' :: (printValue value ++ ',' :: printMembers rest)

end

/-- The text of a value. -/
def print (value : Json) : String :=
  String.ofList (printValue value)

end SchemaGuide.Json
