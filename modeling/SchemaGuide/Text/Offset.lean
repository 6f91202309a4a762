/-! Places in a text, counted in the units of others: bytes of UTF-8 from the start, or
lines and, within a line, code units of UTF-16. A place never lies inside a character. -/
namespace SchemaGuide.Text

/-- The number of UTF-8 bytes of a text. -/
def byteLength : List Char → Nat
  | [] => 0
  | c :: rest => c.utf8Size + byteLength rest

/-- The number of UTF-16 code units of a character. -/
def codeUnits (c : Char) : Nat :=
  if c.toNat < 0x10000 then 1 else 2

/-- The longest start of a text that has at most that many bytes. -/
def upToByte : Nat → List Char → List Char
  | _, [] => []
  | bytes, c :: rest =>
    if c.utf8Size ≤ bytes then c :: upToByte (bytes - c.utf8Size) rest else []

/-- The bytes of the longest start of a line that has at most that many code units. -/
def columnOffset : Nat → List Char → Nat
  | _, [] => 0
  | units, c :: rest =>
    if c = '\n' || units < codeUnits c then 0
    else c.utf8Size + columnOffset (units - codeUnits c) rest

/-- The byte where a column of a line starts. A column behind the end of its line is the
end of the line, and a line behind the last one is the end of the text. -/
def positionOffset (column : Nat) : Nat → List Char → Nat
  | 0, chars => columnOffset column chars
  | _ + 1, [] => 0
  | line + 1, c :: rest =>
    c.utf8Size + positionOffset column (if c = '\n' then line else line + 1) rest

end SchemaGuide.Text
