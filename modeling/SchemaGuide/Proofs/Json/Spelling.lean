import SchemaGuide.Json.Parser

/-! The grammar of JSON texts. A value has its lexemes, and a text spells the value if it
consists of these lexemes, each written in one of its ways, with blanks anywhere around them.
A character of a string can be written as it is, by a letter or by the code of its units, and
a number is its own text. Nothing here reads a text. -/
namespace SchemaGuide.Json

/-! ## Numbers -/

/-- Digits, and at least one. -/
def IsDigits (chars : List Char) : Prop :=
  chars ≠ [] ∧ ∀ c ∈ chars, c.isDigit = true

/-- The whole part of a number, which starts with a zero only if it is zero. -/
def IsWhole (chars : List Char) : Prop :=
  IsDigits chars ∧ (chars.head? = some '0' → chars = ['0'])

/-- The fraction of a number, if it has one. -/
def IsFraction (chars : List Char) : Prop :=
  chars = [] ∨ ∃ digits, IsDigits digits ∧ chars = '.' :: digits

/-- The exponent of a number, if it has one. -/
def IsExponent (chars : List Char) : Prop :=
  chars = [] ∨ ∃ letter sign digits, letter ∈ ['e', 'E'] ∧ sign ∈ [[], ['+'], ['-']] ∧
    IsDigits digits ∧ chars = letter :: (sign ++ digits)

/-- A number. -/
inductive IsNumeral : List Char → Prop where
  | mk {sign whole fraction exponent : List Char} (signed : sign ∈ [[], ['-']])
    (isWhole : IsWhole whole) (isFraction : IsFraction fraction)
    (isExponent : IsExponent exponent) : IsNumeral (sign ++ (whole ++ (fraction ++ exponent)))

/-! ## Strings -/

/-- A letter that can stand behind a backslash, with the character that both stand for. -/
def shortEscapes : List (Char × Char) :=
  [('\x22', '\x22'), ('\\', '\\'), ('/', '/'), ('b', '\x08'), ('f', '\x0c'), ('n', '\n'),
    ('r', '\r'), ('t', '\t')]

/-- A hexadecimal digit, in lower or upper case. -/
def WritesHex (digit : Nat) (c : Char) : Prop :=
  "0123456789abcdef".toList[digit]? = some c ∨ "0123456789ABCDEF".toList[digit]? = some c

/-- A code of sixteen bits in four hexadecimal digits behind its escape. -/
inductive WritesCode : Nat → List Char → Prop where
  | mk {a b c d : Nat} {first second third fourth : Char} (writesFirst : WritesHex a first)
    (writesSecond : WritesHex b second) (writesThird : WritesHex c third)
    (writesFourth : WritesHex d fourth) :
    WritesCode (((a * 16 + b) * 16 + c) * 16 + d) ['\\', 'u', first, second, third, fourth]

/-- The ways to write a character of a string. -/
inductive WritesChar (c : Char) : List Char → Prop where
  | plain (printable : 0x20 ≤ c.toNat) (unquoted : c ≠ '\x22') (unescaped : c ≠ '\\') :
    WritesChar c [c]
  | short {letter : Char} (escape : (letter, c) ∈ shortEscapes) : WritesChar c ['\\', letter]
  | code {written : List Char} (writes : WritesCode c.toNat written) : WritesChar c written
  /-- Two codes, the halves of a pair, for a character that has no code of sixteen bits. -/
  | pair {high low : Nat} {first second : List Char} (highRange : 0xD800 ≤ high ∧ high < 0xDC00)
    (lowRange : 0xDC00 ≤ low ∧ low < 0xE000)
    (code : c.toNat = 0x10000 + (high - 0xD800) * 0x400 + (low - 0xDC00))
    (writesHigh : WritesCode high first) (writesLow : WritesCode low second) :
    WritesChar c (first ++ second)

/-- The ways to write the text of a string. -/
inductive WritesText : List Char → List Char → Prop where
  | nil : WritesText [] []
  | cons {c : Char} {text written rest : List Char} (first : WritesChar c written)
    (others : WritesText text rest) : WritesText (c :: text) (written ++ rest)

/-- The ways to write a unit of a string that may hold half of a pair alone. -/
inductive WritesUnit : Unit16 → List Char → Prop where
  | char {c : Char} {written : List Char} (writes : WritesChar c written)
    (one : c.toNat < 0x10000 ∨ written = [c]) : WritesUnit (.char c) written
  | high {code : Nat} {written : List Char} (range : 0xD800 ≤ code ∧ code < 0xDC00)
    (writes : WritesCode code written) : WritesUnit (.high code) written
  | low {code : Nat} {written : List Char} (range : 0xDC00 ≤ code ∧ code < 0xE000)
    (writes : WritesCode code written) : WritesUnit (.low code) written

/-- The ways to write the units of a string. -/
inductive WritesUnits : List Unit16 → List Char → Prop where
  | nil : WritesUnits [] []
  | cons {unit : Unit16} {units : List Unit16} {written rest : List Char}
    (first : WritesUnit unit written) (others : WritesUnits units rest) :
    WritesUnits (unit :: units) (written ++ rest)

/-! ## Lexemes -/

/-- The lexemes of one character. -/
def signs : List (Lexeme × Char) :=
  [(.openObject, '{'), (.closeObject, '}'), (.openArray, '['), (.closeArray, ']'), (.comma, ','),
    (.colon, ':')]

/-- What stands on both sides of a string. -/
def quoted (body : List Char) : List Char :=
  '\x22' :: (body ++ ['\x22'])

/-- The ways to write a lexeme. -/
inductive WritesLexeme : Lexeme → List Char → Prop where
  | sign {lexeme : Lexeme} {c : Char} (known : (lexeme, c) ∈ signs) : WritesLexeme lexeme [c]
  | null : WritesLexeme (.atom .null) ['n', 'u', 'l', 'l']
  | yes : WritesLexeme (.atom (.bool true)) ['t', 'r', 'u', 'e']
  | no : WritesLexeme (.atom (.bool false)) ['f', 'a', 'l', 's', 'e']
  | number {text : String} (isNumeral : IsNumeral text.toList) :
    WritesLexeme (.atom (.number text)) text.toList
  | string {text : String} {body : List Char} (writes : WritesText text.toList body) :
    WritesLexeme (.atom (.string (some text))) (quoted body)
  /-- A string in which half of a pair stands alone spells no text. -/
  | halves {units : List Unit16} {body : List Char} (writes : WritesUnits units body)
    (alone : textOfUnits? units = none) : WritesLexeme (.atom (.string none)) (quoted body)

/-- The ways to write lexemes in a row, with blanks around them. -/
inductive WritesLexemes : List Lexeme → List Char → Prop where
  | nil : WritesLexemes [] []
  | blank {lexemes : List Lexeme} {c : Char} {chars : List Char}
    (isBlank : c ∈ [' ', '\n', '\t', '\r']) (others : WritesLexemes lexemes chars) :
    WritesLexemes lexemes (c :: chars)
  | cons {lexeme : Lexeme} {lexemes : List Lexeme} {written chars : List Char}
    (first : WritesLexeme lexeme written) (others : WritesLexemes lexemes chars) :
    WritesLexemes (lexeme :: lexemes) (written ++ chars)

/-! ## Values -/

mutual

/-- The lexemes of a value. -/
def lexemes : Json → List Lexeme
  | .null => [.atom .null]
  | .bool value => [.atom (.bool value)]
  | .number text => [.atom (.number text)]
  | .string value => [.atom (.string value)]
  | .array [] => [.openArray, .closeArray]
  | .array (item :: rest) =>
    .openArray :: (item.lexemes ++ (moreItems rest ++ [.closeArray]))
  | .object [] => [.openObject, .closeObject]
  | .object ((name, value) :: rest) =>
    .openObject :: .atom (.string name) :: .colon ::
      (value.lexemes ++ (moreMembers rest ++ [.closeObject]))

/-- The lexemes of further items of an array. -/
def moreItems : List Json → List Lexeme
  | [] => []
  | item :: rest => .comma :: (item.lexemes ++ moreItems rest)

/-- The lexemes of further members of an object. -/
def moreMembers : List (Option String × Json) → List Lexeme
  | [] => []
  | (name, value) :: rest =>
    .comma :: .atom (.string name) :: .colon :: (value.lexemes ++ moreMembers rest)

end

/-- The text spells the value. -/
def Spells (text : String) (value : Json) : Prop :=
  WritesLexemes value.lexemes text.toList

end SchemaGuide.Json
