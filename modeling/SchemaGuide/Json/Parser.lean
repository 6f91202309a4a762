import SchemaGuide.Json.Basic
import SchemaGuide.Text.Hex

/-! Reading of JSON text: first the lexemes, then the value they spell. The value is built
by a machine with one open container per level, so nesting is bounded by nothing but the
text: the bound of `serde_json` on nesting is on values that are decoded, and is counted there.
Texts are accepted as `serde_json` accepts them, and no wording of its refusals is kept. -/
namespace SchemaGuide.Json

/-- The lexemes of JSON. -/
inductive Lexeme where
  | openObject
  | closeObject
  | openArray
  | closeArray
  | comma
  | colon
  /-- A value without parts. -/
  | atom (value : Json)

/-- Blanks between lexemes. -/
def isSpace (c : Char) : Bool :=
  c = ' ' || c = '\n' || c = '\t' || c = '\r'

/-- The value of four hexadecimal digits. -/
def hexQuad? (a b c d : Char) : Option Nat := do
  let a ← Text.hexDigit? a
  let b ← Text.hexDigit? b
  let c ← Text.hexDigit? c
  let d ← Text.hexDigit? d
  some (((a * 16 + b) * 16 + c) * 16 + d)

/-- The character of an escape of one letter. -/
def shortEscape? (c : Char) : Option Char :=
  if c = '\x22' || c = '\\' || c = '/' then some c
  else if c = 'b' then some '\x08'
  else if c = 'f' then some '\x0c'
  else if c = 'n' then some '\n'
  else if c = 'r' then some '\r'
  else if c = 't' then some '\t'
  else none

/-- One unit of a string: a character, or half of a surrogate pair. -/
inductive Unit16 where
  | char (c : Char)
  | high (code : Nat)
  | low (code : Nat)

/-- The unit that an escape of four digits names. -/
def Unit16.ofCode (code : Nat) : Unit16 :=
  if 0xD800 ≤ code && code < 0xDC00 then .high code
  else if 0xDC00 ≤ code && code < 0xE000 then .low code
  else .char (Char.ofNat code)

/-- The text of a sequence of units, in which each high half must be followed by a low one. -/
def textOfUnits? : List Unit16 → Option (List Char)
  | [] => some []
  | .char c :: rest => (textOfUnits? rest).map (c :: ·)
  | .high high :: .low low :: rest =>
    (textOfUnits? rest).map
      (Char.ofNat (0x10000 + (high - 0xD800) * 0x400 + (low - 0xDC00)) :: ·)
  | .high _ :: _ => none
  | .low _ :: _ => none

/-- The units of a string up to its closing mark, and what follows that mark. `none` where
the string is not closed, holds a control character or an escape that does not exist. -/
def stringUnits? : List Char → Option (List Unit16 × List Char)
  | [] => none
  | '\\' :: 'u' :: a :: b :: c :: d :: rest => do
    let code ← hexQuad? a b c d
    let (units, after) ← stringUnits? rest
    some (Unit16.ofCode code :: units, after)
  | '\\' :: c :: rest => do
    let escaped ← shortEscape? c
    let (units, after) ← stringUnits? rest
    some (.char escaped :: units, after)
  | c :: rest =>
    if c = '\x22' then some ([], rest)
    else if c.toNat < 0x20 || c = '\\' then none
    else do
      let (units, after) ← stringUnits? rest
      some (.char c :: units, after)

/-- The digits at the front, and the rest. -/
def digits (chars : List Char) : List Char × List Char :=
  (chars.takeWhile Char.isDigit, chars.dropWhile Char.isDigit)

/-- The whole part of a number: no leading zero unless it is all. -/
def wholePart? (chars : List Char) : Option (List Char × List Char) :=
  match digits chars with
  | ([], _) => none
  | ('0' :: _ :: _, _) => none
  | parts => some parts

/-- The digits after the point, if there is a point. -/
def fraction? : List Char → Option (List Char × List Char)
  | '.' :: rest =>
    match digits rest with
    | ([], _) => none
    | (ds, after) => some ('.' :: ds, after)
  | chars => some ([], chars)

/-- The exponent, if there is one. -/
def exponent? : List Char → Option (List Char × List Char)
  | e :: rest =>
    if e = 'e' || e = 'E' then
      let (sign, rest) := match rest with
        | '+' :: rest => (['+'], rest)
        | '-' :: rest => (['-'], rest)
        | rest => ([], rest)
      match digits rest with
      | ([], _) => none
      | (ds, after) => some (e :: sign ++ ds, after)
    else some ([], e :: rest)
  | [] => some ([], [])

/-- The number at the front, and the rest. -/
def number? (chars : List Char) : Option (List Char × List Char) := do
  let (sign, rest) := match chars with
    | '-' :: rest => (['-'], rest)
    | rest => ([], rest)
  let (whole, rest) ← wholePart? rest
  let (fraction, rest) ← fraction? rest
  let (exponent, rest) ← exponent? rest
  some (sign ++ whole ++ fraction ++ exponent, rest)

/-- The lexeme that starts with `c`, and the rest. -/
def lexeme? (c : Char) (rest : List Char) : Option (Lexeme × List Char) :=
  if c = '{' then some (.openObject, rest)
  else if c = '}' then some (.closeObject, rest)
  else if c = '[' then some (.openArray, rest)
  else if c = ']' then some (.closeArray, rest)
  else if c = ',' then some (.comma, rest)
  else if c = ':' then some (.colon, rest)
  else if c = '\x22' then do
    let (units, after) ← stringUnits? rest
    some (.atom (.string ((textOfUnits? units).map String.ofList)), after)
  else match c, rest with
    | 'n', 'u' :: 'l' :: 'l' :: after => some (.atom .null, after)
    | 't', 'r' :: 'u' :: 'e' :: after => some (.atom (.bool true), after)
    | 'f', 'a' :: 'l' :: 's' :: 'e' :: after => some (.atom (.bool false), after)
    | _, _ => do
      let (text, after) ← number? (c :: rest)
      some (.atom (.number (String.ofList text)), after)

/-- The lexemes of a text. Every lexeme takes a character at least, so as many steps as
there are characters are enough. -/
def lexemesWithin : Nat → List Char → Option (List Lexeme)
  | _, [] => some []
  | 0, _ :: _ => none
  | steps + 1, c :: rest =>
    if isSpace c then lexemesWithin steps rest
    else do
      let (lexeme, after) ← lexeme? c rest
      (lexemesWithin steps after).map (lexeme :: ·)

/-- The lexemes of a text. -/
def lexemes? (chars : List Char) : Option (List Lexeme) :=
  lexemesWithin chars.length chars

/-- A container that is still open. Parts that are complete stand last first. -/
inductive Frame where
  | array (items : List Json)
  | object (members : List (Option String × Json))
  /-- An object whose latest member has a name and no value yet. -/
  | member (members : List (Option String × Json)) (name : Option String)

/-- What a reader of lexemes waits for. -/
inductive Progress where
  /-- A value. -/
  | value (stack : List Frame)
  /-- The first part of the innermost container, or its end. -/
  | first (stack : List Frame)
  /-- The name of a further member. -/
  | name (stack : List Frame)
  /-- The colon after a name. -/
  | colon (stack : List Frame)
  /-- A comma, or the end of the innermost container. -/
  | next (stack : List Frame)
  /-- Nothing more: the text is this value. -/
  | done (value : Json)

/-- A complete value becomes a part of the innermost container, or the whole. -/
def deliver (value : Json) : List Frame → Option Progress
  | [] => some (.done value)
  | .array items :: stack => some (.next (.array (value :: items) :: stack))
  | .member members name :: stack => some (.next (.object ((name, value) :: members) :: stack))
  | .object _ :: _ => none

/-- The start of a value. -/
def begin (stack : List Frame) : Lexeme → Option Progress
  | .openObject => some (.first (.object [] :: stack))
  | .openArray => some (.first (.array [] :: stack))
  | .atom value => deliver value stack
  | _ => none

/-- The end of the innermost container. -/
def close : List Frame → Lexeme → Option Progress
  | .array items :: stack, .closeArray => deliver (.array items.reverse) stack
  | .object members :: stack, .closeObject => deliver (.object members.reverse) stack
  | _, _ => none

/-- A lexeme after what was read before. -/
def advance : Progress → Lexeme → Option Progress
  | .value stack, lexeme => begin stack lexeme
  | .first (.array items :: stack), lexeme =>
    match lexeme with
    | .closeArray => close (.array items :: stack) .closeArray
    | other => begin (.array items :: stack) other
  | .first (.object members :: stack), lexeme =>
    match lexeme with
    | .closeObject => close (.object members :: stack) .closeObject
    | .atom (.string name) => some (.colon (.member members name :: stack))
    | _ => none
  | .first _, _ => none
  | .name (.object members :: stack), .atom (.string name) =>
    some (.colon (.member members name :: stack))
  | .name _, _ => none
  | .colon stack, .colon => some (.value stack)
  | .colon _, _ => none
  | .next (.array items :: stack), .comma => some (.value (.array items :: stack))
  | .next (.object members :: stack), .comma => some (.name (.object members :: stack))
  | .next stack, lexeme => close stack lexeme
  | .done _, _ => none

/-- The progress after all lexemes. -/
def advanceAll (progress : Progress) : List Lexeme → Option Progress
  | [] => some progress
  | lexeme :: rest => (advance progress lexeme).bind (advanceAll · rest)

/-- The value that a text spells. -/
def parse? (text : String) : Option Json := do
  match ← advanceAll (.value []) (← lexemes? text.toList) with
  | .done value => some value
  | _ => none

end SchemaGuide.Json
