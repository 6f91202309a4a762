import SchemaGuide.Markdown.EntityName
import SchemaGuide.Text.Hex
import SchemaGuide.Text.Punctuation

/-! Character references and backslash escapes. A reference that names no character stands
for the replacement character if it is a number, and for itself if it is a name. -/
namespace SchemaGuide.Markdown

/-- The character of a number, and the replacement character where there is none. -/
def charOfNumber (code : Nat) : Char :=
  if code = 0 || !decide code.isValidChar then Char.ofNat 0xFFFD else Char.ofNat code

/-- The number that the digits spell. -/
def numberOfDigits (base : Nat) (digits : List Char) : Nat :=
  digits.foldl (fun n c => n * base + (Text.digit? base c).getD 0) 0

/-- A numeric reference after its hash: between one digit and `limit` digits. -/
def numericReference? (base limit : Nat) (chars : List Char) :
    Option (List Char × List Char) :=
  let digits := chars.takeWhile fun c => (Text.digit? base c).isSome
  if digits.isEmpty || limit < digits.length then none
  else match chars.drop digits.length with
    | ';' :: rest => some ([charOfNumber (numberOfDigits base digits)], rest)
    | _ => none

/-- A named reference after its ampersand. -/
def namedReference? (chars : List Char) : Option (List Char × List Char) :=
  let name := chars.takeWhile Char.isAlphanum
  match chars.drop name.length with
  | ';' :: rest => (EntityName.lookup name).map fun codes => (codes.map Char.ofNat, rest)
  | _ => none

/-- The characters of a reference after its ampersand, and what follows the reference. -/
def reference? : List Char → Option (List Char × List Char)
  | '#' :: 'x' :: rest => numericReference? 16 6 rest
  | '#' :: 'X' :: rest => numericReference? 16 6 rest
  | '#' :: rest => numericReference? 10 7 rest
  | chars => namedReference? chars

/-- The text that references and escapes spell, within as many steps. -/
def unescapeWithin : Nat → List Char → List Char
  | _, [] => []
  | 0, chars => chars
  | steps + 1, '\\' :: c :: rest =>
    if Text.isAsciiPunctuation c then c :: unescapeWithin steps rest
    else '\\' :: unescapeWithin steps (c :: rest)
  | steps + 1, '&' :: rest =>
    match reference? rest with
    | some (value, after) => value ++ unescapeWithin steps after
    | none => '&' :: unescapeWithin steps rest
  | steps + 1, c :: rest => c :: unescapeWithin steps rest

/-- The text that references and escapes spell. -/
def unescape (chars : List Char) : List Char :=
  unescapeWithin chars.length chars

end SchemaGuide.Markdown
