import SchemaGuide.Query.Token
import SchemaGuide.Text.Punctuation

/-! The lexical grammar of query texts, and what the lexer makes of it. A text is written
lexeme by lexeme, with a gap behind each that may hold white space, commas and comments;
the gap may be empty unless the next lexeme would then run into this one. The grammar is
that of the query language and says nothing of lexers. The lexer reads every text of it as
the tokens of its lexemes, provided that it comes out of each block string where the string
ends: it lets any backslash take the next character along, and the grammar does not. -/
namespace SchemaGuide.Query

/-! ## Lexemes -/

/-- A name: a letter or an underscore, then letters, digits and underscores. -/
structure Name where
  first : Char
  rest : List Char
  starts : (first.isAlpha || first = '_') = true
  goesOn : ∀ c ∈ rest, (c.isAlphanum || c = '_') = true

/-- The name of characters that are all seen to fit. -/
def Name.ofChars (first : Char) (rest : List Char)
    (starts : (first.isAlpha || first = '_') = true)
    (goesOn : rest.all (fun c => c.isAlphanum || c = '_') = true) : Name :=
  ⟨first, rest, starts, List.all_eq_true.mp goesOn⟩

/-- The characters of a name. -/
def Name.chars (name : Name) : List Char := name.first :: name.rest

/-- The name as text. -/
def Name.text (name : Name) : String := String.ofList name.chars

/-- A piece of what may stand between two lexemes. -/
inductive GapPiece where
  /-- White space, a comma, or the mark of the byte order. -/
  | blank (c : Char) (isBlank : (Text.isBlank c || c = ',' || c = '\ufeff') = true)
  /-- A comment with the end of its line. -/
  | comment (text : List Char) (oneLine : '\n' ∉ text)

/-- The characters of a piece of a gap. -/
def GapPiece.chars : GapPiece → List Char
  | .blank c _ => [c]
  | .comment text _ => '#' :: text ++ ['\n']

/-- What stands between two lexemes. -/
abbrev Gap := List GapPiece

/-- The characters of a gap. -/
def Gap.chars (gap : Gap) : List Char := gap.flatMap GapPiece.chars

/-- A digit and more digits. -/
structure Digits where
  first : Char
  rest : List Char
  areDigits : ∀ c ∈ first :: rest, c.isDigit = true

/-- The characters of some digits. -/
def Digits.chars (digits : Digits) : List Char := digits.first :: digits.rest

theorem Digits.isDigit_of_mem (digits : Digits) : ∀ c ∈ digits.chars, c.isDigit = true :=
  digits.areDigits

/-- The exponent of a number. -/
structure Exponent where
  upperCase : Bool
  /-- The sign of the exponent, if one is written: whether it is a minus. -/
  negative : Option Bool
  digits : Digits

/-- A number. -/
structure Number where
  negative : Bool
  whole : Digits
  fraction : Option Digits
  exponent : Option Exponent

/-- The letter that starts an exponent. -/
def Exponent.letter (exponent : Exponent) : Char :=
  if exponent.upperCase then 'E' else 'e'

/-- The characters of a sign. -/
def signChars : Option Bool → List Char
  | none => []
  | some true => ['-']
  | some false => ['+']

/-- The characters of an exponent. -/
def Exponent.chars (exponent : Exponent) : List Char :=
  exponent.letter :: signChars exponent.negative ++ exponent.digits.chars

/-- The characters of a number behind its sign. -/
def Number.unsigned (number : Number) : List Char :=
  number.whole.chars ++ (number.fraction.elim [] fun digits => '.' :: digits.chars) ++
    number.exponent.elim [] Exponent.chars

/-- A piece of a string on one line. -/
inductive StringPiece where
  | plain (c : Char) (isPlain : c ≠ '\x22' ∧ c ≠ '\\' ∧ c ≠ '\n')
  /-- A backslash with the character that it escapes. -/
  | escape (c : Char) (oneLine : c ≠ '\n')

/-- The characters of a piece of a string. -/
def StringPiece.chars : StringPiece → List Char
  | .plain c _ => [c]
  | .escape c _ => ['\\', c]

/-- What a block string starts and ends with. -/
def blockMark : List Char := ['\x22', '\x22', '\x22']

/-- The contents of block strings: three quotation marks stand there only behind a
backslash, and the ones behind the content are the first that do not. -/
inductive BlockContent : List Char → Prop where
  | nil : BlockContent []
  | escape {rest : List Char} (content : BlockContent rest) :
      BlockContent ('\\' :: blockMark ++ rest)
  | plain {c : Char} {rest : List Char}
      (unmarked : ¬ blockMark <+: c :: rest ++ blockMark)
      (unescaped : ¬ '\\' :: blockMark <+: c :: rest ++ blockMark)
      (content : BlockContent rest) : BlockContent (c :: rest)

/-- A punctuator of one character. -/
inductive Sign where
  | openBrace
  | closeBrace
  | openParenthesis
  | closeParenthesis
  | openBracket
  | closeBracket
  | colon
  | atSign
  | bang
  | equals
deriving DecidableEq, Repr

/-- The character of a punctuator. -/
def Sign.char : Sign → Char
  | .openBrace => '{'
  | .closeBrace => '}'
  | .openParenthesis => '('
  | .closeParenthesis => ')'
  | .openBracket => '['
  | .closeBracket => ']'
  | .colon => ':'
  | .atSign => '@'
  | .bang => '!'
  | .equals => '='

/-- A lexeme of a query text. -/
inductive Lexeme where
  | name (name : Name)
  | sign (sign : Sign)
  | spread
  /-- A variable; its name may stand apart from its dollar sign. -/
  | dollar (gap : Gap) (name : Name)
  | number (number : Number)
  | string (pieces : List StringPiece)
  | block (content : List Char) (isContent : BlockContent content)

namespace Lexeme

/-- The first character of a lexeme. -/
def first : Lexeme → Char
  | .name word => word.first
  | .sign mark => mark.char
  | .spread => '.'
  | .dollar _ _ => '$'
  | .number value => if value.negative then '-' else value.whole.first
  | .string _ | .block _ _ => '\x22'

/-- The characters of a lexeme behind the first. -/
def rest : Lexeme → List Char
  | .name word => word.rest
  | .sign _ => []
  | .spread => ['.', '.']
  | .dollar gap word => gap.chars ++ word.chars
  | .number value => if value.negative then value.unsigned else value.unsigned.tail
  | .string pieces => pieces.flatMap StringPiece.chars ++ ['\x22']
  | .block content _ => ['\x22', '\x22'] ++ content ++ blockMark

/-- The characters of a lexeme. -/
def chars (lexeme : Lexeme) : List Char := lexeme.first :: lexeme.rest

/-- Whether a character directly behind a lexeme would be taken for a part of it. -/
def takes : Lexeme → Char → Bool
  | .name _, c | .dollar _ _, c | .number _, c => isNamePart c
  | .string _, c | .block _ _, c => c = '\x22'
  | .sign _, _ | .spread, _ => false

end Lexeme

/-- Lexemes, each with the gap behind it. -/
abbrev Writing := List (Lexeme × Gap)

namespace Writing

/-- The text of a writing. -/
def chars (writing : Writing) : List Char :=
  writing.flatMap fun piece => piece.1.chars ++ piece.2.chars

/-- No lexeme runs into the next one. -/
def Separated : Writing → Prop
  | (lexeme, gap) :: (next, nextGap) :: rest =>
    (gap = [] → lexeme.takes next.first = false) ∧ Separated ((next, nextGap) :: rest)
  | _ => True

instance decideSeparated : ∀ writing : Writing, Decidable writing.Separated
  | [] | [_] => .isTrue trivial
  | (lexeme, gap) :: (next, nextGap) :: rest =>
    have := decideSeparated ((next, nextGap) :: rest)
    inferInstanceAs (Decidable ((gap = [] → lexeme.takes next.first = false) ∧
      Separated ((next, nextGap) :: rest)))

end Writing

/-- The text is written with these lexemes. -/
def Spells (text : List Char) (lexemes : List Lexeme) : Prop :=
  ∃ (lead : Gap) (writing : Writing), writing.map Prod.fst = lexemes ∧ writing.Separated ∧
    text = lead.chars ++ writing.chars

end SchemaGuide.Query
