import SchemaGuide.Text.Letters

/-! Tokens of query text, as far as brackets and names go. The text is read one character
at a time, and what a character means depends only on the mode that the characters before
it left. Strings, comments, numbers and variables leave no token, so nothing in them is
taken for structure; a text may end inside of any of them. -/
namespace SchemaGuide.Query

/-- A token. -/
inductive Token where
  | name (text : String)
  /-- One of the brackets, the colon, or the sign of a directive. -/
  | punctuator (sign : Char)
  /-- Three dots. -/
  | spread
deriving DecidableEq, Repr

/-- What the characters read so far leave open. -/
inductive Mode where
  /-- Nothing. -/
  | between
  /-- A name, its characters last first. -/
  | name (read : List Char)
  /-- The name of a variable. -/
  | variable
  /-- One or two dots. -/
  | dots (count : Nat)
  | comment
  /-- A quotation mark that may start a string of either kind. -/
  | quote
  /-- A string without characters, or two marks of a block string. -/
  | twoQuotes
  | string
  /-- A string, behind a backslash. -/
  | stringEscape
  /-- A block string, behind that many quotation marks. -/
  | block (quotes : Nat)
  /-- A block string, behind a backslash. -/
  | blockEscape
deriving DecidableEq, Repr

/-- The state of the reader. -/
structure Lexer where
  mode : Mode
  /-- The tokens so far, last first. -/
  tokens : List Token
deriving DecidableEq, Repr

/-- Whether a name can start with the character. -/
def isNameStart (c : Char) : Bool :=
  Text.isLetter c || c = '_'

/-- Whether a name can go on with the character. -/
def isNamePart (c : Char) : Bool :=
  Text.isLetterOrNumber c || c = '_'

/-- Whether the character is a token of its own. -/
def isPunctuator (c : Char) : Bool :=
  ['{', '}', '(', ')', '[', ']', ':', '@'].contains c

namespace Lexer

/-- The state before the first character. -/
def initial : Lexer := ⟨.between, []⟩

/-- The state after a character that starts something. -/
def start (tokens : List Token) (c : Char) : Lexer :=
  if c = '#' then ⟨.comment, tokens⟩
  else if c = '\x22' then ⟨.quote, tokens⟩
  else if c = '.' then ⟨.dots 1, tokens⟩
  else if c = '$' then ⟨.variable, tokens⟩
  else if isPunctuator c then ⟨.between, .punctuator c :: tokens⟩
  else if isNameStart c then ⟨.name [c], tokens⟩
  else ⟨.between, tokens⟩

/-- The token of a name whose characters stand last first. -/
def nameToken (read : List Char) : Token :=
  .name (String.ofList read.reverse)

/-- The mode inside a string after a character. -/
def insideString (c : Char) : Mode :=
  if c = '\x22' || c = '\n' then .between
  else if c = '\\' then .stringEscape
  else .string

/-- The mode inside a block string, behind that many quotation marks, after a character. -/
def insideBlock (quotes : Nat) (c : Char) : Mode :=
  if c = '\x22' then if quotes = 2 then .between else .block (quotes + 1)
  else if c = '\\' then .blockEscape
  else .block 0

/-- The state after one more character. -/
def step (lexer : Lexer) (c : Char) : Lexer :=
  match lexer.mode with
  | .between => start lexer.tokens c
  | .name read =>
    if isNamePart c then ⟨.name (c :: read), lexer.tokens⟩
    else start (nameToken read :: lexer.tokens) c
  | .variable => if isNamePart c then lexer else start lexer.tokens c
  | .dots count =>
    if c ≠ '.' then start lexer.tokens c
    else if count = 2 then ⟨.between, .spread :: lexer.tokens⟩
    else ⟨.dots (count + 1), lexer.tokens⟩
  | .comment => if c = '\n' then ⟨.between, lexer.tokens⟩ else lexer
  | .quote => ⟨if c = '\x22' then .twoQuotes else insideString c, lexer.tokens⟩
  | .twoQuotes => if c = '\x22' then ⟨.block 0, lexer.tokens⟩ else start lexer.tokens c
  | .string => ⟨insideString c, lexer.tokens⟩
  | .stringEscape => ⟨.string, lexer.tokens⟩
  | .block quotes => ⟨insideBlock quotes c, lexer.tokens⟩
  | .blockEscape => ⟨.block 0, lexer.tokens⟩

/-- All tokens, if nothing more comes. -/
def finish (lexer : Lexer) : List Token :=
  match lexer.mode with
  | .name read => (nameToken read :: lexer.tokens).reverse
  | _ => lexer.tokens.reverse

end Lexer

/-- The tokens of a text. -/
def tokens (chars : List Char) : List Token :=
  (chars.foldl Lexer.step .initial).finish

end SchemaGuide.Query
