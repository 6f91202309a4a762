import SchemaGuide.Text.Hex
import SchemaGuide.Toml.Basic

/-! Strings, keys and numbers of a document. Each reader takes what it reads from the front
of the characters and gives it back with the characters that follow. -/
namespace SchemaGuide.Toml

/-- Blanks within a line. -/
def isBlank (c : Char) : Bool :=
  c = ' ' || c = '\t'

/-- Whether the character may stand in a comment or in a string: no control character but the
tab. -/
def isPrintable (c : Char) : Bool :=
  c = '\t' || (0x20 ≤ c.toNat && c.toNat ≠ 0x7F)

/-- The characters behind the blanks. -/
def skipBlanks (chars : List Char) : List Char :=
  chars.dropWhile isBlank

/-- The characters behind blanks, ends of lines and comments. -/
def skipGap (comment : Bool) : List Char → List Char
  | [] => []
  | '\r' :: '\n' :: rest => skipGap false rest
  | c :: rest =>
    if c = '\n' then skipGap false rest
    else if comment then
      if isPrintable c then skipGap true rest else c :: rest
    else if c = '#' then skipGap true rest
    else if isBlank c then skipGap false rest
    else c :: rest

/-- The characters of the next line. Only blanks and a comment may stand before it. -/
def endOfLine? (chars : List Char) : Option (List Char) :=
  let chars := skipBlanks chars
  let chars := if chars.head? = some '#' then chars.dropWhile isPrintable else chars
  match chars with
  | [] => some []
  | '\n' :: rest => some rest
  | '\r' :: '\n' :: rest => some rest
  | _ => none

/-! ## Strings -/

/-- What a string is in the middle of. -/
inductive StringMode where
  | text
  /-- An escape, behind its backslash. -/
  | escape
  /-- The number of a character, with so many digits to come. -/
  | digits (left value : Nat)
  /-- The blanks behind a backslash at the end of a line, before that end and after it. -/
  | fold (ended : Bool)

/-- The character of an escape of one letter. -/
def shortEscape? (c : Char) : Option Char :=
  if c = '\x22' || c = '\\' then some c
  else if c = 'b' then some '\x08'
  else if c = 'e' then some '\x1b'
  else if c = 'f' then some '\x0c'
  else if c = 'n' then some '\n'
  else if c = 'r' then some '\r'
  else if c = 't' then some '\t'
  else none

/-- How many digits an escape of that letter has. -/
def escapeDigits? (c : Char) : Option Nat :=
  if c = 'x' then some 2
  else if c = 'u' then some 4
  else if c = 'U' then some 8
  else none

/-- The character of a number. -/
def charOfCode? (code : Nat) : Option Char :=
  if code.isValidChar then some (Char.ofNat code) else none

/-- A character in front of a string that was read. -/
def cons (c : Char) (string : List Char × List Char) : List Char × List Char :=
  (c :: string.1, string.2)

/-- A string with escapes, up to its closing marks. One of several lines is closed by three
marks, and up to two more may stand before these. -/
def escaped? (lines : Bool) : StringMode → List Char → Option (List Char × List Char)
  | _, [] => none
  | .escape, c :: rest =>
    match shortEscape? c, escapeDigits? c with
    | some plain, _ => (escaped? lines .text rest).map (cons plain)
    | none, some count => escaped? lines (.digits count 0) rest
    | none, none =>
      if lines && c = '\n' then escaped? lines (.fold true) rest
      else if lines && (isBlank c || c = '\r' && rest.head? = some '\n') then
        escaped? lines (.fold false) rest
      else none
  | .digits left value, c :: rest => do
    let value := value * 16 + (← Text.hexDigit? c)
    if left = 1 then
      let plain ← charOfCode? value
      (escaped? lines .text rest).map (cons plain)
    else escaped? lines (.digits (left - 1) value) rest
  | .fold false, c :: rest =>
    if c = '\n' then escaped? lines (.fold true) rest
    else if isBlank c || c = '\r' && rest.head? = some '\n' then escaped? lines (.fold false) rest
    else none
  | mode, c :: rest =>
    let folding := match mode with
      | .fold true => true
      | _ => false
    if folding && (isBlank c || c = '\n' || c = '\r' && rest.head? = some '\n') then
      escaped? lines (.fold true) rest
    else if c = '\\' then escaped? lines .escape rest
    else if c = '\x22' then
      if !lines then some ([], rest)
      else match rest with
        | '\x22' :: '\x22' :: '\x22' :: '\x22' :: after => some (['\x22', '\x22'], after)
        | '\x22' :: '\x22' :: '\x22' :: after => some (['\x22'], after)
        | '\x22' :: '\x22' :: after => some ([], after)
        | _ => (escaped? lines .text rest).map (cons c)
    else if isPrintable c || lines && (c = '\n' || c = '\r' && rest.head? = some '\n') then
      (escaped? lines .text rest).map (cons c)
    else none

/-- A string without escapes, up to its closing marks. -/
def verbatim? (lines : Bool) : List Char → Option (List Char × List Char)
  | [] => none
  | c :: rest =>
    if c = '\x27' then
      if !lines then some ([], rest)
      else match rest with
        | '\x27' :: '\x27' :: '\x27' :: '\x27' :: after => some (['\x27', '\x27'], after)
        | '\x27' :: '\x27' :: '\x27' :: after => some (['\x27'], after)
        | '\x27' :: '\x27' :: after => some ([], after)
        | _ => (verbatim? lines rest).map (cons c)
    else if isPrintable c || lines && (c = '\n' || c = '\r' && rest.head? = some '\n') then
      (verbatim? lines rest).map (cons c)
    else none

/-- The characters behind the end of a line, if one stands at the front. -/
def dropLineEnd : List Char → List Char
  | '\n' :: rest => rest
  | '\r' :: '\n' :: rest => rest
  | chars => chars

/-- A string of any of the four kinds. -/
def string? : List Char → Option (List Char × List Char)
  | '\x22' :: '\x22' :: '\x22' :: rest => escaped? true .text (dropLineEnd rest)
  | '\x22' :: rest => escaped? false .text rest
  | '\x27' :: '\x27' :: '\x27' :: rest => verbatim? true (dropLineEnd rest)
  | '\x27' :: rest => verbatim? false rest
  | _ => none

/-! ## Keys -/

/-- Whether the character may stand in a key without quotation marks. -/
def isKeyChar (c : Char) : Bool :=
  c.isAlphanum || c = '_' || c = '-'

/-- A key without dots. -/
def simpleKey? : List Char → Option (List Char × List Char)
  | '\x22' :: rest => escaped? false .text rest
  | '\x27' :: rest => verbatim? false rest
  | chars =>
    match chars.takeWhile isKeyChar with
    | [] => none
    | name => some (name, chars.dropWhile isKeyChar)

/-- A key with its dots, of at most so many parts. -/
def keyPathWithin? : Nat → List Char → Option (KeyPath × List Char)
  | 0, _ => none
  | parts + 1, chars => do
    let (name, rest) ← simpleKey? chars
    match skipBlanks rest with
    | '.' :: rest =>
      let (path, rest) ← keyPathWithin? parts (skipBlanks rest)
      some (String.ofList name :: path, rest)
    | rest => some ([String.ofList name], rest)

/-- A key with its dots. No key has more parts than there are characters. -/
def keyPath? (chars : List Char) : Option (KeyPath × List Char) :=
  keyPathWithin? chars.length chars

/-! ## Numbers -/

/-- The number of digits that may be divided by single underscores, after a first digit. -/
def moreDigits? (base value : Nat) : List Char → Option Nat
  | [] => some value
  | '_' :: c :: rest => do moreDigits? base (value * base + (← Text.digit? base c)) rest
  | c :: rest => do moreDigits? base (value * base + (← Text.digit? base c)) rest

/-- The number of digits that may be divided by single underscores. -/
def digits? (base : Nat) : List Char → Option Nat
  | [] => none
  | c :: rest => do moreDigits? base (← Text.digit? base c) rest

/-- The number of decimal digits, with no zero before another digit. -/
def decimal? : List Char → Option Nat
  | '0' :: _ :: _ => none
  | chars => digits? 10 chars

/-- An integer, which has no sign in a base other than ten. -/
def integer? : List Char → Option Int
  | '0' :: 'x' :: rest => (digits? 16 rest).map Int.ofNat
  | '0' :: 'o' :: rest => (digits? 8 rest).map Int.ofNat
  | '0' :: 'b' :: rest => (digits? 2 rest).map Int.ofNat
  | '+' :: rest => (decimal? rest).map Int.ofNat
  | '-' :: rest => (decimal? rest).map fun value => -Int.ofNat value
  | chars => (decimal? chars).map Int.ofNat

/-- Whether the character may stand in a value without marks. -/
def isWordChar (c : Char) : Bool :=
  isKeyChar c || c = '+' || c = '.'

/-- A truth value or an integer. Floats and moments are not read: no setting has such a
value. -/
def word? (word : List Char) : Option Value :=
  if word = "true".toList then some (.boolean true)
  else if word = "false".toList then some (.boolean false)
  else (integer? word).map .integer

end SchemaGuide.Toml
