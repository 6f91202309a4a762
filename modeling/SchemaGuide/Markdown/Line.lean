import SchemaGuide.Markdown.Cursor
import SchemaGuide.Markdown.RawHtml
import SchemaGuide.Text.Punctuation
import SchemaGuide.Text.Substring

/-! What the front of a line announces: a rule, a heading, a fence, a list item, or a block
of markup. Each recogniser looks at the line from its first character that is no blank. -/
namespace SchemaGuide.Markdown

/-- What follows a rule: three stars, dashes or underscores alone on a line. -/
def rule? (chars : List Char) : Option (List Char) :=
  let (text, _, rest) := splitLine chars
  match text with
  | [] => none
  | c :: _ =>
    if ['*', '-', '_'].contains c && text.all (fun d => d = c || d = ' ' || d = '\t') &&
        3 ≤ text.count c then some rest
    else none

/-- The level of a heading that number signs start. -/
def headingLevel? (chars : List Char) : Option (Fin 6) :=
  let level := (chars.takeWhile (· = '#')).length
  let ended := match chars.drop level with
    | [] => true
    | c :: _ => isLineBlank c || !isLineChar c
  if h : 0 < level ∧ level ≤ 6 then
    if ended then some ⟨level - 1, by omega⟩ else none
  else none

/-- The text of a heading after its number signs: number signs at its end close it if a
space comes before them. -/
def headingText (chars : List Char) : List Char :=
  let dropBack (unwanted : Char) (text : List Char) : List Char :=
    (text.reverse.dropWhile (· = unwanted)).reverse
  let text := dropBack ' ' (chars.dropWhile isLineBlank)
  let unmarked := dropBack '#' text
  if unmarked.isEmpty then []
  else if unmarked.getLast? = some ' ' then dropBack ' ' unmarked
  else text

/-- The level that a line of equals signs or dashes gives to the text above it, and what
follows. -/
def underline? (chars : List Char) : Option (Fin 6 × List Char) :=
  match chars with
  | [] => none
  | c :: _ =>
    if c = '=' || c = '-' then
      (blankLine? (chars.dropWhile (· = c))).map fun rest => (if c = '=' then 0 else 1, rest)
    else none

/-- The mark and length of a fence in front of code. -/
def fence? (chars : List Char) : Option (Char × Nat) :=
  match chars with
  | [] => none
  | c :: _ =>
    let length := (chars.takeWhile (· = c)).length
    if (c = '\x60' || c = '~') && 3 ≤ length then
      if c = '\x60' && (splitVerbatim (chars.drop length)).1.contains '\x60' then none
      else some (c, length)
    else none

/-- What follows a fence that closes code. The end of the text closes it too. -/
def closingFence? (mark : Char) (length : Nat) (chars : List Char) : Option (List Char) :=
  let rest := chars.dropWhile (· = mark)
  if chars.isEmpty then some []
  else if length ≤ chars.length - rest.length then
    (lineEnd? (rest.dropWhile (· = ' '))).map (·.2)
  else none

/-- The mark of a list item. -/
structure ItemMark where
  /-- The bullet, or the character behind the number. -/
  sign : Char
  number : Option Nat
  /-- The number of characters of the mark. -/
  width : Nat

/-- Whether the character is a bullet. -/
def isBullet (c : Char) : Bool :=
  c = '-' || c = '+' || c = '*'

/-- The mark at the front of a line, whatever follows it. -/
def itemMark? (chars : List Char) : Option ItemMark :=
  let digits := chars.takeWhile Char.isDigit
  match chars.drop digits.length with
  | [] => none
  | c :: _ =>
    if digits.isEmpty then if isBullet c then some ⟨c, none, 1⟩ else none
    else if digits.length ≤ 9 && (c = '.' || c = ')') then
      some ⟨c, some (digits.foldl (fun n d => n * 10 + (d.toNat - '0'.toNat)) 0), digits.length + 1⟩
    else none

/-- The mark of a list item, the columns that its content is indented by, and the place
where that starts. `outer` columns come before the mark. Content that starts with code
counts as if it started one column behind the mark. -/
def listItem? (outer : Nat) (cursor : Cursor) : Option (ItemMark × Nat × Cursor) := do
  let mark ← itemMark? cursor.rest
  if mark.number.isNone && (rule? cursor.rest).isSome then none
  else
    let behind := cursor.advance mark.width
    let (missing, content) := behind.take 1
    if missing = 0 || behind.atEnd then
      let indent := outer + mark.width + 1
      if (blankLine? content.rest).isSome then some (mark, indent, content)
      else
        let (missing, deeper) := content.take 4
        if missing = 0 then some (mark, indent, content)
        else some (mark, indent + (4 - missing), deeper)
    else none

/-- Whether a list item may end a paragraph: in the paragraph's own container it must be
first in its list and have content, on its line or the next. -/
def itemInterrupts (chars : List Char) (sameContainer : Bool) : Bool :=
  match itemMark? chars with
  | none => false
  | some mark =>
    let rest := chars.drop mark.width
    let spaced := match rest with
      | [] => true
      | c :: _ => c = ' ' || c = '\t' || !isLineChar c
    let isEmpty := ((blankLine? rest).bind blankLine?).isSome
    spaced && (!sameContainer || ((mark.number.getD 1) = 1 && !isEmpty))

/-! ## Blocks of markup -/

/-- The elements whose content is kept up to their closing tag. -/
def verbatimElements : List (List Char) :=
  ["pre", "style", "script", "textarea"].map String.toList

/-- The elements that start a block of markup wherever their tag stands. -/
def blockElements : List (List Char) :=
  ["address", "article", "aside", "base", "basefont", "blockquote", "body", "caption", "center",
    "col", "colgroup", "dd", "details", "dialog", "dir", "div", "dl", "dt", "fieldset",
    "figcaption", "figure", "footer", "form", "frame", "frameset", "h1", "h2", "h3", "h4", "h5",
    "h6", "head", "header", "hr", "html", "iframe", "legend", "li", "link", "main", "menu",
    "menuitem", "nav", "noframes", "ol", "optgroup", "option", "p", "param", "search", "section",
    "summary", "table", "tbody", "td", "tfoot", "th", "thead", "title", "tr", "track", "ul"].map
    String.toList

/-- What ends a block of markup that goes on through blank lines, after its opening
bracket. -/
def markupEnd? (chars : List Char) : Option (List Char) :=
  let named := verbatimElements.find? fun name =>
    (chars.take name.length).map Char.toLower == name &&
      match chars.drop name.length with
      | [] => true
      | c :: _ => isLineBlank c || !isLineChar c || c = '>'
  match named with
  | some name => some (['<', '/'] ++ name ++ ['>'])
  | none =>
    if Text.startsWith ['!', '-', '-'] chars then some ['-', '-', '>']
    else if Text.startsWith ['?'] chars then some ['?', '>']
    else if Text.startsWith "![CDATA[".toList chars then some [']', ']', '>']
    else match chars with
      | '!' :: c :: _ => if c.isAlpha then some ['>'] else none
      | _ => none

/-- Whether the tag of a block element stands here, after its opening bracket. -/
def startsBlockElement (chars : List Char) : Bool :=
  let chars := match chars with
    | '/' :: rest => rest
    | chars => chars
  let name := chars.takeWhile Char.isAlphanum
  blockElements.contains (name.map Char.toLower) &&
    match chars.drop name.length with
    | [] => true
    | '/' :: '>' :: _ => true
    | c :: _ => c = ' ' || c = '\t' || !isLineChar c || c = '>'

/-- Whether a tag stands alone on the line, after its opening bracket. -/
def isLoneTag (chars : List Char) : Bool :=
  match RawHtml.tag? (Source.ofChars (splitLine chars).1) with
  | some rest => rest.skipBlanks.isEmpty
  | none => false

/-- Whether the line ends a paragraph above it that could go on. -/
def interruptsParagraph (chars : List Char) (sameContainer : Bool) : Bool :=
  (lineEnd? chars).isSome || (rule? chars).isSome || (headingLevel? chars).isSome ||
    (fence? chars).isSome || itemInterrupts chars sameContainer ||
    match chars with
    | '>' :: _ => true
    | '<' :: rest => (markupEnd? rest).isSome || startsBlockElement rest
    | _ => false

end SchemaGuide.Markdown
