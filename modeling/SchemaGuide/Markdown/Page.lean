import SchemaGuide.Markdown.Tree

/-! Documents as markup. A document becomes a sequence of parts: texts, line ends, tags from a
fixed set with their attributes, and markup that stands in the source. Only the writing of a
part turns it into characters. A page shows the markup of its source as text, so whatever a
source says, angle brackets come from tags alone. Line ends and escapes are those of the writer of
HTML in `pulldown-cmark` 0.13. -/
namespace SchemaGuide.Markdown

/-- The elements of a page that have content. -/
inductive Tag where
  | paragraph
  | heading (level : Fin 6)
  | quote
  | preformatted
  | code
  | bulletList
  | numberedList
  | item
  | emphasis
  | strong
  | strikethrough
  | anchor

/-- The elements of a page that have no content. -/
inductive VoidTag where
  | rule
  | lineBreak
  | image

/-- The attributes of a page's elements. -/
inductive Attribute where
  | destination (address : List Char)
  | source (address : List Char)
  | alternative (text : List Char)
  | title (text : List Char)
  | start (number : Nat)
  /-- The class that names the language of code. -/
  | language (name : List Char)

/-- A part of a page. -/
inductive Part where
  | text (content : List Char)
  /-- Markup that stands in the source, written as it is. -/
  | markup (content : List Char)
  | lineEnd
  | opening (tag : Tag) (attributes : List Attribute)
  | closing (tag : Tag)
  | void (tag : VoidTag) (attributes : List Attribute)

/-! ## Characters of parts -/

/-- The name of an element. -/
def Tag.name : Tag → List Char
  | .paragraph => ['p']
  | .heading level => ['h', Char.ofNat ('1'.toNat + level.val)]
  | .quote => "blockquote".toList
  | .preformatted => ['p', 'r', 'e']
  | .code => ['c', 'o', 'd', 'e']
  | .bulletList => ['u', 'l']
  | .numberedList => ['o', 'l']
  | .item => ['l', 'i']
  | .emphasis => ['e', 'm']
  | .strong => "strong".toList
  | .strikethrough => ['d', 'e', 'l']
  | .anchor => ['a']

/-- The name of an element without content. -/
def VoidTag.name : VoidTag → List Char
  | .rule => ['h', 'r']
  | .lineBreak => ['b', 'r']
  | .image => ['i', 'm', 'g']

/-- A character of a text. -/
def writeTextChar (c : Char) : List Char :=
  if c = '&' then "&amp;".toList
  else if c = '<' then "&lt;".toList
  else if c = '>' then "&gt;".toList
  else [c]

/-- A character of a quoted value. -/
def writeValueChar (c : Char) : List Char :=
  if c = '\x22' then "&quot;".toList else writeTextChar c

/-- Two hexadecimal digits for a byte. -/
def percentByte (byte : UInt8) : List Char :=
  let digit (n : Nat) : Char :=
    if n < 10 then Char.ofNat ('0'.toNat + n) else Char.ofNat ('A'.toNat + (n - 10))
  ['%', digit (byte.toNat / 16), digit (byte.toNat % 16)]

/-- Whether a character may stand in an address as it is. -/
def isAddressChar (c : Char) : Bool :=
  c.isAlphanum || ['!', '#', '$', '%', '(', ')', '*', '+', ',', '-', '.', '/', ':', ';', '=', '?',
    '@', '_', '~'].contains c

/-- A character of an address. -/
def writeAddressChar (c : Char) : List Char :=
  if c = '&' then "&amp;".toList
  else if c = '\x27' then "&#x27;".toList
  else if isAddressChar c then [c]
  else (String.singleton c).toUTF8.toList.flatMap percentByte

/-- An attribute with the blank in front of it. -/
def Attribute.write : Attribute → List Char
  | .destination address =>
    " href=\"".toList ++ address.flatMap writeAddressChar ++ ['\x22']
  | .source address => " src=\"".toList ++ address.flatMap writeAddressChar ++ ['\x22']
  | .alternative text => " alt=\"".toList ++ text.flatMap writeValueChar ++ ['\x22']
  | .title text => " title=\"".toList ++ text.flatMap writeValueChar ++ ['\x22']
  | .start number => " start=\"".toList ++ (toString number).toList ++ ['\x22']
  | .language name => " class=\"language-".toList ++ name.flatMap writeValueChar ++ ['\x22']

/-- The characters of a part. -/
def Part.write : Part → List Char
  | .text content => content.flatMap writeTextChar
  | .markup content => content
  | .lineEnd => ['\n']
  | .opening tag attributes => '<' :: tag.name ++ attributes.flatMap (·.write) ++ ['>']
  | .closing tag => ['<', '/'] ++ tag.name ++ ['>']
  | .void tag attributes => '<' :: tag.name ++ attributes.flatMap (·.write) ++ [' ', '/', '>']

/-! ## Parts of inline content -/

/-- The attribute of a title, if there is one. -/
def titleAttribute (title : List Char) : List Attribute :=
  if title.isEmpty then [] else [.title title]

mutual

/-- The text of inline content without its markup, as the alternative to an image. -/
def Inline.plain : Inline → List Char
  | .text content => content
  | .code content => content
  | .emphasis content => plainAll content
  | .strong content => plainAll content
  | .strikethrough content => plainAll content
  | .link _ _ content => plainAll content
  | .image _ _ content => plainAll content
  | .markup content => content
  | .softBreak => [' ']
  | .hardBreak => [' ']

/-- The text of several contents. -/
def plainAll : List Inline → List Char
  | [] => []
  | content :: rest => content.plain ++ plainAll rest

end

mutual

/-- The parts of inline content. -/
def Inline.parts : Inline → List Part
  | .text content => [.text content]
  | .code content => [.opening .code [], .text content, .closing .code]
  | .emphasis content => .opening .emphasis [] :: inlineParts content ++ [.closing .emphasis]
  | .strong content => .opening .strong [] :: inlineParts content ++ [.closing .strong]
  | .strikethrough content =>
    .opening .strikethrough [] :: inlineParts content ++ [.closing .strikethrough]
  | .link destination title content =>
    .opening .anchor (.destination destination :: titleAttribute title) ::
      inlineParts content ++ [.closing .anchor]
  | .image destination title content =>
    [.void .image (.source destination :: .alternative (plainAll content) :: titleAttribute title)]
  | .markup content => [.markup content]
  | .softBreak => [.lineEnd]
  | .hardBreak => [.void .lineBreak [], .lineEnd]

/-- The parts of several contents. -/
def inlineParts : List Inline → List Part
  | [] => []
  | content :: rest => content.parts ++ inlineParts rest

end

/-! ## Parts of blocks -/

/-- Whether the parts, last first, end with a line. -/
def endsLine : List Part → Bool
  | [] => true
  | .lineEnd :: _ => true
  | .text content :: earlier | .markup content :: earlier =>
    match content.getLast? with
    | some c => c = '\n'
    | none => endsLine earlier
  | _ => false

/-- The parts, last first, with a line end if they do not end with a line. -/
def freshLine (written : List Part) : List Part :=
  if endsLine written then written else .lineEnd :: written

mutual

/-- The parts of a block after those that are written; both stand last first. In a tight
list a paragraph is its content alone. -/
def Block.parts (tight : Bool) (written : List Part) : Block (List Inline) → List Part
  | .paragraph content =>
    if tight then (inlineParts content).reverse ++ written
    else .lineEnd :: .closing .paragraph ::
      ((inlineParts content).reverse ++ .opening .paragraph [] :: freshLine written)
  | .heading level content =>
    .lineEnd :: .closing (.heading level) ::
      ((inlineParts content).reverse ++ .opening (.heading level) [] :: freshLine written)
  | .code language content =>
    let attributes := if language.isEmpty then [] else [Attribute.language language]
    .lineEnd :: .closing .preformatted :: .closing .code :: .text content ::
      .opening .code attributes :: .opening .preformatted [] :: freshLine written
  | .html content => .markup content :: written
  | .rule => .lineEnd :: .void .rule [] :: freshLine written
  | .quote children =>
    .lineEnd :: .closing .quote ::
      blockParts false (.lineEnd :: .opening .quote [] :: freshLine written) children
  | .list tight start items =>
    let tag := if start.isSome then Tag.numberedList else .bulletList
    let attributes := match start with
      | some number => if number = 1 then [] else [Attribute.start number]
      | none => []
    .lineEnd :: .closing tag ::
      blockParts tight (.lineEnd :: .opening tag attributes :: freshLine written) items
  | .item children =>
    .lineEnd :: .closing .item ::
      blockParts tight (.opening .item [] :: freshLine written) children

/-- The parts of several blocks after those that are written. -/
def blockParts (tight : Bool) (written : List Part) : List (Block (List Inline)) → List Part
  | [] => written
  | block :: rest => blockParts tight (block.parts tight written) rest

end

/-- The parts of a document. -/
def documentParts (blocks : List (Block (List Inline))) : List Part :=
  (blockParts false [] blocks).reverse

/-- The part with markup of the source as text. -/
def Part.asText : Part → Part
  | .markup content => .text content
  | part => part

/-- The characters of a document, in which markup of the source is text. -/
def writeDocument (blocks : List (Block (List Inline))) : List Char :=
  ((documentParts blocks).map Part.asText).flatMap (·.write)

end SchemaGuide.Markdown
