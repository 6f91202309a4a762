import SchemaGuide.Html.Escape

/-! Fragments of markup as trees. An element closes where its children end and an
attribute value ends at its own quotation mark, because both are written in one place.
Text is escaped when it is written; only `markup` nodes, which hold what a text renderer
returned, are written as they are. -/
namespace SchemaGuide.Html

/-- The elements that the library writes itself. -/
inductive Tag where
  | div
  | span
  | anchor
  | code
  | strong
deriving DecidableEq, Repr

/-- The name of the element in markup. -/
def Tag.name : Tag → List Char
  | .div => ['d', 'i', 'v']
  | .span => ['s', 'p', 'a', 'n']
  | .anchor => ['a']
  | .code => ['c', 'o', 'd', 'e']
  | .strong => ['s', 't', 'r', 'o', 'n', 'g']

/-- The attributes that the library writes. -/
inductive AttributeName where
  /-- The style class of the element. -/
  | styleClass
  /-- The type that a link opens. -/
  | dataType
  /-- The field, on the type of `dataType`, that a link opens. -/
  | dataField
deriving DecidableEq, Repr

/-- The name of the attribute in markup. -/
def AttributeName.chars : AttributeName → List Char
  | .styleClass => ['c', 'l', 'a', 's', 's']
  | .dataType => ['d', 'a', 't', 'a', '-', 't', 'y', 'p', 'e']
  | .dataField => ['d', 'a', 't', 'a', '-', 'f', 'i', 'e', 'l', 'd']

/-- A node of a fragment. -/
inductive Node where
  /-- Text, escaped when it is written. -/
  | text (content : String)
  /-- The output of a text renderer, written as it is. -/
  | markup (rendered : String)
  | element (tag : Tag) (attributes : List (AttributeName × String)) (children : List Node)

/-- One attribute with the blank in front of it. -/
def writeAttribute (pair : AttributeName × String) : List Char :=
  ' ' :: pair.1.chars ++ ['=', '\x22'] ++ escapeChars pair.2.toList ++ ['\x22']

/-- The opening tag with its attributes. -/
def writeOpening (tag : Tag) (attributes : List (AttributeName × String)) : List Char :=
  '<' :: tag.name ++ attributes.flatMap writeAttribute ++ ['>']

/-- The closing tag. -/
def writeClosing (tag : Tag) : List Char :=
  ['<', '/'] ++ tag.name ++ ['>']

mutual

/-- The characters of a node. -/
def Node.write : Node → List Char
  | .text content => escapeChars content.toList
  | .markup rendered => rendered.toList
  | .element tag attributes children =>
    writeOpening tag attributes ++ writeNodes children ++ writeClosing tag

/-- The characters of a fragment: those of its nodes one after another. -/
def writeNodes : List Node → List Char
  | [] => []
  | node :: rest => node.write ++ writeNodes rest

end

/-- A fragment as text. -/
def render (fragment : List Node) : String :=
  String.ofList (writeNodes fragment)

/-- A block of the given style class. -/
def div (style : String) (children : List Node) : Node :=
  .element .div [(.styleClass, style)] children

/-- A run of text of the given style class. -/
def span (style : String) (children : List Node) : Node :=
  .element .span [(.styleClass, style)] children

/-- The fragments one after another, with `separator` between each two. -/
def intersperse (separator : Node) : List (List Node) → List Node
  | [] => []
  | [last] => last
  | first :: rest => first ++ separator :: intersperse separator rest

end SchemaGuide.Html
