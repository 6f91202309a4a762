/-! Documents as trees. A block carries its content in a form of its own: source text as
long as reference definitions are still being collected, and inline content afterwards. -/
namespace SchemaGuide.Markdown

/-- Content inside a line of text. -/
inductive Inline where
  | text (content : List Char)
  | code (content : List Char)
  | emphasis (content : List Inline)
  | strong (content : List Inline)
  | strikethrough (content : List Inline)
  | link (destination title : List Char) (content : List Inline)
  | image (destination title : List Char) (content : List Inline)
  /-- Markup that stands in the source. -/
  | markup (content : List Char)
  | softBreak
  | hardBreak

/-- A block of a document. -/
inductive Block (α : Type) where
  | paragraph (content : α)
  /-- A heading; level `0` is the outermost. -/
  | heading (level : Fin 6) (content : α)
  /-- Code, with the language that its fence names. -/
  | code (language : List Char) (content : List Char)
  /-- Markup that stands in the source. -/
  | html (content : List Char)
  | rule
  | quote (children : List (Block α))
  /-- A list, numbered if it has a start. The paragraphs of a tight list are not set apart. -/
  | list (tight : Bool) (start : Option Nat) (items : List (Block α))
  | item (children : List (Block α))

mutual

/-- The block with its content in another form. -/
def Block.map {α β : Type} (f : α → β) : Block α → Block β
  | .paragraph content => .paragraph (f content)
  | .heading level content => .heading level (f content)
  | .code language content => .code language content
  | .html content => .html content
  | .rule => .rule
  | .quote children => .quote (Block.mapAll f children)
  | .list tight start items => .list tight start (Block.mapAll f items)
  | .item children => .item (Block.mapAll f children)

/-- The blocks with their content in another form. -/
def Block.mapAll {α β : Type} (f : α → β) : List (Block α) → List (Block β)
  | [] => []
  | block :: rest => block.map f :: Block.mapAll f rest

end

end SchemaGuide.Markdown
