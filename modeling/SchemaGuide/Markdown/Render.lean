import SchemaGuide.Markdown.Document
import SchemaGuide.Markdown.Inline
import SchemaGuide.Markdown.Page

/-! Descriptions as markup. Schema descriptions are Markdown from sources that need not be
trusted; markup that stands in one is shown as text. The language is that of `pulldown-cmark` 0.13
with strikethrough as the only option: CommonMark without tables, footnotes, task lists, heading
attributes or smart punctuation. Its events for blocks of markup and for markup within a line are
taken for text, and everything is written as its writer of HTML writes it. -/
namespace SchemaGuide

/-- Turns free text into markup. -/
abbrev TextRenderer := String → String

namespace Markdown

/-- The blocks of a text with their inline content. -/
def parse (chars : List Char) : List (Block (List Inline)) :=
  let (blocks, definitions) := readBlocks chars
  Block.mapAll (inlines definitions) blocks

/-- The markup of a Markdown text. -/
def render : TextRenderer := fun text =>
  String.ofList (writeDocument (parse text.toList))

end Markdown

/-- Leaves a text as it is, for readers that render Markdown themselves. -/
def verbatim : TextRenderer := id

end SchemaGuide
