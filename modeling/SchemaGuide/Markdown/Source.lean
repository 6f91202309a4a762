/-! The source text of one paragraph or heading. Between two of its lines stands a gap: it
holds the line ending and what the new line starts with before its own text. Text ignores
all of that but the break, while code and markup keep a part of it. -/
namespace SchemaGuide.Markdown

/-- A blank that does not end a line. -/
def isLineBlank (c : Char) : Bool :=
  c = ' ' || c = '\t' || c = '\x0b' || c = '\x0c'

/-- What stands between the texts of two lines. -/
structure Gap where
  ending : List Char
  /-- What the open quotes and list items take from the front of the new line. -/
  lead : List Char
  /-- The blanks after that. -/
  indent : List Char
  /-- Whether the new line lacks the mark of an open quote or item. -/
  isLazy : Bool
  /-- Whether the new line would end a paragraph. -/
  interrupts : Bool

/-- One position of a source text. -/
inductive Cell where
  | char (c : Char)
  | gap (between : Gap)

/-- A source text. -/
abbrev Source := List Cell

namespace Cell

/-- The character, if it is one. -/
def char? : Cell → Option Char
  | .char c => some c
  | .gap _ => none

/-- Whether the cell is that character. -/
def is (c : Char) (cell : Cell) : Bool :=
  cell.char? == some c

/-- Whether the cell is a character of that class. -/
def isIn (kind : Char → Bool) : Cell → Bool
  | .char c => kind c
  | .gap _ => false

/-- Whether the cell is a blank or a gap. -/
def isSpace : Cell → Bool
  | .char c => isLineBlank c
  | .gap _ => true

/-- The characters as they stand in the document. -/
def written : Cell → List Char
  | .char c => [c]
  | .gap between => between.ending ++ between.lead ++ between.indent

/-- The characters without the marks of quotes and items. -/
def unmarked : Cell → List Char
  | .char c => [c]
  | .gap between => between.ending ++ between.indent

end Cell

namespace Source

/-- A source of one line. -/
def ofChars (chars : List Char) : Source :=
  chars.map .char

/-- The characters before the first gap. -/
def line (source : Source) : List Char :=
  (source.takeWhile (·.char?.isSome)).filterMap (·.char?)

/-- What follows the given characters, if the source starts with them. -/
def strip? : List Char → Source → Option Source
  | [], source => some source
  | c :: chars, .char d :: source => if c = d then strip? chars source else none
  | _ :: _, _ => none

/-- What follows the first place where the given characters stand. -/
def after? (chars : List Char) : Source → Option Source
  | [] => none
  | cell :: source =>
    match strip? chars (cell :: source) with
    | some rest => some rest
    | none => after? chars source

/-- What follows the blanks at the front. -/
def skipBlanks (source : Source) : Source :=
  source.dropWhile (·.isIn isLineBlank)

/-- What follows the blanks and gaps at the front. -/
def skipSpace (source : Source) : Source :=
  source.dropWhile (·.isSpace)

/-- What follows blanks with at most one gap among them. -/
def skipSeparator (source : Source) : Source :=
  match source.skipBlanks with
  | .gap _ :: rest => Source.skipBlanks rest
  | rest => rest

/-- The part of the source in front of a later part of it. -/
def upTo (source rest : Source) : Source :=
  source.take (source.length - rest.length)

end Source
end SchemaGuide.Markdown
