import SchemaGuide.Markdown.Source

/-! A place in a line, counted in columns. A tab goes on to the next multiple of four, and
a place may lie inside of one: the columns of it that are left still count as blanks. -/
namespace SchemaGuide.Markdown

/-- A place in the source text. -/
structure Cursor where
  rest : List Char
  /-- The columns since the last tab stop that was reached through a tab. -/
  column : Nat
  /-- The columns of a tab that are left. -/
  pending : Nat

/-- The ending of a line at the front of a text, and what follows. The end of the text
ends a line too. -/
def lineEnd? : List Char → Option (List Char × List Char)
  | [] => some ([], [])
  | '\n' :: rest => some (['\n'], rest)
  | '\r' :: '\n' :: rest => some (['\r', '\n'], rest)
  | '\r' :: rest => some (['\r'], rest)
  | _ => none

/-- What follows a line of blanks. -/
def blankLine? (chars : List Char) : Option (List Char) :=
  (lineEnd? (chars.dropWhile isLineBlank)).map (·.2)

/-- The characters that a line can hold. -/
def isLineChar (c : Char) : Bool :=
  c != '\n' && c != '\r'

/-- The text of a line, its ending, and what follows. -/
def splitLine (chars : List Char) : List Char × List Char × List Char :=
  match lineEnd? (chars.dropWhile isLineChar) with
  | some (ending, rest) => (chars.takeWhile isLineChar, ending, rest)
  | none => (chars.takeWhile isLineChar, [], [])

/-- A line of code or markup with its ending, and what follows. Such lines end in a line
feed only. -/
def splitVerbatim (chars : List Char) : List Char × List Char :=
  let line := chars.takeWhile (· != '\n')
  match chars.drop line.length with
  | _ :: rest => (line ++ ['\n'], rest)
  | [] => (line, [])

/-- A line of code or markup without a carriage return in front of its last character. -/
def dropReturn : List Char → List Char
  | ['\r', last] => if last.toNat < 128 then [last] else ['\r', last]
  | c :: rest => c :: dropReturn rest
  | [] => []

/-- The part of the text in front of a later part of it. -/
def textUpTo (chars rest : List Char) : List Char :=
  chars.take (chars.length - rest.length)

/-- Goes over up to `wanted` columns of blanks. Returns how many were not there. -/
def takeColumns : Nat → Nat → List Char → Nat × Cursor
  | 0, column, rest => (0, ⟨rest, column, 0⟩)
  | wanted + 1, column, ' ' :: rest => takeColumns wanted (column + 1) rest
  | wanted + 1, column, '\t' :: rest =>
    let width := 4 - column % 4
    if width ≤ wanted + 1 then takeColumns (wanted + 1 - width) 0 rest
    else (0, ⟨rest, 0, width - (wanted + 1)⟩)
  | wanted, column, rest => (wanted, ⟨rest, column, 0⟩)

namespace Cursor

/-- The start of a line. -/
def ofLine (chars : List Char) : Cursor := ⟨chars, 0, 0⟩

/-- Goes over up to `wanted` columns of blanks. Returns how many were not there. -/
def take (wanted : Nat) (cursor : Cursor) : Nat × Cursor :=
  if wanted ≤ cursor.pending then (0, { cursor with pending := cursor.pending - wanted })
  else takeColumns (wanted - cursor.pending) cursor.column cursor.rest

/-- Goes over all blanks. -/
def skipAll (cursor : Cursor) : Cursor :=
  { cursor with rest := cursor.rest.dropWhile fun c => c = ' ' || c = '\t', pending := 0 }

/-- Goes over that number of characters. -/
def advance (count : Nat) (cursor : Cursor) : Cursor :=
  { cursor with rest := cursor.rest.drop count, column := cursor.column + count }

/-- Whether the line ends here. -/
def atEnd (cursor : Cursor) : Bool :=
  (lineEnd? cursor.rest).isSome

end Cursor
end SchemaGuide.Markdown
