import SchemaGuide.Markdown.Line
import SchemaGuide.Markdown.Link
import SchemaGuide.Markdown.Tree

/-! The blocks of a document. The reader keeps the quotes, lists and items that are open
and takes one block at a time: the open containers take the front of a line, those that
do not are closed, and what the rest of the line announces is read to its end. Inline
content stays source text here, since a link may refer to a definition further down. Where
CommonMark leaves open what a reader does, it is done as `pulldown-cmark` 0.13 does it. -/
namespace SchemaGuide.Markdown

/-- A container of blocks. -/
inductive Container where
  | quote
  /-- A list; `tight` as long as no blank line separates its parts. -/
  | list (tight : Bool) (sign : Char) (start : Option Nat)
  /-- An item whose content is indented by that many columns. -/
  | item (indent : Nat)

/-- The place behind what the container takes of a line, if it goes on there. -/
def Container.enter? (cursor : Cursor) : Container → Option Cursor
  | .list .. => some cursor
  | .quote =>
    let (_, place) := cursor.take 3
    match place.rest with
    | '>' :: _ => some ((place.advance 1).take 1).2
    | _ => none
  | .item indent =>
    let (missing, place) := cursor.take indent
    if missing = 0 || place.atEnd then some place else none

/-- How many of the containers, outermost first, go on in a line, and the place behind
what they take of it. -/
def enterAll (cursor : Cursor) : List Container → Nat × Cursor
  | [] => (0, cursor)
  | container :: inner =>
    match container.enter? cursor with
    | none => (0, cursor)
    | some place =>
      let (count, last) := enterAll place inner
      (count + 1, last)

/-- Whether all containers go on in a line, and the place behind what they take of it. -/
def enter (containers : List Container) (chars : List Char) : Bool × Cursor :=
  let (count, place) := enterAll (.ofLine chars) containers
  (count = containers.length, place)

/-! ## Blocks without children -/

/-- Blanks at the front of a line of code or markup, and the line. -/
def verbatimLine (blanks : Nat) (line : List Char) : List Char :=
  List.replicate blanks ' ' ++ dropReturn line

/-- The lines of indented code, each with whether it is blank, and what follows. The lines
stand last first, after those in `above`. -/
def indentedLines (containers : List Container) :
    Nat → Cursor → List (Bool × List Char) → List (Bool × List Char) × List Char
  | 0, place, above => (above, place.rest)
  | steps + 1, place, above =>
    let (line, rest) := splitVerbatim place.rest
    let lines := ((blankLine? place.rest).isSome, verbatimLine place.pending line) :: above
    let (all, next) := enter containers rest
    let (missing, next) := next.take 4
    if !all || !(missing = 0 || next.atEnd) || next.rest.isEmpty then (lines, rest)
    else indentedLines containers steps next lines

/-- The lines of code after a fence, and what follows the code. -/
def fencedLines (containers : List Container) (indent : Nat) (mark : Char) (length : Nat) :
    Nat → List Char → List Char × List Char
  | 0, chars => ([], chars)
  | steps + 1, chars =>
    let (all, place) := enter containers chars
    if !all || chars.isEmpty then ([], chars)
    else
      let (_, place) := place.take indent
      let (missing, deeper) := place.take (4 - indent)
      match if missing = 0 then none else closingFence? mark length deeper.rest with
      | some rest => ([], rest)
      | none =>
        let (line, rest) := splitVerbatim place.rest
        let (lines, after) := fencedLines containers indent mark length steps rest
        (verbatimLine place.pending line ++ lines, after)

/-- The lines of a block of markup, and what follows. `ending` ends the block with the line
that holds it; without one a blank line ends it. -/
def markupLines (containers : List Container) (ending : Option (List Char)) :
    Nat → Nat → List Char → List Char × List Char
  | 0, _, chars => ([], chars)
  | steps + 1, blanks, chars =>
    let (line, rest) := splitVerbatim chars
    let (all, place) := enter containers rest
    let ended := match ending with
      | some text => Text.occursIn text line
      | none => (blankLine? place.rest).isSome
    let written := verbatimLine blanks line
    if !all || ended || place.rest.isEmpty then (written, rest)
    else
      let (lines, after) := markupLines containers ending steps place.pending place.rest
      (written ++ lines, after)

/-- The gap in front of a line that starts at `chars`, where the containers leave `place`,
and the text of that line. -/
def gapBefore (ending chars : List Char) (all interrupts : Bool) (place : Cursor) :
    Gap × List Char :=
  let text := place.skipAll.rest
  (⟨ending, textUpTo chars place.rest, textUpTo place.rest text, !all, interrupts⟩, text)

/-- The source of a paragraph, the level of a heading that it turns out to be, and what
follows. -/
def paragraphLines (containers : List Container) :
    Nat → List Char → Source × Option (Fin 6) × List Char
  | 0, chars => ([], none, chars)
  | steps + 1, chars =>
    let (line, ending, rest) := splitLine chars
    let source := Source.ofChars line
    let (all, place) := enter containers rest
    let (missing, deeper) := place.take 4
    match if missing = 0 || !all then none else underline? deeper.rest with
    | some (level, after) => (source, some level, after)
    | none =>
      if (missing ≠ 0 && interruptsParagraph deeper.rest all) || deeper.skipAll.atEnd then
        (source, none, rest)
      else
        let (gap, text) := gapBefore ending rest all false place
        let (more, level, after) := paragraphLines containers steps text
        (source ++ .gap gap :: more, level, after)

/-! ## Definitions -/

/-- The source from here to the next blank line, as far as a definition may reach. -/
def definitionSource (containers : List Container) : Nat → List Char → Source
  | 0, _ => []
  | steps + 1, chars =>
    let (line, ending, rest) := splitLine chars
    let source := Source.ofChars line
    let (all, place) := enter containers rest
    if (blankLine? place.rest).isSome then source
    else
      let (missing, deeper) := place.take 4
      let interrupts := missing ≠ 0 &&
        (interruptsParagraph deeper.rest all || (all && (underline? deeper.rest).isSome))
      let (gap, text) := gapBefore ending rest all interrupts place
      source ++ .gap gap :: definitionSource containers steps text

/-- What follows the space between two parts of a definition, and whether a new line starts
in it. `none` where the definition cannot go on. -/
def definitionSpace? (source : Source) : Option (Bool × Source) :=
  match source.skipBlanks with
  | [] => none
  | .gap between :: rest => if between.isLazy then none else some (true, Source.skipBlanks rest)
  | rest => some (false, rest)

/-- A definition after its opening bracket: label and target, and what follows. -/
def definition? (source : Source) : Option ((List Char × Target) × Source) := do
  let (key, rest) ← label? source
  let (_, start) ← definitionSpace? (← rest.strip? [':'])
  let (destination, rest) ← destination? definitionNesting start
  if rest.length = start.length then none
  else
    let bare := ((key, (⟨unescape destination, []⟩ : Target)), rest)
    match definitionSpace? rest with
    | none => some bare
    | some (onNewLine, behind) =>
      if behind.length = rest.length then none
      else
        let titled := (title? behind).filter fun read =>
          match read.2.skipBlanks with
          | [] | .gap _ :: _ => true
          | _ => false
        match titled with
        | some (title, after) => some ((key, ⟨unescape destination, title⟩), after)
        | none => if onNewLine then some bare else none

/-! ## The reader -/

/-- A container that is open, with the blocks that it has so far, last first. -/
structure OpenContainer where
  container : Container
  children : List (Block Source)

/-- The block that an open container becomes. -/
def OpenContainer.block (opened : OpenContainer) : Block Source :=
  match opened.container with
  | .quote => .quote opened.children.reverse
  | .list tight _ start => .list tight start opened.children.reverse
  | .item _ => .item opened.children.reverse

/-- The state of the reader. -/
structure Reader where
  rest : List Char
  /-- The open containers, innermost first. -/
  opened : List OpenContainer
  /-- The blocks outside of them, last first. -/
  blocks : List (Block Source)
  /-- Whether the last line was blank. -/
  afterBlank : Bool
  /-- Whether an item was opened by a mark with nothing behind it, and has no block yet. -/
  emptyItem : Bool
  /-- The definitions so far, last first. -/
  definitions : Definitions

namespace Reader

/-- The open containers, outermost first. -/
def containers (reader : Reader) : List Container :=
  (reader.opened.map (·.container)).reverse

/-- The state with one more block in the innermost container. -/
def append (reader : Reader) (block : Block Source) : Reader :=
  match reader.opened with
  | [] => { reader with blocks := block :: reader.blocks }
  | top :: outer =>
    { reader with opened := { top with children := block :: top.children } :: outer }

/-- The innermost container is closed. -/
def close (reader : Reader) : Reader :=
  match reader.opened with
  | [] => reader
  | top :: outer =>
    let emptyItem := match top.container with
      | .list true _ _ => false
      | _ => reader.emptyItem
    { reader with opened := outer, emptyItem }.append top.block

/-- The innermost containers of that number are closed. -/
def closeMany : Nat → Reader → Reader
  | 0, reader => reader
  | count + 1, reader => closeMany count reader.close

/-- The state with one more open container. -/
def openContainer (reader : Reader) (container : Container) : Reader :=
  { reader with opened := ⟨container, []⟩ :: reader.opened }

/-- A list is loose. -/
def loosen (opened : OpenContainer) : OpenContainer :=
  match opened.container with
  | .list _ sign start => { opened with container := .list false sign start }
  | _ => opened

/-- Whether the innermost container is a list, which waits for its next item. -/
def inList (reader : Reader) : Bool :=
  match reader.opened with
  | ⟨.list .., _⟩ :: _ => true
  | _ => false

/-- An item with nothing behind its mark may go on with one line, but not with a blank one:
after that it is over. -/
def endEmptyItem (reader : Reader) : Reader :=
  let ended := match reader.opened with
    | ⟨.item _, _⟩ :: _ => if reader.emptyItem && reader.afterBlank then reader.close else reader
    | _ => reader
  { ended with emptyItem := false }

/-- A block comes that is no item: a list that waits for one is closed, and a blank line
in front of the block makes the list around it loose. -/
def endList (reader : Reader) : Reader :=
  let reader := reader.endEmptyItem
  let reader := if reader.inList then reader.close else reader
  if reader.afterBlank then
    { reader with
      afterBlank := false
      opened := match reader.opened with
        | inner :: outer :: rest => inner :: loosen outer :: rest
        | few => few }
  else reader

/-- An item comes: it goes on the list that waits for it, or starts one. Items of one list
have the same sign. -/
def beginItem (reader : Reader) (mark : ItemMark) (indent : Nat) : Reader :=
  let reader := reader.endEmptyItem
  let sameList := match reader.opened with
    | ⟨.list _ sign _, _⟩ :: _ => sign == mark.sign
    | _ => false
  let reader :=
    if sameList then
      { reader with
        opened := match reader.opened with
          | top :: outer => (if reader.afterBlank then loosen top else top) :: outer
          | [] => [] }
    else reader.endList.openContainer (.list true mark.sign mark.number)
  { reader with afterBlank := false }.openContainer (.item indent)

/-- A blank line. In a quote it separates nothing; after an item mark with nothing behind
it, it leaves the item without an indentation of its own. -/
def blank (reader : Reader) : Reader :=
  match reader.opened with
  | ⟨.quote, _⟩ :: _ => reader
  | ⟨.item indent, children⟩ :: outer =>
    { reader with
      afterBlank := true
      opened := ⟨.item (if reader.emptyItem then 0 else indent), children⟩ :: outer }
  | _ => { reader with afterBlank := true }

/-- Opens the containers that start in a line, within as many steps. Returns the place
behind their marks, unless an item mark with nothing behind it used the line up. -/
def openAll : Nat → Cursor → Reader → Reader × Option Cursor
  | 0, place, reader => (reader, some place)
  | steps + 1, place, reader =>
    let (missing, behind) := place.take 4
    if missing = 0 then (reader, some place)
    else match listItem? (4 - missing) behind with
      | some (mark, indent, content) =>
        let reader := reader.beginItem mark indent
        match blankLine? content.rest with
        | some rest => ({ reader with rest, emptyItem := true }, none)
        | none => openAll steps content reader
      | none =>
        match behind.rest with
        | '>' :: _ =>
          openAll steps ((behind.advance 1).take 1).2 (reader.endList.openContainer .quote)
        | _ => (reader, some place)

/-- Reads indented code. -/
def readIndentedCode (reader : Reader) (place : Cursor) : Reader :=
  let (lines, rest) :=
    indentedLines reader.containers (place.rest.length + 1) place []
  let kept := (lines.dropWhile (·.1)).reverse.flatMap (·.2)
  { reader.append (.code [] kept) with rest, afterBlank := (lines.head?.map (·.1)).getD false }

/-- Reads code after its fence. -/
def readFencedCode (reader : Reader) (indent : Nat) (mark : Char) (length : Nat)
    (chars : List Char) : Reader :=
  let (line, rest) := splitVerbatim ((chars.drop length).dropWhile isLineBlank)
  let isSpace (c : Char) : Bool := isLineBlank c || !isLineChar c
  let info := unescape (line.reverse.dropWhile isSpace).reverse
  let (content, rest) :=
    fencedLines reader.containers indent mark length (rest.length + 1) rest
  { reader.append (.code (info.takeWhile (· != ' ')) content) with rest }

/-- Reads a block of markup. -/
def readMarkup (reader : Reader) (ending : Option (List Char)) (blanks : Nat)
    (chars : List Char) : Reader :=
  let (content, rest) :=
    markupLines reader.containers ending (chars.length + 1) blanks chars
  { reader.append (.html content) with rest }

/-- Reads a paragraph, which may turn out to be a heading. -/
def readParagraph (reader : Reader) (chars : List Char) : Reader :=
  let (source, level, rest) := paragraphLines reader.containers (chars.length + 1) chars
  let block := match level with
    | some level => .heading level source
    | none => .paragraph source
  { reader.append block with rest }

/-- Reads a definition if there is one, and a paragraph otherwise. -/
def readText (reader : Reader) (chars : List Char) : Reader :=
  let found := match chars with
    | '[' :: behind =>
      let source := definitionSource reader.containers (behind.length + 1) behind
      (definition? source).map fun (definition, after) =>
        (definition, behind.drop ((source.upTo after).flatMap (·.written)).length)
    | _ => none
  match found with
  | some (definition, rest) =>
    { reader with
      rest := (blankLine? rest).getD rest
      definitions := definition :: reader.definitions }
  | none => reader.readParagraph chars

/-- Reads the block that starts in a line that is not blank. -/
def readBlock (reader : Reader) (place : Cursor) : Reader :=
  let reader := reader.endList
  let (missing, behind) := place.take 4
  let chars := behind.rest
  if missing = 0 then reader.readIndentedCode behind
  else match rule? chars with
    | some rest => { reader.append .rule with rest }
    | none =>
      match headingLevel? chars with
      | some level =>
        let (line, _, rest) := splitLine chars
        { reader.append (.heading level (Source.ofChars (headingText (line.drop (level.val + 1)))))
          with rest }
      | none =>
        match fence? chars with
        | some (mark, length) => reader.readFencedCode (4 - missing) mark length chars
        | none =>
          match chars with
          | '<' :: inside =>
            match markupEnd? inside with
            | some ending => reader.readMarkup (some ending) (4 - missing) chars
            | none =>
              if startsBlockElement inside || isLoneTag inside then
                reader.readMarkup none (4 - missing) chars
              else reader.readText chars
          | _ => reader.readText chars

/-- Reads what a line starts. -/
def step (reader : Reader) : Reader :=
  let (count, place) := enterAll (.ofLine reader.rest) reader.containers
  let reader := reader.closeMany (reader.opened.length - count)
  match openAll (place.rest.length + 1) place reader with
  | (reader, none) => reader
  | (reader, some place) =>
    match blankLine? place.rest with
    | some rest => { reader.blank with rest }
    | none => reader.readBlock place

/-- Reads to the end of the text, within as many steps. -/
def run : Nat → Reader → Reader
  | 0, reader => reader
  | steps + 1, reader => if reader.rest.isEmpty then reader else run steps reader.step

end Reader

/-- The blocks of a text, with their source, and its definitions. -/
def readBlocks (chars : List Char) : List (Block Source) × Definitions :=
  let reader := Reader.run chars.length ⟨chars, [], [], false, false, []⟩
  ((reader.closeMany reader.opened.length).blocks.reverse, reader.definitions.reverse)

end SchemaGuide.Markdown
