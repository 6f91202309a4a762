import SchemaGuide.Markdown.Document

/-! The first block of a document. The reader of blocks works inside of the containers that are
open. It never looks again at the blocks outside of all of them, which only grow at their end. So
the block that its first step reads is the first of the document, whatever follows. A line that
starts with a single backtick is the start of a text in this way, and a line that starts with the
tag of a paragraph that of markup. -/
namespace SchemaGuide.Markdown

/-- A block of text with that content. -/
inductive Block.IsText {α : Type} (content : α) : Block α → Prop where
  | paragraph : IsText content (.paragraph content)
  | heading (level : Fin 6) : IsText content (.heading level content)

theorem Block.IsText.map {α β : Type} {content : α} {block : Block α} (f : α → β)
    (isText : block.IsText content) : (block.map f).IsText (f content) := by
  cases isText with
  | paragraph => exact .paragraph
  | heading level => exact .heading level

namespace Reader

/-- The state in which a text is read. -/
def start (chars : List Char) : Reader := ⟨chars, [], [], false, false, []⟩

/-! ## Blocks outside of all containers -/

theorem append_keeps (reader : Reader) (block : Block Source) :
    reader.blocks <:+ (reader.append block).blocks := by
  unfold append
  split
  · exact List.suffix_cons block reader.blocks
  · exact List.suffix_rfl

theorem close_keeps (reader : Reader) : reader.blocks <:+ reader.close.blocks := by
  unfold close
  split
  · exact List.suffix_rfl
  · rename_i top outer _
    exact append_keeps { reader with opened := outer, emptyItem := _ } top.block

theorem closeMany_keeps (count : Nat) (reader : Reader) :
    reader.blocks <:+ (closeMany count reader).blocks := by
  induction count generalizing reader with
  | zero => exact List.suffix_rfl
  | succ count ih => exact (close_keeps reader).trans (ih reader.close)

theorem endEmptyItem_keeps (reader : Reader) :
    reader.blocks <:+ reader.endEmptyItem.blocks := by
  unfold endEmptyItem
  dsimp only
  split
  · split
    · exact close_keeps reader
    · exact List.suffix_rfl
  · exact List.suffix_rfl

theorem endList_keeps (reader : Reader) : reader.blocks <:+ reader.endList.blocks := by
  have ended := endEmptyItem_keeps reader
  have closed : reader.blocks <:+
      (if reader.endEmptyItem.inList then reader.endEmptyItem.close
        else reader.endEmptyItem).blocks := by
    split
    · exact ended.trans (close_keeps reader.endEmptyItem)
    · exact ended
  unfold endList
  exact iteInduction (motive := fun after : Reader => reader.blocks <:+ after.blocks)
    (fun _ => closed) fun _ => closed

/-- An item may close the list in front of it, which only adds a block. -/
theorem beginItem_keeps (reader : Reader) (mark : ItemMark) (indent : Nat) :
    reader.blocks <:+ (reader.beginItem mark indent).blocks := by
  have ended := endEmptyItem_keeps reader
  unfold beginItem openContainer
  exact iteInduction (motive := fun begun : Reader => reader.blocks <:+ begun.blocks)
    (fun _ => ended) fun _ => ended.trans (endList_keeps reader.endEmptyItem)

theorem blank_keeps (reader : Reader) : reader.blocks <:+ reader.blank.blocks := by
  unfold blank
  split <;> exact List.suffix_rfl

theorem openAll_keeps (steps : Nat) (place : Cursor) (reader : Reader) :
    reader.blocks <:+ (openAll steps place reader).1.blocks := by
  induction steps generalizing place reader with
  | zero => exact List.suffix_rfl
  | succ steps ih =>
    unfold openAll
    dsimp only
    split
    · exact List.suffix_rfl
    · split
      · rename_i mark indent content item
        have begun := beginItem_keeps reader mark indent
        split
        · exact begun
        · exact begun.trans (ih _ _)
      · split
        · exact (endList_keeps reader).trans (ih _ (reader.endList.openContainer .quote))
        · exact List.suffix_rfl

theorem readParagraph_keeps (reader : Reader) (chars : List Char) :
    reader.blocks <:+ (reader.readParagraph chars).blocks :=
  append_keeps reader _

theorem readText_keeps (reader : Reader) (chars : List Char) :
    reader.blocks <:+ (reader.readText chars).blocks := by
  unfold readText
  dsimp only
  split
  · exact List.suffix_rfl
  · exact readParagraph_keeps reader chars

theorem readBlock_keeps (reader : Reader) (place : Cursor) :
    reader.blocks <:+ (reader.readBlock place).blocks := by
  refine (endList_keeps reader).trans ?_
  unfold readBlock
  dsimp only
  split
  · exact append_keeps _ _
  · split
    · exact append_keeps _ _
    · split
      · exact append_keeps _ _
      · split
        · exact append_keeps _ _
        · split
          · split
            · exact append_keeps _ _
            · split
              · exact append_keeps _ _
              · exact readText_keeps _ _
          · exact readText_keeps _ _

/-- A step adds to the blocks outside of all containers. -/
theorem step_keeps (reader : Reader) : reader.blocks <:+ reader.step.blocks := by
  have closed := closeMany_keeps
    (reader.opened.length - (enterAll (.ofLine reader.rest) reader.containers).1) reader
  have opened := openAll_keeps
    ((enterAll (.ofLine reader.rest) reader.containers).2.rest.length + 1)
    (enterAll (.ofLine reader.rest) reader.containers).2
    (closeMany (reader.opened.length - (enterAll (.ofLine reader.rest) reader.containers).1) reader)
  have kept := closed.trans opened
  -- What is left of the line after its marks is a blank or a block of its own.
  unfold step
  dsimp only
  split
  · rename_i same
    rw [same] at kept
    exact kept
  · rename_i same
    rw [same] at kept
    split
    · exact kept.trans (blank_keeps _)
    · exact kept.trans (readBlock_keeps _ _)

theorem run_keeps (steps : Nat) (reader : Reader) :
    reader.blocks <:+ (run steps reader).blocks := by
  induction steps generalizing reader with
  | zero => exact List.suffix_rfl
  | succ steps ih =>
    unfold run
    split
    · exact List.suffix_rfl
    · exact (step_keeps reader).trans (ih reader.step)

/-- The block that the first step reads is the first block of the text. -/
theorem first_block_of_step {chars : List Char} {block : Block Source} (filled : chars ≠ [])
    (first : (start chars).step.blocks = [block]) :
    ∃ more, (readBlocks chars).1 = block :: more := by
  obtain ⟨c, rest, rfl⟩ := List.exists_cons_of_ne_nil filled
  have begun : run (c :: rest).length (start (c :: rest)) =
      run rest.length (start (c :: rest)).step := rfl
  have kept := run_keeps rest.length (start (c :: rest)).step
  rw [first, ← begun] at kept
  have closed := closeMany_keeps (run (c :: rest).length (start (c :: rest))).opened.length
    (run (c :: rest).length (start (c :: rest)))
  -- Blocks are kept last first, so the end of the kept ones is the front of the document.
  obtain ⟨later, whole⟩ := kept.trans closed
  have reversed := congrArg List.reverse whole
  rw [List.reverse_append] at reversed
  exact ⟨later.reverse, reversed.symm⟩

/-! ## The first line -/

/-- A line that opens no container is read as a block. -/
theorem step_start {chars : List Char}
    (flush : (Cursor.ofLine chars).take 4 = (4, .ofLine chars)) (noItem : itemMark? chars = none)
    (noQuote : chars.head? ≠ some '>') (filled : blankLine? chars = none) :
    (start chars).step = (start chars).readBlock (.ofLine chars) := by
  have unopened (steps : Nat) :
      openAll (steps + 1) (.ofLine chars) (start chars) = (start chars, some (.ofLine chars)) := by
    have item (outer : Nat) : listItem? outer (.ofLine chars) = none := by
      rw [listItem?, Cursor.ofLine, noItem]
      rfl
    unfold openAll
    simp only [flush, item]
    cases chars with
    | nil => rfl
    | cons c rest =>
      have other : c ≠ '>' := fun same => noQuote (congrArg some same)
      simp only [Cursor.ofLine]
      split
      · rfl
      · split
        · rename_i same
          exact absurd (List.cons.inj same).1 other
        · rfl
  have entered : enterAll (.ofLine (start chars).rest) (start chars).containers =
      (0, .ofLine chars) := rfl
  unfold step
  simp only [entered]
  have opened := unopened chars.length
  have unclosed : closeMany ((start chars).opened.length - 0) (start chars) = start chars := rfl
  have blank : blankLine? (Cursor.ofLine chars).rest = none := filled
  have long : (Cursor.ofLine chars).rest.length = chars.length := rfl
  simp only [unclosed, long, opened, blank]

theorem splitLine_fst (chars : List Char) : (splitLine chars).1 = chars.takeWhile isLineChar := by
  unfold splitLine
  split <;> rfl

theorem not_rule_of_other {c : Char} (other : ['*', '-', '_'].contains c = false)
    (inLine : isLineChar c = true) (rest : List Char) : rule? (c :: rest) = none := by
  obtain ⟨text, ending, after, split⟩ :
      ∃ text ending after, splitLine (c :: rest) = (text, ending, after) := ⟨_, _, _, rfl⟩
  have line := splitLine_fst (c :: rest)
  rw [split, List.takeWhile_cons_of_pos inLine] at line
  simp only [rule?, split, line, other, Bool.false_and, Bool.false_eq_true, if_false]

/-- A line that starts with a single backtick starts a paragraph. -/
theorem readBlock_of_backtick {c : Char} (other : c ≠ '\x60') (rest : List Char) :
    (start ('\x60' :: c :: rest)).readBlock (.ofLine ('\x60' :: c :: rest)) =
      (start ('\x60' :: c :: rest)).readParagraph ('\x60' :: c :: rest) := by
  have noRule : rule? ('\x60' :: c :: rest) = none := not_rule_of_other rfl rfl _
  have noHeading : headingLevel? ('\x60' :: c :: rest) = none := rfl
  have noFence : fence? ('\x60' :: c :: rest) = none := by
    simp [fence?, other]
  have flush : (Cursor.ofLine ('\x60' :: c :: rest)).take 4 =
      (4, .ofLine ('\x60' :: c :: rest)) := rfl
  have unended : (start ('\x60' :: c :: rest)).endList = start ('\x60' :: c :: rest) := rfl
  have long : (Cursor.ofLine ('\x60' :: c :: rest)).rest = '\x60' :: c :: rest := rfl
  simp only [readBlock, unended, flush, long, noRule, noHeading, noFence]
  rfl

/-- A line that starts with the tag of a paragraph starts a block of markup. -/
theorem readBlock_of_paragraphTag (rest : List Char) :
    (start ('<' :: 'p' :: '>' :: rest)).readBlock (.ofLine ('<' :: 'p' :: '>' :: rest)) =
      (start ('<' :: 'p' :: '>' :: rest)).readMarkup none 0 ('<' :: 'p' :: '>' :: rest) := by
  have noRule : rule? ('<' :: 'p' :: '>' :: rest) = none := not_rule_of_other rfl rfl _
  have noEnd : markupEnd? ('p' :: '>' :: rest) = none := rfl
  have block : startsBlockElement ('p' :: '>' :: rest) = true := rfl
  have noHeading : headingLevel? ('<' :: 'p' :: '>' :: rest) = none := rfl
  have noFence : fence? ('<' :: 'p' :: '>' :: rest) = none := rfl
  have flush : (Cursor.ofLine ('<' :: 'p' :: '>' :: rest)).take 4 =
      (4, .ofLine ('<' :: 'p' :: '>' :: rest)) := rfl
  have unended : (start ('<' :: 'p' :: '>' :: rest)).endList =
      start ('<' :: 'p' :: '>' :: rest) := rfl
  have long : (Cursor.ofLine ('<' :: 'p' :: '>' :: rest)).rest = '<' :: 'p' :: '>' :: rest := rfl
  simp only [readBlock, unended, flush, long, noRule, noHeading, noFence, noEnd, block]
  rfl

theorem line_starts_paragraph (containers : List Container) (steps : Nat) (chars : List Char) :
    Source.ofChars (chars.takeWhile isLineChar) <+:
      (paragraphLines containers (steps + 1) chars).1 := by
  unfold paragraphLines
  dsimp only
  rw [splitLine_fst]
  split
  · exact List.prefix_rfl
  · split
    · exact List.prefix_rfl
    · exact List.prefix_append _ _

theorem blocks_of_paragraph (chars : List Char) :
    ∃ block, ((start chars).readParagraph chars).blocks = [block] ∧
      block.IsText (paragraphLines [] (chars.length + 1) chars).1 := by
  have outside : (start chars).containers = [] := rfl
  unfold readParagraph
  rw [outside]
  generalize paragraphLines [] (chars.length + 1) chars = read
  obtain ⟨source, level, rest⟩ := read
  cases level with
  | none => exact ⟨_, rfl, .paragraph⟩
  | some level => exact ⟨_, rfl, .heading level⟩

theorem blocks_of_markup (chars : List Char) :
    ∃ content, ((start chars).readMarkup none 0 chars).blocks = [.html content] :=
  ⟨(markupLines [] none (chars.length + 1) 0 chars).1, rfl⟩

end Reader

/-- A text that starts with a single backtick starts with a block of text, whose content starts with
the first line. -/
theorem text_leads_blocks {c : Char} (other : c ≠ '\x60') (rest : List Char) :
    ∃ block source more, (readBlocks ('\x60' :: c :: rest)).1 = block :: more ∧
      block.IsText source ∧
      Source.ofChars (('\x60' :: c :: rest).takeWhile isLineChar) <+: source := by
  have line := Reader.line_starts_paragraph [] ('\x60' :: c :: rest).length ('\x60' :: c :: rest)
  have step : (Reader.start ('\x60' :: c :: rest)).step =
      (Reader.start ('\x60' :: c :: rest)).readBlock (.ofLine ('\x60' :: c :: rest)) :=
    Reader.step_start rfl rfl nofun rfl
  obtain ⟨block, first, isText⟩ := Reader.blocks_of_paragraph ('\x60' :: c :: rest)
  rw [← Reader.readBlock_of_backtick other rest, ← step] at first
  obtain ⟨more, blocks⟩ := Reader.first_block_of_step (List.cons_ne_nil _ _) first
  exact ⟨block, _, more, blocks, isText, line⟩

/-- A text that starts with the tag of a paragraph starts with a block of markup. -/
theorem markup_leads_blocks (rest : List Char) :
    ∃ content more, (readBlocks ('<' :: 'p' :: '>' :: rest)).1 = .html content :: more := by
  have step : (Reader.start ('<' :: 'p' :: '>' :: rest)).step =
      (Reader.start ('<' :: 'p' :: '>' :: rest)).readBlock (.ofLine ('<' :: 'p' :: '>' :: rest)) :=
    Reader.step_start rfl rfl nofun rfl
  obtain ⟨content, first⟩ := Reader.blocks_of_markup ('<' :: 'p' :: '>' :: rest)
  rw [← Reader.readBlock_of_paragraphTag rest, ← step] at first
  obtain ⟨more, blocks⟩ := Reader.first_block_of_step (List.cons_ne_nil _ _) first
  exact ⟨content, more, blocks⟩

end SchemaGuide.Markdown
