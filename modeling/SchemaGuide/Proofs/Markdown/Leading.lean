import SchemaGuide.Markdown.Render
import SchemaGuide.Proofs.Markdown.FirstBlock

/-! Code at the front of a document. The reader of inline content works inside of the brackets that
are open, and emphasis inside of the open runs. As with blocks, what is outside of all of them only
grows at its end, so a code span that is read first stays the first content of its block. -/
namespace SchemaGuide.Markdown

/-! ## Emphasis -/

namespace EmphasisStack

theorem add_keeps (stack : EmphasisStack) (content : List Inline) :
    stack.base <:+ (stack.add content).base := by
  unfold add
  split
  · exact List.suffix_append content stack.base
  · exact List.suffix_rfl

theorem settle_keeps (stack : EmphasisStack) : stack.base <:+ stack.settle.base := by
  unfold settle
  split
  · exact List.suffix_rfl
  · rename_i top below _
    exact add_keeps { stack with opened := below } _

theorem settleMany_keeps (count : Nat) (stack : EmphasisStack) :
    stack.base <:+ (settleMany count stack).base := by
  induction count generalizing stack with
  | zero => exact List.suffix_rfl
  | succ count ih => exact (settle_keeps stack).trans (ih stack.settle)

theorem closeInnermost_keeps (count : Nat) (stack : EmphasisStack) :
    stack.base <:+ (stack.closeInnermost count).2.base := by
  unfold closeInnermost
  split
  · exact List.suffix_rfl
  · rename_i top below _
    dsimp only
    split
    · exact List.suffix_rfl
    · exact add_keeps { stack with opened := below } _

theorem close_keeps (run : MarkRun) (steps left : Nat) (stack : EmphasisStack) :
    stack.base <:+ (close run steps left stack).2.base := by
  induction steps generalizing left stack with
  | zero => exact List.suffix_rfl
  | succ steps ih =>
    cases left with
    | zero => exact List.suffix_rfl
    | succ left =>
      simp only [close]
      split
      · split <;> exact List.suffix_rfl
      · rename_i inside _
        have settled := settleMany_keeps inside stack
        have closed := closeInnermost_keeps (left + 1)
          { settleMany inside stack with
            tildeFloor := min (settleMany inside stack).tildeFloor
              ((settleMany inside stack).opened.length - 1) }
        exact settled.trans (closed.trans (ih _ _))

/-- One more piece only adds to the content outside of all runs. -/
theorem take_keeps (stack : EmphasisStack) (piece : Piece) :
    stack.base <:+ (stack.take piece).base := by
  cases piece with
  | inline content => exact add_keeps stack [content]
  | run marks =>
    have closed : stack.base <:+ (if marks.closes then
        close marks marks.length marks.length stack else (marks.length, stack)).2.base := by
      split
      · exact close_keeps marks _ _ stack
      · exact List.suffix_rfl
    unfold take
    dsimp only
    generalize (if marks.closes then close marks marks.length marks.length stack
      else (marks.length, stack)) = last at closed ⊢
    split
    · exact closed
    · split
      · exact closed
      · exact closed.trans (add_keeps _ _)

theorem fold_keeps (pieces : List Piece) (stack : EmphasisStack) :
    stack.base <:+ (pieces.foldl take stack).base := by
  induction pieces generalizing stack with
  | nil => exact List.suffix_rfl
  | cons piece rest ih => exact (take_keeps stack piece).trans (ih (stack.take piece))

end EmphasisStack

/-- Content at the front stays there. -/
theorem emphasise_cons_inline (content : Inline) (pieces : List Piece) :
    ∃ more, emphasise (.inline content :: pieces) = content :: more := by
  have folded := EmphasisStack.fold_keeps pieces ⟨[], [content], 0⟩
  obtain ⟨later, whole⟩ := folded.trans (EmphasisStack.settleMany_keeps _ _)
  have reversed := congrArg List.reverse whole
  rw [List.reverse_append] at reversed
  exact ⟨later.reverse, reversed.symm⟩

/-! ## Inline content -/

/-- A text in single backticks, and a blank. -/
def inBackticks (content : List Char) : List Char :=
  '\x60' :: content ++ ['\x60', ' ']

/-- Single backticks are enough for the text: it has no backtick of its own, and no line ends in
it. -/
structure FitsCode (content : List Char) : Prop where
  filled : content ≠ []
  plain : ∀ c ∈ content, c ≠ '\x60' ∧ isLineChar c = true

namespace Scan

/-- The pieces outside of all brackets, last first. -/
def outside (pieces : List Piece) : List Bracket → List Piece
  | [] => pieces
  | bracket :: outer => outside bracket.earlier outer

/-- The pieces of a state outside of all brackets, last first. -/
def front (scan : Scan) : List Piece :=
  outside scan.pieces scan.brackets

theorem outside_mono {pieces more : List Piece} (longer : pieces <:+ more)
    (brackets : List Bracket) : outside pieces brackets <:+ outside more brackets := by
  cases brackets with
  | nil => exact longer
  | cons bracket outer => exact List.suffix_rfl

theorem outside_map (pieces : List Piece) (brackets : List Bracket) (enables : Bracket → Bool) :
    outside pieces (brackets.map fun bracket => { bracket with enabled := enables bracket }) =
      outside pieces brackets := by
  induction brackets generalizing pieces with
  | nil => rfl
  | cons bracket outer ih => exact ih bracket.earlier

theorem add_keeps (scan : Scan) (content : Inline) : scan.front <:+ (scan.add content).front :=
  outside_mono (List.suffix_cons _ _) _

theorem addText_keeps (scan : Scan) (chars : List Char) :
    scan.front <:+ (scan.addText chars).front := by
  unfold addText
  split
  · exact List.suffix_rfl
  · exact add_keeps scan _

theorem dropBracket_keeps (scan : Scan) : scan.front <:+ scan.dropBracket.front := by
  unfold dropBracket front
  split
  · exact List.suffix_rfl
  · rename_i bracket outer brackets
    rw [brackets]
    refine outside_mono ?_ outer
    exact (List.suffix_cons _ _).trans (List.suffix_append _ _)

theorem abandonBracket_keeps (scan : Scan) (rest : Source) :
    scan.front <:+ (scan.abandonBracket rest).front :=
  (dropBracket_keeps scan).trans (addText_keeps _ _)

theorem closeBracket_keeps (scan : Scan) (target : Target) (rest : Source) :
    scan.front <:+ (scan.closeBracket target rest).front := by
  unfold closeBracket front
  split
  · exact List.suffix_rfl
  · rename_i bracket outer brackets
    rw [brackets]
    dsimp only
    split
    · exact outside_mono (List.suffix_cons _ _) outer
    · rw [outside_map]
      exact outside_mono (List.suffix_cons _ _) outer

theorem openBracket_keeps (scan : Scan) (isImage : Bool) (rest : Source) :
    scan.front <:+ (scan.openBracket isImage rest).front :=
  List.suffix_rfl

theorem reference_keeps (definitions : Definitions) (scan : Scan) (bracket : Bracket)
    (rest : Source) : scan.front <:+ (scan.reference definitions bracket rest).front := by
  have abandoned := abandonBracket_keeps scan rest
  unfold reference
  extract_lets ownLabel
  have own (after : Source) : scan.front <:+ (ownLabel after).front := by
    unfold ownLabel
    split
    · exact abandoned
    · split
      · split
        · exact closeBracket_keeps scan _ after
        · exact abandoned
      · exact abandoned
  split
  · exact own _
  · split
    · split
      · exact closeBracket_keeps scan _ _
      · exact abandoned
    · exact own _
  · exact own _

theorem readClosing_keeps (definitions : Definitions) (scan : Scan) (rest : Source) :
    scan.front <:+ (scan.readClosing definitions rest).front := by
  unfold readClosing
  split
  · exact addText_keeps scan _
  · split
    · exact abandonBracket_keeps scan rest
    · split
      · exact closeBracket_keeps scan _ _
      · exact reference_keeps definitions scan _ rest

theorem readBackslash_keeps (scan : Scan) (rest : Source) :
    scan.front <:+ (scan.readBackslash rest).front := by
  unfold readBackslash
  split
  · exact add_keeps scan _
  · split
    · exact addText_keeps scan _
    · exact addText_keeps scan _
  · exact addText_keeps scan _

theorem readBackticks_keeps (scan : Scan) : scan.front <:+ scan.readBackticks.front := by
  unfold readBackticks
  dsimp only
  split
  · exact add_keeps scan _
  · exact addText_keeps scan _

theorem readMarks_keeps (scan : Scan) (mark : Char) :
    scan.front <:+ (scan.readMarks mark).front := by
  unfold readMarks
  dsimp only
  split
  · exact outside_mono (List.suffix_cons _ _) _
  · exact addText_keeps scan _

theorem readAngle_keeps (scan : Scan) (rest : Source) :
    scan.front <:+ (scan.readAngle rest).front := by
  unfold readAngle
  split
  · exact add_keeps scan _
  · split
    · exact add_keeps scan _
    · split
      · exact add_keeps scan _
      · exact addText_keeps scan _

theorem readAmpersand_keeps (scan : Scan) (rest : Source) :
    scan.front <:+ (scan.readAmpersand rest).front := by
  unfold readAmpersand
  split
  · exact addText_keeps scan _
  · exact addText_keeps scan _

theorem readText_keeps (scan : Scan) : scan.front <:+ scan.readText.front := by
  unfold readText
  dsimp only
  split
  · exact addText_keeps scan _
  · exact (addText_keeps scan _).trans (add_keeps _ _)
  · exact addText_keeps scan _

/-- A step only adds to the pieces outside of all brackets. -/
theorem step_keeps (definitions : Definitions) (scan : Scan) :
    scan.front <:+ (scan.step definitions).front := by
  unfold step
  split
  · exact List.suffix_rfl
  · exact add_keeps scan _
  · split
    · exact readBackslash_keeps scan _
    · split
      · exact readBackticks_keeps scan
      · split
        · exact readMarks_keeps scan _
        · split
          · split
            · exact addText_keeps scan _
            · exact readAngle_keeps scan _
          · split
            · split
              · exact openBracket_keeps scan true _
              · exact addText_keeps scan _
            · split
              · exact openBracket_keeps scan false _
              · split
                · exact readClosing_keeps definitions scan _
                · split
                  · exact readAmpersand_keeps scan _
                  · exact readText_keeps scan

theorem run_keeps (definitions : Definitions) (steps : Nat) (scan : Scan) :
    scan.front <:+ (run definitions steps scan).front := by
  induction steps generalizing scan with
  | zero => exact List.suffix_rfl
  | succ steps ih =>
    unfold run
    split
    · exact List.suffix_rfl
    · exact (step_keeps definitions scan).trans (ih (scan.step definitions))

theorem brackets_of_drop {scan : Scan} {bracket : Bracket} {outer : List Bracket}
    (opened : scan.brackets = bracket :: outer) : scan.dropBracket.brackets = outer := by
  rw [dropBracket, opened]

/-- When all brackets are text, every piece is outside of them. -/
theorem drop_all_keeps {brackets : List Bracket} {scan : Scan} (opened : scan.brackets = brackets) :
    scan.front <:+ (brackets.foldl (fun scan _ => scan.dropBracket) scan).pieces := by
  induction brackets generalizing scan with
  | nil =>
    rw [front, opened]
    exact List.suffix_rfl
  | cons bracket outer ih =>
    exact (dropBracket_keeps scan).trans (ih (brackets_of_drop opened))

/-- The state in which a source is read. -/
def start (source : Source) : Scan := ⟨source, none, [], [], none⟩

/-- A single backtick starts code that goes on to the next one, if that is a single one too. -/
theorem codeSpan_of_plain {content : List Char} (plain : ∀ c ∈ content, c ≠ '\x60') {cell : Cell}
    (other : cell.is '\x60' = false) (rest : Source) :
    codeSpan? 1 0 (Source.ofChars content ++ .char '\x60' :: cell :: rest) =
      some (Source.ofChars content, cell :: rest) := by
  induction content with
  | nil =>
    have tick : (Cell.char '\x60').is '\x60' = true := rfl
    simp [codeSpan?, Source.ofChars, tick, other]
  | cons c content ih =>
    obtain ⟨first, later⟩ := List.forall_mem_cons.mp plain
    have noTick : (Cell.char c).is '\x60' = false := by simpa [Cell.is, Cell.char?] using first
    have inside := ih later
    rw [Source.ofChars] at inside
    simp [Source.ofChars, codeSpan?, noTick, inside]

/-- The first step reads code up to the next backtick. -/
theorem front_of_codeSpan (definitions : Definitions) {content : List Char}
    (fits : FitsCode content) {cell : Cell} (other : cell.is '\x60' = false) (rest : Source) :
    ((start (.char '\x60' :: (Source.ofChars content ++ .char '\x60' :: cell :: rest))).step
      definitions).front = [.inline (.code (codeText (.ofChars content)))] := by
  have span := codeSpan_of_plain (fun c member => (fits.plain c member).1) other rest
  obtain ⟨c, tail, rfl⟩ := List.exists_cons_of_ne_nil fits.filled
  have single : ((.char '\x60' :: (Source.ofChars (c :: tail) ++
      .char '\x60' :: cell :: rest) : Source).takeWhile (·.is '\x60')).length = 1 := by
    have first : (Cell.char c).is '\x60' = false := by
      simpa [Cell.is, Cell.char?] using (fits.plain c List.mem_cons_self).1
    have tick : (Cell.char '\x60').is '\x60' = true := rfl
    simp [Source.ofChars, first, tick]
  show (readBackticks _).front = _
  simp only [readBackticks, start, single, List.drop_succ_cons, List.drop_zero, span]
  rfl

end Scan

/-- The content that the first step reads is the first content of the source. -/
theorem first_content_of_step {definitions : Definitions} {source : Source} {content : Inline}
    (filled : source ≠ [])
    (first : ((Scan.start source).step definitions).front = [.inline content]) :
    ∃ more, inlines definitions source = content :: more := by
  obtain ⟨cell, rest, rfl⟩ := List.exists_cons_of_ne_nil filled
  have kept := Scan.run_keeps definitions rest.length
    ((Scan.start (cell :: rest)).step definitions)
  rw [first] at kept
  obtain ⟨later, whole⟩ := kept.trans (Scan.drop_all_keeps rfl)
  have pieces := congrArg List.reverse whole
  rw [List.reverse_append] at pieces
  obtain ⟨more, emphasised⟩ := emphasise_cons_inline content later.reverse
  refine ⟨more, ?_⟩
  rw [← emphasised]
  exact congrArg emphasise pieces.symm

/-- A code span at the front of a source is its first content. -/
theorem code_leads_inlines (definitions : Definitions) {content : List Char}
    (fits : FitsCode content) (rest : Source) :
    ∃ more, inlines definitions (Source.ofChars (inBackticks content) ++ rest) =
      .code (Scan.codeText (.ofChars content)) :: more := by
  have blank : (Cell.char ' ').is '\x60' = false := rfl
  have whole : Source.ofChars (inBackticks content) ++ rest =
      .char '\x60' :: (Source.ofChars content ++ .char '\x60' :: .char ' ' :: rest) := by
    simp [inBackticks, Source.ofChars]
  rw [whole]
  exact first_content_of_step (List.cons_ne_nil _ _)
    (Scan.front_of_codeSpan definitions fits blank rest)

/-! ## Documents -/

/-- The document starts with a block of text that starts with this content. -/
def Leads (content : Inline) (blocks : List (Block (List Inline))) : Prop :=
  ∃ block more rest, blocks = block :: rest ∧ block.IsText (content :: more)

theorem parse_of_blocks {chars : List Char} {block : Block Source} {more : List (Block Source)}
    (read : (readBlocks chars).1 = block :: more) :
    parse chars = block.map (inlines (readBlocks chars).2) ::
      Block.mapAll (inlines (readBlocks chars).2) more :=
  congrArg (Block.mapAll (inlines (readBlocks chars).2)) read

/-- **A code span stays in front.** If there is no backtick in a text and no line ends in it, then
single backticks around it make it code, which is the first content of the document, whatever
follows. -/
theorem code_leads_document {content : List Char} (fits : FitsCode content)
    (following : List Char) :
    Leads (.code (Scan.codeText (.ofChars content)))
      (parse (inBackticks content ++ following)) := by
  -- The span stands in the first line as a whole, because no line ends in it.
  have line : (inBackticks content ++ following).takeWhile isLineChar =
      inBackticks content ++ following.takeWhile isLineChar := by
    refine List.takeWhile_append_of_pos fun c member => ?_
    rw [inBackticks, List.cons_append, List.mem_cons, List.mem_append] at member
    rcases member with rfl | inside | behind
    · rfl
    · exact (fits.plain c inside).2
    · simp only [List.mem_cons, List.not_mem_nil, or_false] at behind
      rcases behind with rfl | rfl <;> rfl
  obtain ⟨block, source, more, read, isText, starts⟩ :
      ∃ block source more, (readBlocks (inBackticks content ++ following)).1 = block :: more ∧
        block.IsText source ∧
        Source.ofChars ((inBackticks content ++ following).takeWhile isLineChar) <+: source := by
    obtain ⟨c, tail, rfl⟩ := List.exists_cons_of_ne_nil fits.filled
    exact text_leads_blocks (fits.plain c List.mem_cons_self).1 _
  obtain ⟨rest, rfl⟩ := starts
  rw [line, Source.ofChars, List.map_append, List.append_assoc] at isText
  obtain ⟨later, first⟩ := code_leads_inlines
    (readBlocks (inBackticks content ++ following)).2 fits _
  refine ⟨_, later, _, parse_of_blocks read, ?_⟩
  rw [← first]
  exact isText.map _

/-- A text that starts with the tag of a paragraph does not start with text of its own. -/
theorem not_leads_of_paragraphTag (content : Inline) (following : List Char) :
    ¬ Leads content (parse ('<' :: 'p' :: '>' :: following)) := by
  obtain ⟨markup, more, read⟩ := markup_leads_blocks following
  rintro ⟨block, later, rest, parsed, isText⟩
  rw [parse_of_blocks read] at parsed
  cases parsed
  cases isText

end SchemaGuide.Markdown
