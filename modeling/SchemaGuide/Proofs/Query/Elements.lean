import SchemaGuide.Proofs.Query.Lexing
import SchemaGuide.Query.Context

/-! Lexical elements, each on a line of its own. Names, punctuators and spreads are tokens, and
variables, strings and comments leave none, as long as the lexer comes out of each block string
where the string ends. It lets every backslash of a block string take the next character along,
while the grammar only knows escaped marks, so it can come out earlier: at an escaped mark that
stands behind another backslash, or that another quotation mark follows. What is behind that
place is then read as if it stood outside of all strings. -/
namespace SchemaGuide.Query

/-! ## Elements -/

/-- A lexical element. -/
inductive Element where
  | name (name : Name)
  /-- A bracket, a colon, or the sign of a directive. -/
  | punctuator (sign : Char) (isSign : sign ∈ ['{', '}', '(', ')', '[', ']', ':', '@'])
  | spread
  /-- A variable. -/
  | parameter (name : Name)
  /-- A string on one line. -/
  | string (pieces : List StringPiece)
  | block (content : List Char) (isContent : BlockContent content)
  | comment (text : List Char) (oneLine : '\n' ∉ text)

namespace Element

/-- The characters of an element. -/
def chars : Element → List Char
  | .name word => word.chars
  | .punctuator sign _ => [sign]
  | .spread => ['.', '.', '.']
  | .parameter word => '$' :: word.chars
  | .string pieces => '\x22' :: pieces.flatMap StringPiece.chars ++ ['\x22']
  | .block content _ => blockMark ++ content ++ blockMark
  | .comment text _ => '#' :: text

/-- The token that an element is, if it is one. -/
def token? : Element → Option Token
  | .name word => some (.name word.text)
  | .punctuator sign _ => some (.punctuator sign)
  | .spread => some .spread
  | .parameter _ | .string _ | .block _ _ | .comment _ _ => none

end Element

/-- Lines, with the end of a line between each two of them. -/
def onLines : List (List Char) → List Char
  | [] => []
  | [line] => line
  | line :: next :: rest => line ++ '\n' :: onLines (next :: rest)

theorem onLines_cons (line : List Char) {rest : List (List Char)} (more : rest ≠ []) :
    onLines (line :: rest) = line ++ '\n' :: onLines rest := by
  cases rest with
  | nil => exact absurd rfl more
  | cons next rest => rfl

theorem onLines_append (front back : List Char) (rest : List (List Char)) :
    onLines ((front ++ back) :: rest) = front ++ onLines (back :: rest) := by
  cases rest <;> simp [onLines]

/-! ## Block strings that are left early -/

/-- What the lexer takes to stand behind a block string, of the content of the string behind that
many quotation marks of it: what follows the first three marks that stand together, with every
backslash taking the next character along. -/
def exposed? (quotes : Nat) : List Char → Option (List Char)
  | [] => none
  | c :: rest =>
    if c = '\\' then
      match rest with
      | [] => none
      | _ :: more => exposed? 0 more
    else if c = '\x22' then
      if quotes = 2 then some rest else exposed? (quotes + 1) rest
    else exposed? 0 rest

/-- What the lexer takes to stand behind an element that is not read to its end. -/
def Element.exposed? : Element → Option (List Char)
  | .block content _ => Query.exposed? 0 content
  | _ => none

/-! ### One step of the lexer inside of a block string -/

section Steps

variable {c : Char} (quotes : Nat) (rest : List Char)

private theorem step_backslash :
    readsThrough quotes ('\\' :: c :: rest) = readsThrough 0 rest ∧
      exposed? quotes ('\\' :: c :: rest) = exposed? 0 rest := by
  rw [readsThrough.eq_def, exposed?.eq_def]
  simp

private theorem step_quote :
    readsThrough quotes ('\x22' :: rest) = (quotes < 2 && readsThrough (quotes + 1) rest) ∧
      exposed? quotes ('\x22' :: rest) =
        if quotes = 2 then some rest else exposed? (quotes + 1) rest := by
  rw [readsThrough.eq_def, exposed?.eq_def]
  simp

private theorem step_other (backslash : c ≠ '\\') (quote : c ≠ '\x22') :
    readsThrough quotes (c :: rest) = readsThrough 0 rest ∧
      exposed? quotes (c :: rest) = exposed? 0 rest := by
  rw [readsThrough.eq_def, exposed?.eq_def]
  simp [backslash, quote]

/-- Quotation marks in front of another character do not count any more. -/
private theorem behind_other (quote : c ≠ '\x22') :
    readsThrough quotes (c :: rest) = readsThrough 0 (c :: rest) ∧
      exposed? quotes (c :: rest) = exposed? 0 (c :: rest) := by
  rw [readsThrough.eq_def, exposed?.eq_def, readsThrough.eq_def 0, exposed?.eq_def 0]
  simp [quote]

end Steps

/-- From the start of some content the lexer comes to the start of a rest of it that the grammar
would have come to as well. -/
structure PassesTo (content rest : List Char) : Prop where
  shorter : rest.length < content.length
  isSuffix : rest <:+ content
  isContent : BlockContent rest
  through : readsThrough 0 content = readsThrough 0 rest
  exposed : exposed? 0 content = exposed? 0 rest

private theorem BlockContent.behind_plain {c : Char} {rest : List Char}
    (isContent : BlockContent (c :: rest)) (plain : c ≠ '\\') : BlockContent rest := by
  generalize same : c :: rest = content at isContent
  cases isContent with
  | nil => cases same
  | escape => exact absurd (List.cons.inj same).1 plain
  | plain _ _ inner =>
    cases same
    exact inner

/-- Of quotation marks in a row there are at most two, and something stands behind them. -/
private theorem BlockContent.advance_quotes {rest : List Char} (inner : BlockContent rest)
    (unmarked : ¬ blockMark <+: '\x22' :: rest ++ blockMark) :
    ∃ last, PassesTo ('\x22' :: rest) last := by
  cases rest with
  | nil => exact absurd ⟨['\x22'], rfl⟩ unmarked
  | cons next more =>
    by_cases again : next = '\x22'
    · subst again
      cases more with
      | nil => exact absurd ⟨['\x22', '\x22'], rfl⟩ unmarked
      | cons third more =>
        have apart : third ≠ '\x22' := by
          rintro rfl
          exact unmarked ⟨more ++ blockMark, rfl⟩
        obtain ⟨through, exposed⟩ := behind_other 2 more apart
        have isContent := inner.behind_plain (by decide)
        refine ⟨third :: more, by simp, ⟨['\x22', '\x22'], rfl⟩, isContent, ?_, ?_⟩
        · simp [step_quote, through]
        · simp [step_quote, exposed]
    · obtain ⟨through, exposed⟩ := behind_other 1 more again
      refine ⟨next :: more, by simp, ⟨['\x22'], rfl⟩, inner, ?_, ?_⟩
      · simp [step_quote, through]
      · simp [step_quote, exposed]

/-- At the start of some content, the lexer either passes pieces of the grammar, or finds three
marks behind a backslash that took a character along. -/
private theorem BlockContent.advance {content : List Char} (isContent : BlockContent content)
    (filled : content ≠ []) :
    (∃ rest, PassesTo content rest) ∨
    ∃ c exposed, (c = '\\' ∨ c = '\x22') ∧ content = '\\' :: c :: blockMark ++ exposed ∧
      exposed? 0 content = some exposed := by
  cases isContent with
  | nil => exact absurd rfl filled
  | @escape rest inner =>
    -- The backslash takes the first mark along, so two of the three are left.
    cases rest with
    | nil => exact .inl ⟨[], by simp, List.nil_suffix, .nil, rfl, rfl⟩
    | cons next more =>
      by_cases quote : next = '\x22'
      · subst quote
        exact .inr ⟨'\x22', more, .inr rfl, rfl, (step_quote 2 more).2⟩
      · obtain ⟨through, exposed⟩ := behind_other 2 more quote
        have shorter : (next :: more).length < ('\\' :: blockMark ++ next :: more).length := by
          simp [blockMark]
        exact .inl ⟨next :: more, shorter, List.suffix_append _ _, inner, through, exposed⟩
  | @plain c rest unmarked unescaped inner =>
    by_cases backslash : c = '\\'
    · subst backslash
      cases inner with
      | nil => exact absurd (List.prefix_refl _) unescaped
      | @escape more _ => exact .inr ⟨'\\', more, .inl rfl, rfl, (step_quote 2 more).2⟩
      | @plain next more _ _ inner =>
        obtain ⟨through, exposed⟩ := step_backslash 0 more
        have shorter : more.length < ('\\' :: next :: more).length :=
          Nat.lt_succ_of_lt (Nat.lt_succ_self _)
        exact .inl ⟨more, shorter, ⟨['\\', next], rfl⟩, inner, through, exposed⟩
    by_cases quote : c = '\x22'
    · subst quote
      exact .inl (inner.advance_quotes unmarked)
    · obtain ⟨through, exposed⟩ := step_other 0 rest backslash quote
      exact .inl ⟨rest, by simp, List.suffix_cons c rest, inner, through, exposed⟩

/-- So the lexer reads all of some content, or leaves it behind such marks. -/
private theorem BlockContent.read_or_left {content : List Char} (isContent : BlockContent content) :
    (readsThrough 0 content = true ∧ exposed? 0 content = none) ∨
    ∃ front c exposed, (c = '\\' ∨ c = '\x22') ∧
      content = front ++ '\\' :: c :: blockMark ++ exposed ∧
      exposed? 0 content = some exposed := by
  induction length : content.length using Nat.strong_induction_on generalizing content with
  | _ size ih =>
    by_cases filled : content = []
    · subst filled
      exact .inl ⟨rfl, rfl⟩
    rcases isContent.advance filled with ⟨rest, passes⟩ | ⟨c, exposed, escaped, rfl, left⟩
    · obtain ⟨piece, rfl⟩ := passes.isSuffix
      rw [passes.through, passes.exposed]
      rcases ih rest.length (length ▸ passes.shorter) passes.isContent rfl with
        read | ⟨front, c, exposed, escaped, rfl, left⟩
      · exact .inl read
      · exact .inr ⟨piece ++ front, c, exposed, escaped, by simp, left⟩
    · exact .inr ⟨[], c, exposed, escaped, rfl, left⟩

/-- A block string that the lexer does not leave early is read to its end. -/
theorem readsThrough_of_unexposed {content : List Char} (isContent : BlockContent content)
    (unexposed : exposed? 0 content = none) : readsThrough 0 content = true := by
  rcases isContent.read_or_left with ⟨through, _⟩ | ⟨_, _, _, _, _, left⟩
  · exact through
  · cases unexposed.symm.trans left

/-- A block string is left early only at an escaped mark that stands behind another backslash or
that another quotation mark follows: the marks that the lexer leaves it at stand behind a backslash
and the character that this one takes along. -/
theorem exposed_behind_escape {content exposed : List Char} (isContent : BlockContent content)
    (left : exposed? 0 content = some exposed) :
    ∃ front c, (c = '\\' ∨ c = '\x22') ∧ content = front ++ '\\' :: c :: blockMark ++ exposed := by
  rcases isContent.read_or_left with ⟨_, unexposed⟩ | ⟨front, c, other, escaped, written, found⟩
  · cases unexposed.symm.trans left
  · obtain rfl : other = exposed := Option.some.inj (found.symm.trans left)
    exact ⟨front, c, escaped, written⟩

namespace Lexer

/-- Where the lexer leaves a block string early, it goes on as if nothing were open. -/
theorem leaves_block {content exposed : List Char} {quotes : Nat}
    (left : exposed? quotes content = some exposed) (tokens : List Token) :
    content.foldl step ⟨.block quotes, tokens⟩ = exposed.foldl step ⟨.between, tokens⟩ := by
  fun_induction exposed? quotes content with
  | case1 => cases left
  | case2 => cases left
  | case3 quotes next more ih => exact ih left
  | case4 rest _ =>
    cases left
    rfl
  | case5 quotes rest few _ ih =>
    have counted : step ⟨.block quotes, tokens⟩ '\x22' = ⟨.block (quotes + 1), tokens⟩ := by
      simp [step, insideBlock, few]
    rw [List.foldl_cons, counted]
    exact ih left
  | case6 quotes c rest backslash quote ih =>
    have passed : step ⟨.block quotes, tokens⟩ c = ⟨.block 0, tokens⟩ := by
      simp [step, insideBlock, backslash, quote]
    rw [List.foldl_cons, passed]
    exact ih left

/-! ## Lines -/

/-- What was read before takes no part in what is read next. -/
theorem step_behind (mode : Mode) (tokens earlier : List Token) (c : Char) :
    step ⟨mode, tokens ++ earlier⟩ c =
      ⟨(step ⟨mode, tokens⟩ c).mode, (step ⟨mode, tokens⟩ c).tokens ++ earlier⟩ := by
  have starts (tokens : List Token) : start (tokens ++ earlier) c =
      ⟨(start tokens c).mode, (start tokens c).tokens ++ earlier⟩ := by
    unfold start
    repeat' split
    all_goals rfl
  match mode with
  | .between => exact starts tokens
  | .name chars =>
    simp only [step]
    split
    · rfl
    · exact starts (nameToken chars :: tokens)
  | .variable | .twoQuotes =>
    simp only [step]
    split
    · rfl
    · exact starts tokens
  | .dots count =>
    simp only [step]
    split
    · exact starts tokens
    · split <;> rfl
  | .comment =>
    simp only [step]
    split <;> rfl
  | .quote | .string | .stringEscape | .block quotes | .blockEscape => rfl

theorem reads_behind (chars : List Char) (mode : Mode) (tokens earlier : List Token) :
    (chars.foldl step ⟨mode, tokens ++ earlier⟩).read =
      (chars.foldl step ⟨mode, tokens⟩).read ++ earlier := by
  induction chars generalizing mode tokens with
  | nil => cases mode <;> rfl
  | cons c rest ih => rw [List.foldl_cons, step_behind, ih]; rfl

/-- The lexer stands at the end of a line and has read those tokens. -/
structure EndsLine (lexer : Lexer) (tokens : List Token) : Prop where
  read : lexer.read = tokens
  newline : lexer.step '\n' = ⟨.between, tokens⟩

theorem Behind.endsLine {lexer : Lexer} {read : List Token} {lexeme : Lexeme}
    (behind : lexer.Behind read lexeme.takes) : lexer.EndsLine read :=
  ⟨behind.read, behind.step_apart (c := '\n') (by decide) (by decide)⟩

/-- An element that is not left early is read as the token that it is, or as none. -/
theorem reads_element (element : Element) (unexposed : element.exposed? = none)
    (tokens : List Token) :
    (element.chars.foldl step ⟨.between, tokens⟩).EndsLine (element.token?.toList ++ tokens) := by
  have reads (lexeme : Lexeme) (through : lexeme.IsReadThrough) :
      (lexeme.chars.foldl step ⟨.between, tokens⟩).EndsLine (lexeme.tokens.reverse ++ tokens) :=
    (@reads_lexeme lexeme through ⟨.between, tokens⟩ rfl).endsLine
  cases element with
  | name word => exact reads (.name word) trivial
  | punctuator sign isSign =>
    simp only [List.mem_cons, List.not_mem_nil, or_false] at isSign
    rcases isSign with rfl | rfl | rfl | rfl | rfl | rfl | rfl | rfl <;> exact ⟨rfl, rfl⟩
  | spread => exact reads .spread trivial
  | parameter word => exact reads (.dollar [] word) trivial
  | string pieces => exact reads (.string pieces) trivial
  | block content isContent =>
    exact reads (.block content isContent) (readsThrough_of_unexposed isContent unexposed)
  | comment text oneLine =>
    have opened : step ⟨.between, tokens⟩ '#' = ⟨.comment, tokens⟩ := rfl
    rw [Element.chars, List.foldl_cons, opened, reads_comment oneLine]
    exact ⟨rfl, rfl⟩

/-- The same for the lines of such elements in front of others. -/
theorem reads_lines_before {before : List Element}
    (unexposed : ∀ element ∈ before, element.exposed? = none) {rest : List (List Char)}
    (more : rest ≠ []) (tokens : List Token) :
    (onLines (before.map Element.chars ++ rest)).foldl step ⟨.between, tokens⟩ =
      (onLines rest).foldl step
        ⟨.between, (before.filterMap Element.token?).reverse ++ tokens⟩ := by
  induction before generalizing tokens with
  | nil => rfl
  | cons element others ih =>
    have line := reads_element element (unexposed element (by simp)) tokens
    rw [List.map_cons, List.cons_append, onLines_cons _ (by simp [more]), List.foldl_append,
      List.foldl_cons, line.newline, ih fun other member => unexposed other (by simp [member])]
    cases token : element.token? <;> simp [token]

theorem reads_lines {elements : List Element}
    (unexposed : ∀ element ∈ elements, element.exposed? = none) :
    ((onLines (elements.map Element.chars)).foldl step initial).read =
      (elements.filterMap Element.token?).reverse := by
  rcases elements.eq_nil_or_concat with rfl | ⟨before, last, rfl⟩
  · rfl
  · rw [List.concat_eq_append] at unexposed ⊢
    rw [List.map_append, initial, reads_lines_before
      (fun element member => unexposed element (by simp [member])) (by simp)]
    have line := reads_element last (unexposed last (by simp))
      ((before.filterMap Element.token?).reverse ++ [])
    refine line.read.trans ?_
    cases token : last.token? <;> simp [token]

end Lexer

/-- Only a block string is left early, and it is no token. -/
theorem token_of_exposed {element : Element} {exposed : List Char}
    (left : element.exposed? = some exposed) : element.token? = none := by
  cases element with
  | block => rfl
  | name | punctuator | spread | parameter | string | comment => cases left

/-- Behind the first element that is left early, what the lexer takes to stand behind it is read in
its place. -/
theorem tokens_of_left_early {before after : List Element} {element : Element}
    {exposed : List Char} (unexposed : ∀ other ∈ before, other.exposed? = none)
    (left : element.exposed? = some exposed) :
    tokens (onLines ((before ++ element :: after).map Element.chars)) =
      before.filterMap Element.token? ++
        tokens (onLines ((exposed ++ blockMark) :: after.map Element.chars)) := by
  cases element with
  | block content isContent =>
    have opened (earlier : List Token) :
        blockMark.foldl Lexer.step ⟨.between, earlier⟩ = ⟨.block 0, earlier⟩ := rfl
    have behind := Lexer.reads_behind (onLines ((exposed ++ blockMark) :: after.map Element.chars))
      .between [] (before.filterMap Element.token?).reverse
    rw [tokens, tokens, Lexer.finish_eq_read, Lexer.finish_eq_read, List.map_append, List.map_cons,
      Lexer.initial, Lexer.reads_lines_before unexposed (by simp), Element.chars, onLines_append,
      List.foldl_append, List.foldl_append, opened, Lexer.leaves_block left, ← List.foldl_append,
      ← onLines_append, List.append_nil]
    rw [List.nil_append] at behind
    rw [behind, List.reverse_append, List.reverse_reverse]
  | name | punctuator | spread | parameter | string | comment => cases left

/-- **Strings and comments leave no token, unless a block string is left early.** The tokens of
elements on lines of their own are the names, punctuators and spreads among them, exactly where no
block string is left early, or where what is exposed of the first one happens to be read with the
lines behind it as the tokens of the elements there. And a block string is left early only at an
escaped mark that stands behind another backslash or that another quotation mark follows. -/
theorem tokens_of_elements_iff (elements : List Element) :
    (tokens (onLines (elements.map Element.chars)) = elements.filterMap Element.token? ↔
      ∀ before element after exposed, elements = before ++ element :: after →
        (∀ other ∈ before, other.exposed? = none) → element.exposed? = some exposed →
        tokens (onLines ((exposed ++ blockMark) :: after.map Element.chars)) =
          after.filterMap Element.token?) ∧
      ∀ element ∈ elements, ∀ exposed, element.exposed? = some exposed →
        ∃ front c, (c = '\\' ∨ c = '\x22') ∧
          element.chars = blockMark ++ front ++ '\\' :: c :: blockMark ++ exposed ++ blockMark := by
  refine ⟨⟨?_, ?_⟩, ?_⟩
  · rintro same before element after exposed rfl unexposed left
    rw [tokens_of_left_early unexposed left, List.filterMap_append,
      List.filterMap_cons_none (token_of_exposed left)] at same
    exact List.append_cancel_left same
  · intro behind
    cases first : elements.find? (·.exposed?.isSome) with
    | none =>
      have unexposed : ∀ element ∈ elements, element.exposed? = none := by
        simpa using List.find?_eq_none.mp first
      rw [tokens, Lexer.finish_eq_read, Lexer.reads_lines unexposed, List.reverse_reverse]
    | some element =>
      obtain ⟨isLeft, before, after, rfl, unexposed⟩ := List.find?_eq_some_iff_append.mp first
      obtain ⟨exposed, left⟩ := Option.isSome_iff_exists.mp isLeft
      have unexposed : ∀ other ∈ before, other.exposed? = none := by simpa using unexposed
      rw [tokens_of_left_early unexposed left,
        behind before element after exposed rfl unexposed left, List.filterMap_append,
        List.filterMap_cons_none (token_of_exposed left)]
  · intro element _ exposed left
    cases element with
    | block content isContent =>
      obtain ⟨front, c, escaped, rfl⟩ := exposed_behind_escape isContent left
      exact ⟨front, c, escaped, by simp [Element.chars]⟩
    | name | punctuator | spread | parameter | string | comment => cases left

/-! ### A brace in a block string -/

/-- An escaped mark behind a backslash, and a brace. -/
private theorem mark_behind_backslash :
    BlockContent ['\\', '\\', '\x22', '\x22', '\x22', ' ', '{'] :=
  .plain (by decide) (by decide)
    (.escape (.plain (by decide) (by decide) (.plain (by decide) (by decide) .nil)))

/-- An escaped mark in front of a quotation mark, and a brace. -/
private theorem mark_before_quote :
    BlockContent ['\\', '\x22', '\x22', '\x22', '\x22', ' ', '{'] :=
  .escape (.plain (by decide) (by decide)
    (.plain (by decide) (by decide) (.plain (by decide) (by decide) .nil)))

private def textBehindBackslash : String :=
  "\x22\x22\x22\\\\\x22\x22\x22 \x7b\x22\x22\x22"

private def textBeforeQuote : String :=
  "\x22\x22\x22\\\x22\x22\x22\x22 \x7b\x22\x22\x22"

/-- Block strings can be left early: of one with an escaped mark behind a backslash, and of one
with a quotation mark behind an escaped mark, the brace at the end becomes a token and opens the
selection set of a query. -/
theorem brace_of_block_string_is_read :
    (∃ elements : List Element,
      onLines (elements.map Element.chars) = textBehindBackslash.toList ∧
        elements.filterMap Element.token? = [] ∧
        tokens textBehindBackslash.toList = [.punctuator '{'] ∧
        contextAt? textBehindBackslash 13 = some (.selection [.operation "query"])) ∧
    ∃ elements : List Element,
      onLines (elements.map Element.chars) = textBeforeQuote.toList ∧
        elements.filterMap Element.token? = [] ∧
        tokens textBeforeQuote.toList = [.punctuator '{'] ∧
        contextAt? textBeforeQuote 13 = some (.selection [.operation "query"]) :=
  ⟨⟨[.block _ mark_behind_backslash], rfl, rfl, by decide, by decide⟩,
    [.block _ mark_before_quote], rfl, rfl, by decide, by decide⟩

end SchemaGuide.Query
