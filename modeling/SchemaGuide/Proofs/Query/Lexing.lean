import Mathlib.Tactic.IntervalCases
import SchemaGuide.Proofs.Query.Lexeme

/-! The lexer on texts of the lexical grammar. Behind every lexeme and every gap it stands
where a character that does not go on with the last lexeme starts a new one, so a writing
is read lexeme by lexeme. Only block strings need a condition of their own, because the
lexer does not tell the one escape that they know from any other backslash. -/
namespace SchemaGuide.Query

/-! ## Characters -/

private theorem ascii_of_alphanum {c : Char} (word : c.isAlphanum = true) : c.toNat < 128 := by
  have below {last : Char} (range : c.val ≤ last.val) (ascii : last.val.toNat < 128) :
      c.toNat < 128 := Nat.lt_of_le_of_lt (UInt32.le_iff_toNat_le.mp range) ascii
  rcases Bool.or_eq_true_iff.mp word with letter | digit
  · rcases Bool.or_eq_true_iff.mp letter with upper | lower
    · have range : c.val ≤ 'Z'.val := (of_decide_eq_true upper).2
      exact below range (by decide)
    · have range : c.val ≤ 'z'.val := of_decide_eq_true (Bool.and_eq_true_iff.mp lower).2
      exact below range (by decide)
  · have range : c.val ≤ '9'.val := of_decide_eq_true (Bool.and_eq_true_iff.mp digit).2
    exact below range (by decide)

private theorem mem_digits {c : Char} (digit : c.isDigit = true) :
    c ∈ ['0', '1', '2', '3', '4', '5', '6', '7', '8', '9'] := by
  have bounds : 48 ≤ c.toNat ∧ c.toNat ≤ 57 := by
    simpa [Char.isDigit, UInt32.le_iff_toNat_le] using digit
  rw [← Char.ofNat_toNat c]
  obtain ⟨low, high⟩ := bounds
  interval_cases c.toNat <;> decide

/-- A letter of the grammar starts a name of the lexer. -/
theorem isNameStart_of_starts {c : Char} (starts : (c.isAlpha || c = '_') = true) :
    isNameStart c = true := by
  rcases Bool.or_eq_true_iff.mp starts with letter | underscore
  · have ascii := ascii_of_alphanum (c := c) (by simp [Char.isAlphanum, letter])
    simp [isNameStart, Text.isLetter, ascii, letter]
  · simp [isNameStart, underscore]

/-- A character of a name of the grammar goes on with a name of the lexer. -/
theorem isNamePart_of_goesOn {c : Char} (part : (c.isAlphanum || c = '_') = true) :
    isNamePart c = true := by
  rcases Bool.or_eq_true_iff.mp part with word | underscore
  · have ascii := ascii_of_alphanum word
    simp only [Char.isAlphanum, Bool.or_eq_true] at word
    simp [isNamePart, Text.isLetterOrNumber, Text.isLetter, Text.isNumber, ascii, word]
  · simp [isNamePart, underscore]

private theorem blank_code_not_name_part :
    ∀ code ∈ [0x9, 0xA, 0xB, 0xC, 0xD, 0x20, 0x85, 0xA0, 0x1680, 0x2000, 0x2001, 0x2002, 0x2003,
      0x2004, 0x2005, 0x2006, 0x2007, 0x2008, 0x2009, 0x200A, 0x2028, 0x2029, 0x202F, 0x205F,
      0x3000], isNamePart (Char.ofNat code) = false := by
  decide +kernel

/-- White space, a comma or the mark of the byte order goes on with no name. -/
theorem not_name_part_of_blank {c : Char}
    (blank : (Text.isBlank c || c = ',' || c = '\ufeff') = true) : isNamePart c = false := by
  simp only [Bool.or_eq_true, decide_eq_true_eq] at blank
  rcases blank with (white | rfl) | rfl
  · have known := blank_code_not_name_part c.toNat (by
      simp [Text.isBlank, Text.Ranges.has, Text.Ranges.contains, Text.blankRanges] at white
      simp
      omega)
    rwa [Char.ofNat_toNat] at known
  · decide
  · decide +kernel

/-! ## Where a lexer stands -/

namespace Lexer

/-- The tokens of a lexer with an unfinished name among them, last first. -/
def read (lexer : Lexer) : List Token :=
  match lexer.mode with
  | .name read => nameToken read :: lexer.tokens
  | _ => lexer.tokens

/-- Whether a character goes on with what the lexer is in. -/
def goesOn (lexer : Lexer) (c : Char) : Bool :=
  match lexer.mode with
  | .between => false
  | .name _ | .variable => isNamePart c
  | .twoQuotes => c = '\x22'
  | _ => true

theorem finish_eq_read (lexer : Lexer) : lexer.finish = lexer.read.reverse := by
  obtain ⟨mode, tokens⟩ := lexer
  cases mode <;> rfl

/-- A character that goes on with nothing starts something. -/
theorem step_of_not_goesOn {lexer : Lexer} {c : Char} (apart : lexer.goesOn c = false) :
    lexer.step c = start lexer.read c := by
  obtain ⟨mode, tokens⟩ := lexer
  cases mode <;> simp_all [goesOn, step, read]

/-- The lexer stands behind a lexeme that only goes on with these characters. -/
structure Behind (lexer : Lexer) (read : List Token) (takes : Char → Bool) : Prop where
  read : lexer.read = read
  takes : ∀ c, lexer.goesOn c = true → takes c = true

/-- Between two lexemes nothing goes on. -/
theorem behind_of_between (tokens : List Token) (takes : Char → Bool) :
    Behind ⟨.between, tokens⟩ tokens takes :=
  ⟨rfl, fun _ on => absurd on (by simp [goesOn])⟩

/-- A character that neither is a sign nor can start a name starts nothing. -/
theorem start_of_plain {c : Char} (plain : c ∉ ['#', '\x22', '.', '$'])
    (unpunctuated : isPunctuator c = false) (nameless : isNameStart c = false)
    (tokens : List Token) : start tokens c = ⟨.between, tokens⟩ := by
  simp only [List.mem_cons, List.not_mem_nil, or_false, not_or] at plain
  simp [start, plain, unpunctuated, nameless]

theorem start_of_name {c : Char} (starts : (c.isAlpha || c = '_') = true) (tokens : List Token) :
    start tokens c = ⟨.name [c], tokens⟩ := by
  have plain : c ∉ ['#', '\x22', '.', '$', '{', '}', '(', ')', '[', ']', ':', '@'] := by
    intro sign
    simp only [List.mem_cons, List.not_mem_nil, or_false] at sign
    rcases sign with rfl | rfl | rfl | rfl | rfl | rfl | rfl | rfl | rfl | rfl | rfl | rfl <;>
      exact absurd starts (by decide)
  simp only [List.mem_cons, List.not_mem_nil, or_false, not_or] at plain
  simp [start, isPunctuator, plain, isNameStart_of_starts starts]

theorem start_of_digit {c : Char} (digit : c.isDigit = true) (tokens : List Token) :
    start tokens c = ⟨.between, tokens⟩ := by
  have known := mem_digits digit
  simp only [List.mem_cons, List.not_mem_nil, or_false] at known
  rcases known with rfl | rfl | rfl | rfl | rfl | rfl | rfl | rfl | rfl | rfl <;> rfl

/-- The rest of a name extends the name. -/
theorem reads_name_parts {chars : List Char} (parts : ∀ c ∈ chars, isNamePart c = true)
    (read : List Char) (tokens : List Token) :
    chars.foldl step ⟨.name read, tokens⟩ = ⟨.name (chars.reverse ++ read), tokens⟩ := by
  induction chars generalizing read with
  | nil => rfl
  | cons c rest ih =>
    have part := parts c (by simp)
    have extended : step ⟨.name read, tokens⟩ c = ⟨.name (c :: read), tokens⟩ := by
      simp [step, part]
    rw [List.foldl_cons, extended, ih fun d member => parts d (by simp [member])]
    simp

/-- Digits alone start nothing. -/
theorem reads_digits {chars : List Char} (digits : ∀ c ∈ chars, c.isDigit = true)
    (tokens : List Token) :
    chars.foldl step ⟨.between, tokens⟩ = ⟨.between, tokens⟩ := by
  induction chars with
  | nil => rfl
  | cons c rest ih =>
    rw [List.foldl_cons]
    have stays : step ⟨.between, tokens⟩ c = ⟨.between, tokens⟩ :=
      start_of_digit (digits c (by simp)) tokens
    rw [stays, ih fun d member => digits d (by simp [member])]

/-! ## Gaps -/

private theorem start_of_blank {c : Char}
    (blank : (Text.isBlank c || c = ',' || c = '\ufeff') = true) (tokens : List Token) :
    start tokens c = ⟨.between, tokens⟩ := by
  have plain : c ∉ ['#', '\x22', '.', '$', '{', '}', '(', ')', '[', ']', ':', '@'] := by
    intro sign
    simp only [List.mem_cons, List.not_mem_nil, or_false] at sign
    rcases sign with rfl | rfl | rfl | rfl | rfl | rfl | rfl | rfl | rfl | rfl | rfl | rfl <;>
      exact absurd blank (by decide)
  simp only [List.mem_cons, List.not_mem_nil, or_false, not_or] at plain
  have nameless : isNameStart c = false := by
    have part := not_name_part_of_blank blank
    simp only [isNamePart, Text.isLetterOrNumber, Bool.or_eq_false_iff] at part
    simp [isNameStart, part]
  exact start_of_plain (by simp [plain]) (by simp [isPunctuator, plain]) nameless tokens

/-- A comment stays open up to the end of its line. -/
theorem reads_comment {text : List Char} (oneLine : '\n' ∉ text) (tokens : List Token) :
    text.foldl step ⟨.comment, tokens⟩ = ⟨.comment, tokens⟩ := by
  induction text with
  | nil => rfl
  | cons c rest ih =>
    have inside : c ≠ '\n' := fun same => oneLine (by simp [same])
    have stays : step ⟨.comment, tokens⟩ c = ⟨.comment, tokens⟩ := by simp [step, inside]
    rw [List.foldl_cons, stays]
    exact ih fun member => oneLine (List.mem_cons_of_mem _ member)

/-- A character that is neither part of a name nor a quotation mark goes on with no lexeme. -/
theorem Behind.step_apart {lexer : Lexer} {read : List Token} {lexeme : Lexeme}
    (behind : lexer.Behind read lexeme.takes) {c : Char} (word : isNamePart c = false)
    (quote : c ≠ '\x22') : lexer.step c = start read c := by
  rw [← behind.read]
  refine step_of_not_goesOn (Bool.eq_false_iff.mpr fun on => ?_)
  have takes := behind.takes c on
  cases lexeme <;> simp_all [Lexeme.takes]

/-- No lexeme goes on with the start of a gap, and a gap leaves nothing open. -/
theorem reads_gapPiece (piece : GapPiece) {lexer : Lexer} {read : List Token} {lexeme : Lexeme}
    (behind : lexer.Behind read lexeme.takes) :
    piece.chars.foldl step lexer = ⟨.between, read⟩ := by
  cases piece with
  | blank c blank =>
    have quote : c ≠ '\x22' := by
      rintro rfl
      exact absurd blank (by decide)
    rw [GapPiece.chars, List.foldl_cons, behind.step_apart (not_name_part_of_blank blank) quote]
    exact start_of_blank blank read
  | comment text oneLine =>
    have opened : start read '#' = ⟨.comment, read⟩ := rfl
    rw [GapPiece.chars, List.cons_append, List.foldl_cons,
      behind.step_apart (by decide) (by decide), opened, List.foldl_append,
      reads_comment oneLine]
    rfl

theorem reads_gap {gap : Gap} (some : gap ≠ []) {lexer : Lexer} {read : List Token}
    {lexeme : Lexeme} (behind : lexer.Behind read lexeme.takes) :
    (Gap.chars gap).foldl step lexer = ⟨.between, read⟩ := by
  induction gap generalizing lexer with
  | nil => exact absurd rfl some
  | cons piece rest ih =>
    have first := reads_gapPiece piece behind
    by_cases last : rest = []
    · subst last
      simpa [Gap.chars] using first
    · rw [Gap.chars, List.flatMap_cons, List.foldl_append, first]
      exact ih last (behind_of_between read lexeme.takes)

/-! ## Numbers and strings -/

/-- The token of an exponent, if the lexer takes it for a name. A sign ends that name. -/
def exponentToken (exponent : Exponent) : Token :=
  .name (String.ofList (exponent.letter ::
    if exponent.negative.isNone then exponent.digits.chars else []))

private theorem digits_are_name_parts {chars : List Char}
    (digits : ∀ c ∈ chars, c.isDigit = true) : ∀ c ∈ chars, isNamePart c = true :=
  fun c member => isNamePart_of_goesOn (by simp [Char.isAlphanum, digits c member])

theorem reads_exponent (exponent : Exponent) (tokens : List Token) :
    (exponent.chars.foldl step ⟨.between, tokens⟩).Behind
      (exponentToken exponent :: tokens) isNamePart := by
  have letter : step ⟨.between, tokens⟩ exponent.letter = ⟨.name [exponent.letter], tokens⟩ := by
    rw [Exponent.letter]
    split <;> exact start_of_name (by decide) tokens
  rw [Exponent.chars, List.cons_append, List.foldl_cons, letter]
  cases sign : exponent.negative with
  | none =>
    rw [signChars, List.nil_append,
      reads_name_parts (digits_are_name_parts exponent.digits.isDigit_of_mem)]
    refine ⟨?_, fun c on => on⟩
    simp [read, nameToken, exponentToken, sign]
  | some minus =>
    have ended : step ⟨.name [exponent.letter], tokens⟩ (if minus then '-' else '+') =
        ⟨.between, nameToken [exponent.letter] :: tokens⟩ := by
      cases minus <;> rfl
    have written : signChars (some minus) = [if minus then '-' else '+'] := by cases minus <;> rfl
    rw [written, List.singleton_append, List.foldl_cons, ended,
      reads_digits exponent.digits.isDigit_of_mem]
    refine ⟨?_, fun c on => absurd on (by simp [goesOn])⟩
    simp [read, nameToken, exponentToken, sign]

/-- The tokens of a number: nothing but its exponent looks like one. -/
def numberTokens (number : Number) : List Token :=
  (number.exponent.map exponentToken).toList

theorem reads_unsigned (number : Number) (tokens : List Token) :
    (number.unsigned.foldl step ⟨.between, tokens⟩).Behind
      (numberTokens number ++ tokens) isNamePart := by
  obtain ⟨negative, whole, fraction, exponent⟩ := number
  have fractional : (fraction.elim [] fun digits => '.' :: digits.chars).foldl step
      ⟨.between, tokens⟩ = ⟨.between, tokens⟩ := by
    cases fraction with
    | none => rfl
    | some digits =>
      have first : digits.first.isDigit = true := digits.areDigits _ (by simp)
      have dot : step ⟨.between, tokens⟩ '.' = ⟨.dots 1, tokens⟩ := rfl
      have ended : step ⟨.dots 1, tokens⟩ digits.first = ⟨.between, tokens⟩ := by
        have apart : digits.first ≠ '.' := fun same => absurd first (by rw [same]; decide)
        simpa [step, apart] using start_of_digit first tokens
      simp only [Option.elim, Digits.chars, List.foldl_cons, dot, ended]
      exact reads_digits (fun c member => digits.areDigits c (by simp [member])) tokens
  rw [Number.unsigned, List.foldl_append, List.foldl_append, reads_digits whole.isDigit_of_mem,
    fractional]
  cases exponent with
  | none => exact behind_of_between tokens isNamePart
  | some exponent => exact reads_exponent exponent tokens

/-- A string on one line leaves no token, and only an empty one can go on. -/
theorem reads_string (pieces : List StringPiece) (tokens : List Token) :
    ((pieces.flatMap StringPiece.chars ++ ['\x22']).foldl step ⟨.quote, tokens⟩).Behind tokens
      (· = '\x22') := by
  have inside (pieces : List StringPiece) :
      (pieces.flatMap StringPiece.chars ++ ['\x22']).foldl step ⟨.string, tokens⟩ =
        ⟨.between, tokens⟩ := by
    induction pieces with
    | nil => rfl
    | cons piece rest ih =>
      have stays : piece.chars.foldl step ⟨.string, tokens⟩ = ⟨.string, tokens⟩ := by
        cases piece with
        | plain c isPlain => simp [StringPiece.chars, step, insideString, isPlain]
        | escape c oneLine => rfl
      rw [List.flatMap_cons, List.append_assoc, List.foldl_append, stays]
      exact ih
  cases pieces with
  | nil => exact ⟨rfl, fun c on => on⟩
  | cons piece rest =>
    have entered : piece.chars.foldl step ⟨.quote, tokens⟩ = ⟨.string, tokens⟩ := by
      cases piece with
      | plain c isPlain => simp [StringPiece.chars, step, insideString, isPlain]
      | escape c oneLine => rfl
    rw [List.flatMap_cons, List.append_assoc, List.foldl_append, entered, inside rest]
    exact behind_of_between tokens _

end Lexer

/-! ## Block strings -/

/-- Whether the lexer reads the content of a block string, behind that many quotation marks
of it, to its end: with every backslash taking the next character along, three marks never
stand together, and what is left over from the content with the closing marks is no mark
that opens a string. -/
def readsThrough (quotes : Nat) : List Char → Bool
  | [] => quotes ≠ 1
  | c :: rest =>
    if c = '\\' then
      match rest with
      | [] => false
      | _ :: more => readsThrough 0 more
    else if c = '\x22' then quotes < 2 && readsThrough (quotes + 1) rest
    else readsThrough 0 rest

/-- The lexer comes out of a lexeme where the lexeme ends. Only a block string can fail to. -/
def Lexeme.IsReadThrough : Lexeme → Prop
  | .block content _ => readsThrough 0 content = true
  | _ => True

instance : ∀ lexeme : Lexeme, Decidable lexeme.IsReadThrough
  | .block content _ => inferInstanceAs (Decidable (readsThrough 0 content = true))
  | .name _ | .sign _ | .spread | .dollar _ _ | .number _ | .string _ => .isTrue trivial

namespace Lexer

theorem reads_block {content : List Char} {quotes : Nat} (bound : quotes ≤ 2)
    (through : readsThrough quotes content = true) (tokens : List Token) :
    ((content ++ blockMark).foldl step ⟨.block quotes, tokens⟩).Behind tokens (· = '\x22') := by
  fun_induction readsThrough quotes content with
  | case1 quotes =>
    have ends : quotes = 0 ∨ quotes = 2 := by
      simp only [ne_eq, decide_eq_true_eq] at through
      omega
    rcases ends with rfl | rfl
    · exact behind_of_between tokens _
    · exact ⟨rfl, fun c on => on⟩
  | case2 => exact absurd through (by simp)
  | case3 quotes next more ih => exact ih (by omega) through
  | case4 quotes rest _ ih =>
    obtain ⟨few, through⟩ := Bool.and_eq_true_iff.mp through
    have few : quotes < 2 := of_decide_eq_true few
    have counted : step ⟨.block quotes, tokens⟩ '\x22' = ⟨.block (quotes + 1), tokens⟩ := by
      simp [step, insideBlock, Nat.ne_of_lt few]
    rw [List.cons_append, List.foldl_cons, counted]
    exact ih (by omega) through
  | case5 quotes c rest backslash quote ih =>
    have passed : step ⟨.block quotes, tokens⟩ c = ⟨.block 0, tokens⟩ := by
      simp [step, insideBlock, backslash, quote]
    rw [List.cons_append, List.foldl_cons, passed]
    exact ih (by omega) through

end Lexer

/-! ## Writings -/

/-- The tokens that the lexer makes of a lexeme. The name of a variable is one only apart
from its dollar sign. -/
def Lexeme.tokens : Lexeme → List Token
  | .name word => [.name word.text]
  | .sign .bang | .sign .equals => []
  | .sign mark => [.punctuator mark.char]
  | .spread => [.spread]
  | .dollar gap word => if gap.isEmpty then [] else [.name word.text]
  | .number value => Lexer.numberTokens value
  | .string _ | .block _ _ => []


namespace Lexer

private theorem reads_dollar (gap : Gap) (name : Name) (tokens : List Token) :
    ((gap.chars ++ name.chars).foldl step ⟨.variable, tokens⟩).Behind
      ((Lexeme.dollar gap name).tokens ++ tokens) isNamePart := by
  have parts : ∀ c ∈ name.rest, isNamePart c = true :=
    fun c member => isNamePart_of_goesOn (name.goesOn c member)
  cases gap with
  | nil =>
    have first : isNamePart name.first = true :=
      isNamePart_of_goesOn (by
        have starts := name.starts
        simp only [Bool.or_eq_true] at starts ⊢
        exact starts.imp_left fun letter => by simp [Char.isAlphanum, letter])
    have stays {chars : List Char} (parts : ∀ c ∈ chars, isNamePart c = true) :
        chars.foldl step ⟨.variable, tokens⟩ = ⟨.variable, tokens⟩ := by
      induction chars with
      | nil => rfl
      | cons c rest ih =>
        have on : step ⟨.variable, tokens⟩ c = ⟨.variable, tokens⟩ := by
          simp [step, parts c (by simp)]
        rw [List.foldl_cons, on, ih fun d member => parts d (by simp [member])]
    have all : ∀ c ∈ name.chars, isNamePart c = true := by
      simpa [Name.chars, first] using parts
    rw [Gap.chars, List.flatMap_nil, List.nil_append, stays all]
    exact ⟨rfl, fun c on => on⟩
  | cons piece rest =>
    have dollar : (⟨.variable, tokens⟩ : Lexer).Behind tokens (Lexeme.dollar [] name).takes :=
      ⟨rfl, fun c on => on⟩
    have first : step ⟨.between, tokens⟩ name.first = ⟨.name [name.first], tokens⟩ :=
      start_of_name name.starts tokens
    rw [List.foldl_append, reads_gap (by simp) dollar, Name.chars, List.foldl_cons, first,
      reads_name_parts parts]
    refine ⟨?_, fun c on => on⟩
    simp [read, nameToken, Lexeme.tokens, Name.text, Name.chars]

/-- From where a lexeme does not run into the one before, the lexer reads its tokens. -/
theorem reads_lexeme (lexeme : Lexeme) (through : lexeme.IsReadThrough) {lexer : Lexer}
    (apart : lexer.goesOn lexeme.first = false) :
    (lexeme.chars.foldl step lexer).Behind (lexeme.tokens.reverse ++ lexer.read) lexeme.takes := by
  rw [Lexeme.chars, List.foldl_cons, step_of_not_goesOn apart]
  generalize lexer.read = tokens
  cases lexeme with
  | name word =>
    have first : start tokens word.first = ⟨.name [word.first], tokens⟩ :=
      start_of_name word.starts tokens
    have parts : ∀ c ∈ word.rest, isNamePart c = true :=
      fun c member => isNamePart_of_goesOn (word.goesOn c member)
    rw [Lexeme.first, Lexeme.rest, first, reads_name_parts parts]
    refine ⟨?_, fun c on => on⟩
    simp [read, nameToken, Lexeme.tokens, Name.text, Name.chars]
  | sign mark => cases mark <;> exact behind_of_between _ _
  | spread => exact behind_of_between _ _
  | dollar gap word =>
    have reversed : (Lexeme.dollar gap word).tokens.reverse = (Lexeme.dollar gap word).tokens := by
      rw [Lexeme.tokens]
      split <;> rfl
    rw [reversed]
    exact reads_dollar gap word tokens
  | number value =>
    have reversed : (numberTokens value).reverse = numberTokens value := by
      rw [numberTokens]
      cases value.exponent <;> rfl
    have unsigned := reads_unsigned value tokens
    rw [Lexeme.tokens, reversed, Lexeme.first, Lexeme.rest]
    cases negative : value.negative with
    | true => exact unsigned
    | false => exact unsigned
  | string pieces => exact reads_string pieces tokens
  | block content isContent => exact reads_block (by omega) through tokens

/-- The lexer stands behind some lexeme and has read those tokens. -/
def Rests (lexer : Lexer) (read : List Token) : Prop :=
  ∃ lexeme : Lexeme, lexer.Behind read lexeme.takes

/-- A writing is read lexeme by lexeme. -/
theorem reads_writing {writing : Writing} (separated : writing.Separated)
    (through : ∀ piece ∈ writing, piece.1.IsReadThrough) {lexer : Lexer} {read : List Token}
    (rests : lexer.Rests read)
    (apart : ∀ piece ∈ writing.head?, lexer.goesOn piece.1.first = false) :
    (writing.chars.foldl step lexer).Rests
      ((writing.flatMap fun piece => piece.1.tokens).reverse ++ read) := by
  induction writing generalizing lexer read with
  | nil => exact rests
  | cons piece rest ih =>
    obtain ⟨lexeme, gap⟩ := piece
    obtain ⟨_, behind⟩ := rests
    have lexed := reads_lexeme lexeme (through (lexeme, gap) (by simp))
      (apart (lexeme, gap) (by simp))
    rw [behind.read] at lexed
    have later : ∀ piece ∈ rest, piece.1.IsReadThrough :=
      fun piece member => through piece (by simp [member])
    have separatedRest : Writing.Separated rest := by
      cases rest with
      | nil => trivial
      | cons next more => exact separated.2
    rw [Writing.chars, List.flatMap_cons, List.foldl_append, List.foldl_append]
    by_cases none : gap = []
    · subst none
      have next : ∀ piece ∈ rest.head?,
          (lexeme.chars.foldl step lexer).goesOn piece.1.first = false := by
        cases rest with
        | nil => simp
        | cons next more =>
          intro piece member
          obtain rfl : next = piece := by simpa using member
          refine Bool.eq_false_iff.mpr fun on => ?_
          exact absurd (lexed.takes _ on) (by simp [separated.1 rfl])
      have := ih separatedRest later ⟨_, lexed⟩ next
      simpa [Writing.chars, Gap.chars] using this
    · have between := reads_gap none lexed
      have start : ∀ piece ∈ rest.head?,
          goesOn ⟨.between, lexeme.tokens.reverse ++ read⟩ piece.1.first = false :=
        fun _ _ => rfl
      have := ih separatedRest later ⟨lexeme, behind_of_between _ _⟩ start
      simpa [between, Writing.chars] using this

/-- A text is read lexeme by lexeme. -/
theorem reads_text {text : List Char} {lexemes : List Lexeme} (spells : Spells text lexemes)
    (through : ∀ lexeme ∈ lexemes, lexeme.IsReadThrough) :
    (text.foldl step initial).Rests (lexemes.flatMap Lexeme.tokens).reverse := by
  obtain ⟨lead, writing, rfl, separated, rfl⟩ := spells
  have start : initial.Behind [] Lexeme.spread.takes := behind_of_between [] _
  have led : (Gap.chars lead).foldl step initial = initial := by
    by_cases none : lead = []
    · subst none
      rfl
    · exact reads_gap none start
  have apart : ∀ piece ∈ writing.head?, initial.goesOn piece.1.first = false :=
    fun _ _ => rfl
  have read := reads_writing separated
    (fun piece member => through _ (List.mem_map_of_mem member)) ⟨_, start⟩ apart
  rw [List.foldl_append, led]
  simpa [List.flatMap_map] using read

end Lexer

/-- **Texts are read as their lexemes say.** The tokens of a text are those of the lexemes
that it is written with. -/
theorem tokens_of_spells {text : List Char} {lexemes : List Lexeme} (spells : Spells text lexemes)
    (through : ∀ lexeme ∈ lexemes, lexeme.IsReadThrough) :
    tokens text = lexemes.flatMap Lexeme.tokens := by
  obtain ⟨_, behind⟩ := Lexer.reads_text spells through
  rw [tokens, Lexer.finish_eq_read, behind.read, List.reverse_reverse]

/-! ## Texts that are cut off -/

/-- What can stand behind the last lexeme of a text that is cut off and is none itself: the
first dots of a spread, or a comment without the end of its line. -/
inductive Cut : List Char → Prop where
  | nothing : Cut []
  | dot : Cut ['.']
  | dots : Cut ['.', '.']
  | comment {text : List Char} (oneLine : '\n' ∉ text) : Cut ('#' :: text)

/-- The text up to a place is written with these lexemes. -/
def SpellsUpTo (text : List Char) (lexemes : List Lexeme) : Prop :=
  ∃ front cut, Spells front lexemes ∧ Cut cut ∧ text = front ++ cut

namespace Lexer

/-- What is cut off adds no token. -/
theorem reads_cut {cut : List Char} (isCut : Cut cut) {lexer : Lexer} {read : List Token}
    (rests : lexer.Rests read) : (cut.foldl step lexer).read = read := by
  obtain ⟨lexeme, behind⟩ := rests
  cases isCut with
  | nothing => exact behind.read
  | dot => rw [List.foldl_cons, behind.step_apart (by decide) (by decide)]; rfl
  | dots => rw [List.foldl_cons, behind.step_apart (by decide) (by decide)]; rfl
  | comment oneLine =>
    have opened : start read '#' = ⟨.comment, read⟩ := rfl
    rw [List.foldl_cons, behind.step_apart (by decide) (by decide), opened, reads_comment oneLine]
    rfl

end Lexer

/-- A text that is cut off is read as its lexemes say, too. -/
theorem tokens_of_spellsUpTo {text : List Char} {lexemes : List Lexeme}
    (spells : SpellsUpTo text lexemes) (through : ∀ lexeme ∈ lexemes, lexeme.IsReadThrough) :
    tokens text = lexemes.flatMap Lexeme.tokens := by
  obtain ⟨front, cut, spelled, isCut, rfl⟩ := spells
  have rests := Lexer.reads_text spelled through
  rw [tokens, Lexer.finish_eq_read, List.foldl_append, Lexer.reads_cut isCut rests,
    List.reverse_reverse]

end SchemaGuide.Query
