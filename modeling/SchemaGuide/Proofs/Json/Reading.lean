import Mathlib.Data.List.Chain
import SchemaGuide.Proofs.Json.Spelling

/-! A text that spells a value is read as that value. Strings and numbers are read up to where
they end, so the lexemes of a text are found one after the other, whatever blanks stand between
them. The machine that builds values delivers a value after the lexemes of it, whichever
containers are open. -/
namespace SchemaGuide.Json

/-! ## Strings -/

private theorem WritesHex.lt {digit : Nat} {c : Char} (writes : WritesHex digit c) :
    digit < 16 := by
  rcases writes with lower | upper
  · exact (List.getElem?_eq_some_iff.1 lower).1
  · exact (List.getElem?_eq_some_iff.1 upper).1

private theorem hexDigit?_of_writes {digit : Nat} {c : Char} (writes : WritesHex digit c) :
    Text.hexDigit? c = some digit := by
  have known : ∀ digit < 16,
      "0123456789abcdef".toList[digit]?.bind Text.hexDigit? = some digit ∧
        "0123456789ABCDEF".toList[digit]?.bind Text.hexDigit? = some digit := by decide
  obtain ⟨lowerCase, upperCase⟩ := known digit writes.lt
  rcases writes with lower | upper
  · simpa only [lower, Option.bind_some] using lowerCase
  · simpa only [upper, Option.bind_some] using upperCase

/-- A character that is a unit by itself is the unit of its code. -/
private theorem ofCode_toNat {c : Char} (one : c.toNat < 0x10000) :
    Unit16.ofCode c.toNat = .char c := by
  have valid : c.toNat < 0xD800 ∨ 0xDFFF < c.toNat ∧ c.toNat < 0x110000 := c.valid
  rw [Unit16.ofCode, if_neg (by simp; omega), if_neg (by simp; omega), Char.ofNat_toNat]

private theorem ofCode_high {code : Nat} (range : 0xD800 ≤ code ∧ code < 0xDC00) :
    Unit16.ofCode code = .high code := by
  rw [Unit16.ofCode, if_pos (by simpa using range)]

private theorem ofCode_low {code : Nat} (range : 0xDC00 ≤ code ∧ code < 0xE000) :
    Unit16.ofCode code = .low code := by
  rw [Unit16.ofCode, if_neg (by simp; omega), if_pos (by simpa using range)]

section Units

variable {rest after : List Char} {units : List Unit16}

private theorem stringUnits?_code {code : Nat} {written : List Char}
    (writes : WritesCode code written) (others : stringUnits? rest = some (units, after)) :
    stringUnits? (written ++ rest) = some (Unit16.ofCode code :: units, after) := by
  obtain ⟨first, second, third, fourth⟩ := writes
  simp [stringUnits?, hexQuad?, hexDigit?_of_writes first, hexDigit?_of_writes second,
    hexDigit?_of_writes third, hexDigit?_of_writes fourth, others]

private theorem stringUnits?_plain {c : Char} (printable : 0x20 ≤ c.toNat)
    (unquoted : c ≠ '\x22') (unescaped : c ≠ '\\')
    (others : stringUnits? rest = some (units, after)) :
    stringUnits? (c :: rest) = some (.char c :: units, after) := by
  rw [stringUnits?, if_neg unquoted, if_neg (by simpa [unescaped] using printable), others]
  · rfl
  · exact fun _ _ _ _ _ backslash _ => unescaped backslash
  · exact fun _ _ backslash _ => unescaped backslash

private theorem stringUnits?_short {letter c : Char} (escape : (letter, c) ∈ shortEscapes)
    (others : stringUnits? rest = some (units, after)) :
    stringUnits? ('\\' :: letter :: rest) = some (.char c :: units, after) := by
  simp only [shortEscapes, List.mem_cons, Prod.mk.injEq, List.not_mem_nil, or_false] at escape
  rcases escape with ⟨rfl, rfl⟩ | ⟨rfl, rfl⟩ | ⟨rfl, rfl⟩ | ⟨rfl, rfl⟩ | ⟨rfl, rfl⟩ | ⟨rfl, rfl⟩ |
    ⟨rfl, rfl⟩ | ⟨rfl, rfl⟩ <;> simp [stringUnits?, shortEscape?, others]

private theorem WritesCode.code_lt {code : Nat} {written : List Char}
    (writes : WritesCode code written) : code < 0x10000 := by
  obtain ⟨first, second, third, fourth⟩ := writes
  have := first.lt
  have := second.lt
  have := third.lt
  have := fourth.lt
  omega

private theorem stringUnits?_char {c : Char} {written : List Char}
    (writes : WritesChar c written) (one : c.toNat < 0x10000 ∨ written = [c])
    (others : stringUnits? rest = some (units, after)) :
    stringUnits? (written ++ rest) = some (.char c :: units, after) := by
  cases writes with
  | plain printable unquoted unescaped =>
    exact stringUnits?_plain printable unquoted unescaped others
  | short escape => exact stringUnits?_short escape others
  | code writes => rw [stringUnits?_code writes others, ofCode_toNat writes.code_lt]
  | pair highRange lowRange code writesHigh writesLow =>
    rcases one with small | alone
    · omega
    · cases writesHigh
      cases alone

end Units

/-- Units are read up to the mark behind them. -/
theorem WritesUnits.read {units : List Unit16} {body : List Char}
    (writes : WritesUnits units body) (rest : List Char) :
    stringUnits? (body ++ '\x22' :: rest) = some (units, rest) := by
  induction writes with
  | nil => simp [stringUnits?]
  | cons first others ih =>
    rw [List.append_assoc]
    cases first with
    | char writes one => exact stringUnits?_char writes one ih
    | high range writes => rw [stringUnits?_code writes ih, ofCode_high range]
    | low range writes => rw [stringUnits?_code writes ih, ofCode_low range]

/-- What writes a text writes units that make up the text. -/
theorem WritesText.units {text body : List Char} (writes : WritesText text body) :
    ∃ units, WritesUnits units body ∧ textOfUnits? units = some text := by
  induction writes with
  | nil => exact ⟨[], .nil, rfl⟩
  | @cons c text written rest first others ih =>
    obtain ⟨units, writes, spelled⟩ := ih
    -- A character is one unit, unless its code needs more than sixteen bits and it is written by
    -- its code: then it is the two halves of a pair.
    by_cases one : c.toNat < 0x10000 ∨ written = [c]
    · exact ⟨.char c :: units, .cons (.char first one) writes, by simp [textOfUnits?, spelled]⟩
    · cases first with
      | plain => exact absurd (.inr rfl) one
      | short escape =>
        have small : ∀ pair ∈ shortEscapes, pair.2.toNat < 0x10000 := by decide
        exact absurd (.inl (small _ escape)) one
      | code writes => exact absurd (.inl writes.code_lt) one
      | @pair high low first second highRange lowRange code writesHigh writesLow =>
        refine ⟨.high high :: .low low :: units, ?_, ?_⟩
        · rw [List.append_assoc]
          exact .cons (.high highRange writesHigh) (.cons (.low lowRange writesLow) writes)
        · simp [textOfUnits?, spelled, ← code, Char.ofNat_toNat]

/-! ## Numbers -/

/-- What follows cannot be a part of a number. -/
def EndsNumber (rest : List Char) : Prop :=
  ∀ c ∈ rest.head?, c.isDigit = false ∧ c ∉ ['.', 'e', 'E']

private theorem IsDigits.exists_cons {chars : List Char} (isDigits : IsDigits chars) :
    ∃ first more, first.isDigit = true ∧ chars = first :: more := by
  obtain ⟨first, more, rfl⟩ := List.exists_cons_of_ne_nil isDigits.1
  exact ⟨first, more, isDigits.2 first List.mem_cons_self, rfl⟩

/-- A digit is no sign. -/
private theorem ne_sign_of_isDigit {c : Char} (digit : c.isDigit = true) : c ≠ '+' ∧ c ≠ '-' := by
  constructor <;> rintro rfl <;> exact absurd digit (by decide)

private theorem digits_append {chars rest : List Char} (isDigits : IsDigits chars)
    (ends : ∀ c ∈ rest.head?, c.isDigit = false) : digits (chars ++ rest) = (chars, rest) := by
  have stops : rest.takeWhile Char.isDigit = [] ∧ rest.dropWhile Char.isDigit = rest := by
    cases rest with
    | nil => exact ⟨rfl, rfl⟩
    | cons c rest => simp [ends c rfl]
  rw [digits, List.takeWhile_append_of_pos isDigits.2, List.dropWhile_append_of_pos isDigits.2,
    stops.1, stops.2, List.append_nil]

private theorem wholePart?_append {whole rest : List Char} (isWhole : IsWhole whole)
    (ends : ∀ c ∈ rest.head?, c.isDigit = false) :
    wholePart? (whole ++ rest) = some (whole, rest) := by
  obtain ⟨isDigits, zero⟩ := isWhole
  rw [wholePart?, digits_append isDigits ends]
  split
  · rename_i none
    cases none
    exact absurd rfl isDigits.1
  · rename_i leading
    cases leading
    cases zero rfl
  · rfl

private theorem fraction?_append {fraction rest : List Char} (isFraction : IsFraction fraction)
    (ends : ∀ c ∈ rest.head?, c.isDigit = false ∧ c ≠ '.') :
    fraction? (fraction ++ rest) = some (fraction, rest) := by
  rcases isFraction with rfl | ⟨chars, isDigits, rfl⟩
  · rw [List.nil_append, fraction?]
    rintro tail rfl
    exact (ends '.' rfl).2 rfl
  · rw [List.cons_append, fraction?, digits_append isDigits fun c first => (ends c first).1]
    split
    · rename_i none
      cases none
      exact absurd rfl isDigits.1
    · rename_i parts
      cases parts
      rfl

private theorem exponent?_append {exponent rest : List Char} (isExponent : IsExponent exponent)
    (ends : EndsNumber rest) : exponent? (exponent ++ rest) = some (exponent, rest) := by
  rcases isExponent with rfl | ⟨letter, sign, chars, isLetter, isSign, isDigits, rfl⟩
  · cases rest with
    | nil => rfl
    | cons c rest =>
      have other := (ends c rfl).2
      simp only [List.mem_cons, List.not_mem_nil, or_false, not_or] at other
      simp [exponent?, other]
  · have known : letter = 'e' ∨ letter = 'E' := by simpa using isLetter
    have found : digits (chars ++ rest) = (chars, rest) :=
      digits_append isDigits fun c first => (ends c first).1
    obtain ⟨first, more, digit, rfl⟩ := isDigits.exists_cons
    simp only [List.mem_cons, List.not_mem_nil, or_false] at isSign
    rw [List.cons_append] at found
    rcases isSign with rfl | rfl | rfl
    · simp [exponent?, known, ne_sign_of_isDigit digit, found]
    · simp [exponent?, known, found]
    · simp [exponent?, known, found]

/-- A number is read up to where it ends. -/
theorem IsNumeral.read {chars rest : List Char} (isNumeral : IsNumeral chars)
    (ends : EndsNumber rest) : number? (chars ++ rest) = some (chars, rest) := by
  obtain @⟨sign, whole, fraction, exponent, signed, isWhole, isFraction, isExponent⟩ := isNumeral
  have afterFraction : ∀ c ∈ (exponent ++ rest).head?, c.isDigit = false ∧ c ≠ '.' := by
    rcases isExponent with rfl | ⟨letter, sign, chars, isLetter, _, _, rfl⟩
    · rintro c first
      exact ⟨(ends c first).1, List.ne_of_not_mem_cons (ends c first).2⟩
    · rintro c first
      cases first
      simp only [List.mem_cons, List.not_mem_nil, or_false] at isLetter
      rcases isLetter with rfl | rfl <;> decide
  have afterWhole : ∀ c ∈ (fraction ++ (exponent ++ rest)).head?, c.isDigit = false := by
    rcases isFraction with rfl | ⟨chars, _, rfl⟩
    · exact fun c first => (afterFraction c first).1
    · rintro c first
      cases first
      rfl
  have readWhole := wholePart?_append isWhole afterWhole
  have readFraction := fraction?_append isFraction afterFraction
  have readExponent := exponent?_append isExponent ends
  obtain ⟨first, more, digit, rfl⟩ := isWhole.1.exists_cons
  rw [List.cons_append] at readWhole
  simp only [List.mem_cons, List.not_mem_nil, or_false] at signed
  rcases signed with rfl | rfl <;>
    simp [number?, ne_sign_of_isDigit digit, readWhole, readFraction, readExponent]

/-! ## Lexemes -/

/-- The lexeme is a value without parts. -/
def Lexeme.isAtom : Lexeme → Bool
  | .atom _ => true
  | _ => false

/-- A blank ends a number, and so does any lexeme that is no value. -/
private theorem WritesLexemes.endsNumber {lexemes : List Lexeme} {chars : List Char}
    (writes : WritesLexemes lexemes chars)
    (apart : ∀ lexeme ∈ lexemes.head?, lexeme.isAtom = false) : EndsNumber chars := by
  cases writes with
  | nil => rintro c ⟨⟩
  | blank isBlank others =>
    rintro c first
    cases first
    simp only [List.mem_cons, List.not_mem_nil, or_false] at isBlank
    rcases isBlank with rfl | rfl | rfl | rfl <;> decide
  | cons first others =>
    cases first with
    | sign known =>
      rintro c first
      cases first
      simp only [signs, List.mem_cons, Prod.mk.injEq, List.not_mem_nil, or_false] at known
      rcases known with ⟨_, rfl⟩ | ⟨_, rfl⟩ | ⟨_, rfl⟩ | ⟨_, rfl⟩ | ⟨_, rfl⟩ | ⟨_, rfl⟩ <;> decide
    | _ => cases apart _ rfl

/-- A number starts with a digit or with its sign. -/
private theorem IsNumeral.exists_cons {chars : List Char} (isNumeral : IsNumeral chars) :
    ∃ first more, (first = '-' ∨ first.isDigit = true) ∧ chars = first :: more := by
  obtain ⟨signed, isWhole, _, _⟩ := isNumeral
  simp only [List.mem_cons, List.not_mem_nil, or_false] at signed
  rcases signed with rfl | rfl
  · obtain ⟨first, more, digit, rfl⟩ := isWhole.1.exists_cons
    exact ⟨first, _, .inr digit, rfl⟩
  · exact ⟨'-', _, .inl rfl, rfl⟩

/-- Only a number starts like one. -/
private theorem lexeme?_of_start {c : Char} (start : c = '-' ∨ c.isDigit = true)
    (rest : List Char) :
    isSpace c = false ∧ lexeme? c rest =
      (number? (c :: rest)).bind fun (text, after) =>
        some (.atom (.number (String.ofList text)), after) := by
  have known : ∀ mark ∈ [' ', '\n', '\t', '\r', '\x7b', '\x7d', '[', ']', ',', ':', '\x22', 'n',
      't', 'f'], ¬(mark = '-' ∨ mark.isDigit = true) := by simp
  have other := fun mark member => mt (fun same : c = mark => same ▸ start) (known mark member)
  simp only [List.forall_mem_cons] at other
  obtain ⟨space, line, tab, back, openObject, closeObject, openArray, closeArray, comma, colon,
    quote, n, t, f, -⟩ := other
  refine ⟨by simp [isSpace, space, line, tab, back], ?_⟩
  rw [lexeme?, if_neg openObject, if_neg closeObject, if_neg openArray, if_neg closeArray,
    if_neg comma, if_neg colon, if_neg quote]
  · rfl
  · exact fun _ same _ => n same
  · exact fun _ same _ => t same
  · exact fun _ same _ => f same

/-- A lexeme is read where it is written, if the character behind a number is none of it. -/
theorem WritesLexeme.read {lexeme : Lexeme} {written rest : List Char}
    (writes : WritesLexeme lexeme written) (ends : lexeme.isAtom = true → EndsNumber rest) :
    ∃ c more, written = c :: more ∧ isSpace c = false ∧
      lexeme? c (more ++ rest) = some (lexeme, rest) := by
  cases writes with
  | @sign _ c known =>
    refine ⟨c, [], rfl, ?_⟩
    simp only [signs, List.mem_cons, Prod.mk.injEq, List.not_mem_nil, or_false] at known
    rcases known with ⟨rfl, rfl⟩ | ⟨rfl, rfl⟩ | ⟨rfl, rfl⟩ | ⟨rfl, rfl⟩ | ⟨rfl, rfl⟩ |
      ⟨rfl, rfl⟩ <;> exact ⟨rfl, rfl⟩
  | null => exact ⟨'n', _, rfl, rfl, rfl⟩
  | yes => exact ⟨'t', _, rfl, rfl, rfl⟩
  | no => exact ⟨'f', _, rfl, rfl, rfl⟩
  | @number text isNumeral =>
    obtain ⟨first, more, start, same⟩ := isNumeral.exists_cons
    obtain ⟨noSpace, number⟩ := lexeme?_of_start start (more ++ rest)
    have read := isNumeral.read (ends rfl)
    rw [same, List.cons_append] at read
    refine ⟨first, more, same, noSpace, ?_⟩
    rw [number, read, ← same]
    simp
  | string writes =>
    obtain ⟨units, writes, spelled⟩ := writes.units
    refine ⟨'\x22', _, rfl, rfl, ?_⟩
    simp [lexeme?, writes.read rest, spelled]
  | halves writes alone =>
    refine ⟨'\x22', _, rfl, rfl, ?_⟩
    simp [lexeme?, writes.read rest, alone]

/-- No two values without parts stand next to each other, so every number ends. -/
def Apart (lexemes : List Lexeme) : Prop :=
  lexemes.IsChain fun before after => before.isAtom = true → after.isAtom = false

/-- Lexemes are read where they are written. -/
theorem WritesLexemes.read {lexemes : List Lexeme} {chars : List Char}
    (writes : WritesLexemes lexemes chars) (apart : Apart lexemes) {steps : Nat}
    (enough : chars.length ≤ steps) : lexemesWithin steps chars = some lexemes := by
  -- A blank and a lexeme take a step each, and each of them has a character of its own.
  induction writes generalizing steps with
  | nil => rw [lexemesWithin]
  | @blank lexemes c chars isBlank others ih =>
    obtain ⟨steps, rfl⟩ := Nat.exists_eq_add_of_le' (Nat.le_trans (Nat.succ_pos _) enough)
    have space : isSpace c = true := by simpa [isSpace, or_assoc] using isBlank
    rw [lexemesWithin, if_pos space]
    exact ih apart (Nat.le_of_succ_le_succ enough)
  | @cons lexeme lexemes written chars first others ih =>
    obtain ⟨next, apart⟩ := List.isChain_cons.1 apart
    have ends : lexeme.isAtom = true → EndsNumber chars := fun atom =>
      others.endsNumber fun after member => next after member atom
    obtain ⟨c, more, rfl, noSpace, read⟩ := first.read ends
    obtain ⟨steps, rfl⟩ := Nat.exists_eq_add_of_le' (Nat.le_trans (Nat.succ_pos _) enough)
    have shorter : chars.length ≤ steps := by
      simp only [List.cons_append, List.length_cons, List.length_append] at enough
      omega
    rw [List.cons_append, lexemesWithin, if_neg (by simp [noSpace]), read]
    simp [ih apart shorter]

/-! ## Values -/

/-- Lexemes that can follow a value: they are apart, and the first of them is no value. -/
def Follows (rest : List Lexeme) : Prop :=
  Apart rest ∧ ∀ lexeme ∈ rest.head?, lexeme.isAtom = false

private theorem Apart.sign {lexeme : Lexeme} {rest : List Lexeme} (apart : Apart rest)
    (sign : lexeme.isAtom = false) : Apart (lexeme :: rest) :=
  List.isChain_cons.2 ⟨fun _ _ atom => by simp [sign] at atom, apart⟩

private theorem Apart.atom {value : Json} {rest : List Lexeme} (follows : Follows rest) :
    Apart (.atom value :: rest) :=
  List.isChain_cons.2 ⟨fun after first _ => follows.2 after first, follows.1⟩

private theorem Follows.sign {lexeme : Lexeme} {rest : List Lexeme} (apart : Apart rest)
    (sign : lexeme.isAtom = false) : Follows (lexeme :: rest) :=
  ⟨apart.sign sign, fun first same => by cases same; exact sign⟩

mutual

private theorem apart_lexemes : ∀ (value : Json) {rest : List Lexeme}, Follows rest →
    Apart (value.lexemes ++ rest)
  | .null, _, follows | .bool _, _, follows | .number _, _, follows | .string _, _, follows =>
    .atom follows
  | .array [], _, follows | .object [], _, follows => .sign (follows.1.sign rfl) rfl
  | .array (item :: items), rest, follows => by
    rw [lexemes, List.cons_append, List.append_assoc, List.append_assoc]
    have closing : Follows ([.closeArray] ++ rest) := .sign follows.1 rfl
    exact .sign (apart_lexemes item (follows_moreItems items closing)) rfl
  | .object ((name, value) :: members), rest, follows => by
    rw [lexemes, List.cons_append, List.cons_append, List.cons_append, List.append_assoc,
      List.append_assoc]
    have closing : Follows ([.closeObject] ++ rest) := .sign follows.1 rfl
    have apart := apart_lexemes value (follows_moreMembers members closing)
    exact .sign (.atom (.sign apart rfl)) rfl

private theorem follows_moreItems : ∀ (items : List Json) {rest : List Lexeme}, Follows rest →
    Follows (moreItems items ++ rest)
  | [], _, follows => follows
  | item :: items, rest, follows => by
    rw [moreItems, List.cons_append, List.append_assoc]
    exact .sign (apart_lexemes item (follows_moreItems items follows)) rfl

private theorem follows_moreMembers : ∀ (members : List (Option String × Json))
    {rest : List Lexeme}, Follows rest → Follows (moreMembers members ++ rest)
  | [], _, follows => follows
  | (name, value) :: members, rest, follows => by
    rw [moreMembers, List.cons_append, List.cons_append, List.cons_append, List.append_assoc]
    have apart := apart_lexemes value (follows_moreMembers members follows)
    exact .sign (.atom (.sign apart rfl)) rfl

end

/-- The first lexeme of a value ends no array, so the first item of one is read like any other. -/
private theorem advanceAll_first (items : List Json) (stack : List Frame) (value : Json)
    (rest : List Lexeme) :
    advanceAll (.first (.array items :: stack)) (value.lexemes ++ rest) =
      advanceAll (.value (.array items :: stack)) (value.lexemes ++ rest) := by
  match value with
  | .null | .bool _ | .number _ | .string _ => rfl
  | .array [] | .array (_ :: _) | .object [] | .object (_ :: _) => rfl

mutual

/-- After its lexemes a value is delivered, whatever is open. -/
theorem advanceAll_lexemes : ∀ (value : Json) (stack : List Frame) (rest : List Lexeme),
    advanceAll (.value stack) (value.lexemes ++ rest) =
      (deliver value stack).bind (advanceAll · rest)
  | .null, _, _ | .bool _, _, _ | .number _, _, _ | .string _, _, _ => rfl
  | .array [], _, _ | .object [], _, _ => rfl
  | .array (item :: items), stack, rest => by
    rw [lexemes, List.cons_append, List.append_assoc, List.append_assoc]
    calc advanceAll (.value stack) (.openArray :: _)
        = advanceAll (.first (.array [] :: stack))
            (item.lexemes ++ (moreItems items ++ ([.closeArray] ++ rest))) := rfl
      _ = advanceAll (.next (.array [item] :: stack))
            (moreItems items ++ ([.closeArray] ++ rest)) := by
        rw [advanceAll_first, advanceAll_lexemes item]
        rfl
      _ = (deliver (.array (item :: items)) stack).bind (advanceAll · rest) :=
        advanceAll_moreItems items [item] stack rest
  | .object ((name, value) :: members), stack, rest => by
    rw [lexemes, List.cons_append, List.cons_append, List.cons_append, List.append_assoc,
      List.append_assoc]
    calc advanceAll (.value stack) (.openObject :: _)
        = advanceAll (.value (.member [] name :: stack))
            (value.lexemes ++ (moreMembers members ++ ([.closeObject] ++ rest))) := rfl
      _ = advanceAll (.next (.object [(name, value)] :: stack))
            (moreMembers members ++ ([.closeObject] ++ rest)) := by
        rw [advanceAll_lexemes value]
        rfl
      _ = (deliver (.object ((name, value) :: members)) stack).bind (advanceAll · rest) :=
        advanceAll_moreMembers members [(name, value)] stack rest

private theorem advanceAll_moreItems : ∀ (items read : List Json) (stack : List Frame)
    (rest : List Lexeme),
    advanceAll (.next (.array read :: stack)) (moreItems items ++ ([.closeArray] ++ rest)) =
      (deliver (.array (read.reverse ++ items)) stack).bind (advanceAll · rest)
  | [], read, stack, rest => by
    rw [List.append_nil]
    rfl
  | item :: items, read, stack, rest => by
    rw [moreItems, List.cons_append, List.append_assoc]
    calc advanceAll (.next (.array read :: stack)) (.comma :: _)
        = advanceAll (.value (.array read :: stack))
            (item.lexemes ++ (moreItems items ++ ([.closeArray] ++ rest))) := rfl
      _ = advanceAll (.next (.array (item :: read) :: stack))
            (moreItems items ++ ([.closeArray] ++ rest)) := by
        rw [advanceAll_lexemes item]
        rfl
      _ = (deliver (.array (read.reverse ++ item :: items)) stack).bind (advanceAll · rest) := by
        rw [advanceAll_moreItems items, List.reverse_cons, List.append_assoc]
        rfl

private theorem advanceAll_moreMembers : ∀ (members read : List (Option String × Json))
    (stack : List Frame) (rest : List Lexeme),
    advanceAll (.next (.object read :: stack)) (moreMembers members ++ ([.closeObject] ++ rest)) =
      (deliver (.object (read.reverse ++ members)) stack).bind (advanceAll · rest)
  | [], read, stack, rest => by
    rw [List.append_nil]
    rfl
  | (name, value) :: members, read, stack, rest => by
    rw [moreMembers, List.cons_append, List.cons_append, List.cons_append, List.append_assoc]
    calc advanceAll (.next (.object read :: stack)) (.comma :: .atom (.string name) :: .colon :: _)
        = advanceAll (.value (.member read name :: stack))
            (value.lexemes ++ (moreMembers members ++ ([.closeObject] ++ rest))) := rfl
      _ = advanceAll (.next (.object ((name, value) :: read) :: stack))
            (moreMembers members ++ ([.closeObject] ++ rest)) := by
        rw [advanceAll_lexemes value]
        rfl
      _ = (deliver (.object (read.reverse ++ (name, value) :: members)) stack).bind
            (advanceAll · rest) := by
        rw [advanceAll_moreMembers members, List.reverse_cons, List.append_assoc]
        rfl

end

/-- A text is read as the value that it spells. -/
theorem parse?_of_spells {text : String} {value : Json} (spells : Spells text value) :
    parse? text = some value := by
  have last : Follows [] := ⟨.nil, by simp⟩
  have apart : Apart value.lexemes := by simpa using apart_lexemes value last
  have read : lexemes? text.toList = some value.lexemes := WritesLexemes.read spells apart le_rfl
  have whole : advanceAll (.value []) value.lexemes = some (.done value) := by
    simpa [deliver, advanceAll] using advanceAll_lexemes value [] []
  simp [parse?, read, whole]

end SchemaGuide.Json
