import SchemaGuide.Json.Printer
import SchemaGuide.Proofs.Json.Reading

/-! A printed value is spelled by its text, so reading the text gives the value back. The values
are those in which every string spells a text, as half of a pair cannot be printed, and every
number is written as one. -/
namespace SchemaGuide.Json

mutual

/-- Every string in the value spells a text, and every number is one. -/
def IsPrintable : Json → Prop
  | .null | .bool _ => True
  | .number text => IsNumeral text.toList
  | .string value => value.isSome = true
  | .array items => arePrintable items
  | .object members => membersPrintable members

/-- The values can be printed. -/
def arePrintable : List Json → Prop
  | [] => True
  | item :: rest => item.IsPrintable ∧ arePrintable rest

/-- The members can be printed. -/
def membersPrintable : List (Option String × Json) → Prop
  | [] => True
  | (name, value) :: rest => name.isSome = true ∧ value.IsPrintable ∧ membersPrintable rest

end

/-! ## Strings -/

private theorem writesChar_stringChar (c : Char) : WritesChar c (stringChar c) := by
  rw [stringChar]
  split
  · subst c
    exact .short (by decide)
  · split
    · subst c
      exact .short (by decide)
    · split
      · rename_i control
        have writes : ∀ digit < 16, WritesHex digit (hexDigitChar digit) := by
          unfold WritesHex
          decide
        have code := WritesCode.mk (writes 0 (by omega)) (writes 0 (by omega))
          (writes (c.toNat / 16) (by omega)) (writes (c.toNat % 16) (by omega))
        have same : ((0 * 16 + 0) * 16 + c.toNat / 16) * 16 + c.toNat % 16 = c.toNat := by omega
        rw [same] at code
        exact .code code
      · rename_i unquoted unescaped printable
        exact .plain (Nat.le_of_not_lt printable) unquoted unescaped

private theorem writesText_flatMap : ∀ text : List Char, WritesText text (text.flatMap stringChar)
  | [] => .nil
  | c :: rest => .cons (writesChar_stringChar c) (writesText_flatMap rest)

private theorem writesLexeme_printString {text : Option String} (spelled : text.isSome = true) :
    WritesLexeme (.atom (.string text)) (printString text) := by
  obtain ⟨text, rfl⟩ := Option.isSome_iff_exists.1 spelled
  exact .string (writesText_flatMap text.toList)

/-! ## Values -/

private theorem WritesLexeme.alone {lexeme : Lexeme} {written : List Char}
    (writes : WritesLexeme lexeme written) : WritesLexemes [lexeme] written := by
  simpa using WritesLexemes.cons writes .nil

private theorem WritesLexemes.append {before after : List Lexeme} {first second : List Char}
    (writesBefore : WritesLexemes before first) (writesAfter : WritesLexemes after second) :
    WritesLexemes (before ++ after) (first ++ second) := by
  induction writesBefore with
  | nil => exact writesAfter
  | blank isBlank _ ih => exact .blank isBlank ih
  | cons first _ ih =>
    rw [List.append_assoc]
    exact .cons first ih

private theorem WritesLexemes.sign {lexeme : Lexeme} {c : Char} {lexemes : List Lexeme}
    {chars : List Char} (known : (lexeme, c) ∈ signs) (others : WritesLexemes lexemes chars) :
    WritesLexemes (lexeme :: lexemes) (c :: chars) :=
  .cons (.sign known) others

/-- The lexemes of all items of an array. -/
private def allItems : List Json → List Lexeme
  | [] => []
  | item :: rest => item.lexemes ++ moreItems rest

/-- The lexemes of all members of an object. -/
private def allMembers : List (Option String × Json) → List Lexeme
  | [] => []
  | (name, value) :: rest =>
    .atom (.string name) :: .colon :: (value.lexemes ++ moreMembers rest)

private theorem lexemes_array (items : List Json) :
    (Json.array items).lexemes = .openArray :: (allItems items ++ [.closeArray]) := by
  cases items with
  | nil => rfl
  | cons item rest => rw [lexemes, allItems, List.append_assoc]

private theorem lexemes_object (members : List (Option String × Json)) :
    (Json.object members).lexemes = .openObject :: (allMembers members ++ [.closeObject]) := by
  cases members with
  | nil => rfl
  | cons member rest =>
    rw [lexemes, allMembers, List.cons_append, List.cons_append, List.append_assoc]

private theorem writes_member {name : Option String} {lexemes : List Lexeme} {chars : List Char}
    (spelled : name.isSome = true) (others : WritesLexemes lexemes chars) :
    WritesLexemes (.atom (.string name) :: .colon :: lexemes) (printString name ++ ':' :: chars) :=
  .cons (writesLexeme_printString spelled) (.sign (by simp [signs]) others)

mutual

private theorem writes_printValue : ∀ value : Json, value.IsPrintable →
    WritesLexemes value.lexemes (printValue value)
  | .null, _ => WritesLexeme.null.alone
  | .bool true, _ => WritesLexeme.yes.alone
  | .bool false, _ => WritesLexeme.no.alone
  | .number _, printable => (WritesLexeme.number printable).alone
  | .string _, printable => (writesLexeme_printString printable).alone
  | .array items, printable => by
    rw [lexemes_array, printValue]
    exact .sign (by simp [signs])
      ((writes_printItems items printable).append (.sign (by simp [signs]) .nil))
  | .object members, printable => by
    rw [lexemes_object, printValue]
    exact .sign (by simp [signs])
      ((writes_printMembers members printable).append (.sign (by simp [signs]) .nil))

private theorem writes_printItems : ∀ items : List Json, arePrintable items →
    WritesLexemes (allItems items) (printItems items)
  | [], _ => .nil
  | [item], printable => by
    rw [allItems, moreItems, List.append_nil, printItems]
    exact writes_printValue item printable.1
  | item :: next :: rest, printable =>
    (writes_printValue item printable.1).append
      (.sign (by simp [signs]) (writes_printItems (next :: rest) printable.2))

private theorem writes_printMembers : ∀ members : List (Option String × Json),
    membersPrintable members → WritesLexemes (allMembers members) (printMembers members)
  | [], _ => .nil
  | [(name, value)], printable => by
    rw [allMembers, moreMembers, List.append_nil, printMembers]
    exact writes_member printable.1 (writes_printValue value printable.2.1)
  | (name, value) :: next :: rest, printable =>
    writes_member printable.1 ((writes_printValue value printable.2.1).append
      (.sign (by simp [signs]) (writes_printMembers (next :: rest) printable.2.2)))

end

/-- The printed text of a value spells it. -/
theorem spells_print {value : Json} (printable : value.IsPrintable) :
    Spells (print value) value := by
  simpa [Spells, print] using writes_printValue value printable

/-- A printed value is read back. -/
theorem parse?_print {value : Json} (printable : value.IsPrintable) :
    parse? (print value) = some value :=
  parse?_of_spells (spells_print printable)

end SchemaGuide.Json
