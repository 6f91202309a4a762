import SchemaGuide.Json.Printer
import SchemaGuide.Settings.Basic

/-! Settings that name a schema. Every path can be named, whatever characters it has: a string with
escapes writes each of them in a form that is read back. -/
namespace SchemaGuide

namespace Toml

/-- A character as it is written inside of a string. -/
def writeChar (c : Char) : List Char :=
  if c = '\x22' ∨ c = '\\' then ['\\', c]
  else if isPrintable c then [c]
  else ['\\', 'u', '0', '0', Json.hexDigitChar (c.toNat / 16), Json.hexDigitChar (c.toNat % 16)]

/-- A text as a string in one line. -/
def writeString (chars : List Char) : List Char :=
  '\x22' :: (chars.flatMap writeChar ++ ['\x22'])

theorem code_of_not_printable {c : Char} (control : isPrintable c = false) : c.toNat < 128 := by
  simp only [isPrintable, Bool.or_eq_false_iff, Bool.and_eq_false_iff, decide_eq_false_iff_not]
    at control
  omega

/-- A character is read back from what it is written as. -/
theorem escaped_writeChar (c : Char) (rest : List Char) :
    escaped? false .text (writeChar c ++ rest) = (escaped? false .text rest).map (cons c) := by
  rw [writeChar]
  split
  · rename_i marked
    rcases marked with rfl | rfl
    · simp [escaped?, shortEscape?]
    · simp [escaped?, shortEscape?]
  · rename_i unmarked
    rw [not_or] at unmarked
    split
    · rename_i printable
      simp [escaped?, unmarked, printable]
    · rename_i control
      have low := code_of_not_printable (Bool.eq_false_iff.mpr control)
      have digits : ∀ code < 128,
          Text.hexDigit? (Json.hexDigitChar (code / 16)) = some (code / 16) ∧
            Text.hexDigit? (Json.hexDigitChar (code % 16)) = some (code % 16) := by
        decide
      obtain ⟨high, last⟩ := digits c.toNat low
      have zero : Text.hexDigit? '0' = some 0 := by decide
      have code : c.toNat / 16 * 16 + c.toNat % 16 = c.toNat := by omega
      have valid : charOfCode? c.toNat = some c := by
        have held : c.toNat.isValidChar := c.valid
        rw [charOfCode?, if_pos held, Char.ofNat_toNat]
      simp [escaped?, shortEscape?, escapeDigits?, zero, high, last, code, valid]

theorem escaped_write (chars rest : List Char) :
    escaped? false .text (chars.flatMap writeChar ++ '\x22' :: rest) = some (chars, rest) := by
  induction chars with
  | nil => simp [escaped?]
  | cons c more ih =>
    rw [List.flatMap_cons, List.append_assoc, escaped_writeChar, ih, Option.map_some, cons]

/-- What a character is written as starts with no quotation mark. -/
theorem writeChar_starts (c : Char) :
    ∃ first more, writeChar c = first :: more ∧ first ≠ '\x22' := by
  rw [writeChar]
  split
  · exact ⟨'\\', [c], rfl, by decide⟩
  · rename_i unmarked
    rw [not_or] at unmarked
    split
    · exact ⟨c, [], rfl, unmarked.1⟩
    · exact ⟨'\\', _, rfl, by decide⟩

/-- A string is read back. It is in one line, because no more than two quotation marks stand
together at its front. -/
theorem string_write (chars : List Char) : string? (writeString chars) = some (chars, []) := by
  rw [writeString]
  cases chars with
  | nil => rfl
  | cons c more =>
    have read := escaped_write (c :: more) []
    obtain ⟨first, others, written, apart⟩ := writeChar_starts c
    rw [List.flatMap_cons, written, List.append_assoc, List.cons_append] at read ⊢
    unfold string?
    split
    · rename_i _ _ same
      exact absurd (List.cons.inj (List.cons.inj same).2).1 apart
    · rename_i _ _ _ same
      rw [← (List.cons.inj same).2]
      exact read
    · rename_i same
      cases same
    · rename_i same
      cases same
    · rename_i _ other _ _
      exact absurd rfl (other _)

end Toml

namespace Settings

/-- The entry that gives the schema a value. -/
def schemaEntry (value : List Char) : List Char :=
  's' :: 'c' :: 'h' :: 'e' :: 'm' :: 'a' :: '=' :: value

/-- The text of settings that name a schema, and nothing else. -/
def naming (path : FilePath) : String :=
  String.ofList (schemaEntry (Toml.writeString path.text.toList))

theorem key_of_schemaEntry (value : List Char) :
    Toml.keyPath? (schemaEntry value) = some (["schema"], '=' :: value) := by
  have name : Toml.simpleKey? (schemaEntry value) =
      some (['s', 'c', 'h', 'e', 'm', 'a'], '=' :: value) := rfl
  rw [Toml.keyPath?, schemaEntry, List.length_cons, Toml.keyPathWithin?, ← schemaEntry, name]
  rfl

theorem value_of_string (steps : Nat) (chars : List Char) :
    Toml.value? (steps + 1) (Toml.writeString chars) =
      some (.string (String.ofList chars), []) := by
  have read := Toml.string_write chars
  rw [Toml.writeString] at read ⊢
  simp [Toml.value?, read]

theorem statement_of_schemaEntry (chars : List Char) :
    Toml.statement? (schemaEntry (Toml.writeString chars)) =
      some (.entry ["schema"] (.string (String.ofList chars)), []) := by
  have key := key_of_schemaEntry (Toml.writeString chars)
  have start : Toml.skipBlanks (Toml.writeString chars) = Toml.writeString chars := rfl
  rw [schemaEntry] at key ⊢
  simp [Toml.statement?, key, Toml.stepsFor, start, value_of_string]

theorem statements_of_schemaEntry (chars : List Char) :
    Toml.statements? (schemaEntry (Toml.writeString chars)) =
      some [.entry ["schema"] (.string (String.ofList chars))] := by
  have statement := statement_of_schemaEntry chars
  have line : Toml.skipGap false (schemaEntry (Toml.writeString chars)) =
      schemaEntry (Toml.writeString chars) := rfl
  have whole (count : Nat) :
      Toml.statementsWithin? (count + 2) (schemaEntry (Toml.writeString chars)) =
        some [.entry ["schema"] (.string (String.ofList chars))] := by
    rw [Toml.statementsWithin?, line]
    rw [schemaEntry] at statement ⊢
    dsimp only
    rw [statement]
    rfl
  exact whole _

/-- Settings can name any path. -/
theorem parse_naming (path : FilePath) :
    parse? (naming path) = some { standard with schema := some path } := by
  rw [parse?, Toml.parse?, naming, String.toList_ofList, statements_of_schemaEntry,
    String.ofList_toList]
  rfl

end Settings
end SchemaGuide
