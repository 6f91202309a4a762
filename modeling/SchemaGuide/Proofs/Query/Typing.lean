import SchemaGuide.Proofs.Query.Draft

/-! What is asked for while a text is being typed. The characters that come next may go on with
what the lexer is in at the end of the text: a name grows, a string takes them along, a third
quotation mark turns an empty string into the start of a block string. None of that touches a
bracket that was read before, and nothing but a bracket opens or closes anything. So what is
asked for stays the same up to the next bracket, wherever in a lexeme the text ends. -/
namespace SchemaGuide.Query

/-- The signs that open and close. -/
def brackets : List Char := ['{', '}', '(', ')', '[', ']']

namespace Tracker

/-- The brackets that are open behind tokens, which stand last first. -/
def framesBehind (read : List Token) : List Frame :=
  (read.reverse.foldl step initial).frames

theorem framesBehind_cons (token : Token) (read : List Token) :
    framesBehind (token :: read) = ((read.reverse.foldl step initial).step token).frames := by
  simp [framesBehind]

/-- A name opens and closes nothing, whatever word it is. -/
theorem framesBehind_name (word : String) (read : List Token) :
    framesBehind (.name word :: read) = framesBehind read := by
  rw [framesBehind_cons]
  exact readName_frames _ word

theorem framesBehind_spread (read : List Token) :
    framesBehind (.spread :: read) = framesBehind read :=
  framesBehind_cons .spread read

/-- Neither does a sign that is no bracket. -/
theorem framesBehind_sign {sign : Char} (plain : sign ∉ brackets) (read : List Token) :
    framesBehind (.punctuator sign :: read) = framesBehind read := by
  simp only [brackets, List.mem_cons, List.not_mem_nil, or_false, not_or] at plain
  rw [framesBehind_cons]
  simp [step, readPunctuator, plain, framesBehind]

end Tracker

namespace Lexer

open Tracker

/-- A character that starts something opens and closes nothing, unless it is a bracket. -/
theorem framesBehind_start {c : Char} (plain : c ∉ brackets) (read : List Token) :
    framesBehind (start read c).read = framesBehind read := by
  unfold start
  split
  · rfl
  split
  · rfl
  split
  · rfl
  split
  · rfl
  split
  · exact framesBehind_sign plain read
  split
  · exact framesBehind_name _ read
  · rfl

/-- One more character that is no bracket opens and closes nothing, whatever the lexer is in. -/
theorem framesBehind_step (lexer : Lexer) {c : Char} (plain : c ∉ brackets) :
    framesBehind (lexer.step c).read = framesBehind lexer.read := by
  obtain ⟨mode, read⟩ := lexer
  match mode with
  | .between => exact framesBehind_start plain read
  | .name chars =>
    by_cases part : isNamePart c = true
    · -- The name grows, and neither the shorter nor the longer one counts.
      have grown : step ⟨.name chars, read⟩ c = ⟨.name (c :: chars), read⟩ := by simp [step, part]
      rw [grown]
      exact (framesBehind_name _ read).trans (framesBehind_name _ read).symm
    · have ended : step ⟨.name chars, read⟩ c = start (nameToken chars :: read) c := by
        simp [step, part]
      rw [ended]
      exact framesBehind_start plain _
  | .variable =>
    simp only [step]
    split
    · rfl
    · exact framesBehind_start plain read
  | .dots count =>
    simp only [step]
    split
    · exact framesBehind_start plain read
    split
    · exact framesBehind_spread read
    · rfl
  | .comment =>
    simp only [step]
    split <;> rfl
  | .quote =>
    simp only [step, insideString]
    repeat' split
    all_goals rfl
  | .twoQuotes =>
    simp only [step]
    split
    · rfl
    · exact framesBehind_start plain read
  | .string =>
    simp only [step, insideString]
    repeat' split
    all_goals rfl
  | .stringEscape | .blockEscape => rfl
  | .block quotes =>
    simp only [step, insideBlock]
    repeat' split
    all_goals rfl

theorem framesBehind_typed {typed : List Char} (plain : ∀ c ∈ typed, c ∉ brackets)
    (lexer : Lexer) :
    framesBehind (typed.foldl step lexer).read = framesBehind lexer.read := by
  induction typed generalizing lexer with
  | nil => rfl
  | cons c rest ih =>
    rw [List.foldl_cons, ih fun other member => plain other (by simp [member])]
    exact framesBehind_step lexer (plain c (by simp))

end Lexer

/-- What is asked for behind a text is told by the brackets that are open there. -/
theorem contextAfter_congr {first second : List Char}
    (same : Tracker.framesBehind (first.foldl Lexer.step .initial).read =
      Tracker.framesBehind (second.foldl Lexer.step .initial).read) :
    contextAfter? first = contextAfter? second := by
  rw [contextAfter?, contextAfter?, tokens, tokens, Lexer.finish_eq_read, Lexer.finish_eq_read]
  exact Tracker.context_of_frames same

/-- **The context changes only at brackets.** Behind any text, well formed or not, typing
characters that are no brackets leaves what is asked for as it was. -/
theorem context_kept_up_to_bracket (text typed : String)
    (plain : ∀ c ∈ typed.toList, c ∉ brackets) :
    contextAt? (text ++ typed) (Text.byteLength (text ++ typed).toList) =
      contextAt? text (Text.byteLength text.toList) := by
  rw [contextAt?, contextAt?, upToByte_of_length, upToByte_of_length, String.toList_append]
  apply contextAfter_congr
  rw [List.foldl_append]
  exact Lexer.framesBehind_typed plain _

/-- An argument whose value is an empty string so far. -/
private def emptyString : String := "\x7b a(b: \x22\x22"

/-- A mark that makes a block string of it, the end of that string, and words behind it. -/
private def closedBlock : String := "\x22 : \\\x22\x22\x22 \x22\x22\x22 c: ... on @query #"

/-- The empty string becomes a block string, and still an argument is asked for. -/
theorem context_kept_behind_empty_string :
    (∀ c ∈ closedBlock.toList, c ∉ brackets) ∧
      contextAt? emptyString (Text.byteLength emptyString.toList) =
        some (.arguments [.operation "query"] "a") ∧
      contextAt? (emptyString ++ closedBlock)
          (Text.byteLength (emptyString ++ closedBlock).toList) =
        contextAt? emptyString (Text.byteLength emptyString.toList) := by
  have none : closedBlock.toList.all (!brackets.contains ·) = true := by decide
  have plain : ∀ c ∈ closedBlock.toList, c ∉ brackets := by simpa using none
  have asked : contextAt? emptyString (Text.byteLength emptyString.toList) =
      some (.arguments [.operation "query"] "a") := by decide
  exact ⟨plain, asked, context_kept_up_to_bracket emptyString closedBlock plain⟩

end SchemaGuide.Query
