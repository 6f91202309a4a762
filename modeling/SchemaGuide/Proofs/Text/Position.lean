import Mathlib.Data.List.TakeWhile
import SchemaGuide.Query.Context

/-! Positions of an editor. A position is a line and, in it, a column in code units of UTF-16. It
leads to the last boundary between characters that is not behind it, so no position lies inside of
a character or behind the end of its line, and the position of a boundary leads back to it. -/
namespace SchemaGuide.Text

/-! ## Boundaries -/

/-- The characters are those of the text in front of the byte. -/
structure EndsAt (text : String) (before : List Char) (offset : Nat) : Prop where
  starts : before <+: text.toList
  bytes : (String.ofList before).utf8ByteSize = offset

theorem byteLength_eq (chars : List Char) :
    byteLength chars = (String.ofList chars).utf8ByteSize := by
  induction chars with
  | nil => rfl
  | cons c rest ih =>
    rw [byteLength, ih, String.ofList_cons, String.utf8ByteSize_append,
      String.utf8ByteSize_singleton]

/-- The boundaries of a text are the bytes in front of which whole characters stand. -/
theorem is_valid_iff (text : String) (offset : Nat) :
    String.Pos.Raw.IsValid text ⟨offset⟩ ↔ ∃ before, EndsAt text before offset := by
  rw [String.Pos.Raw.isValid_iff_exists_append]
  constructor
  · rintro ⟨before, after, rfl, same⟩
    refine ⟨before.toList, by simp, ?_⟩
    rw [String.ofList_toList]
    exact (congrArg String.Pos.Raw.byteIdx same).symm
  · rintro ⟨before, ⟨after, whole⟩, rfl⟩
    refine ⟨String.ofList before, String.ofList after, ?_, rfl⟩
    rw [← String.ofList_append, whole, String.ofList_toList]

/-- Up to the byte where they end, the text consists of the characters. -/
theorem upToByte_of_prefix {before chars : List Char} (starts : before <+: chars) :
    upToByte (byteLength before) chars = before := by
  induction before generalizing chars with
  | nil =>
    cases chars with
    | nil => rfl
    | cons c rest =>
      have wide := c.utf8Size_pos
      rw [upToByte, if_neg (by rw [byteLength]; omega)]
  | cons c before ih =>
    cases chars with
    | nil => simp at starts
    | cons first rest =>
      obtain ⟨rfl, later⟩ := List.cons_prefix_cons.mp starts
      rw [byteLength, upToByte, if_pos (by omega), Nat.add_sub_cancel_left, ih later]

theorem byteLength_mono {before longer : List Char} (starts : before <+: longer) :
    byteLength before ≤ byteLength longer := by
  obtain ⟨more, rfl⟩ := starts
  induction before with
  | nil => exact Nat.zero_le _
  | cons c before ih => exact Nat.add_le_add_left ih _

/-! ## Positions of boundaries -/

/-- The line behind the characters: as many newlines are among them. -/
def lineOf (before : List Char) : Nat :=
  before.count '\n'

/-- The number of code units of characters. -/
def unitLength : List Char → Nat
  | [] => 0
  | c :: rest => codeUnits c + unitLength rest

/-- The column behind the characters: the code units since the last newline. -/
def columnOf (before : List Char) : Nat :=
  unitLength (before.reverse.takeWhile (· != '\n'))

/-- The lexicographic order of positions. -/
def Reaches (line column farLine farColumn : Nat) : Prop :=
  line < farLine ∨ line = farLine ∧ column ≤ farColumn

theorem codeUnits_pos (c : Char) : 0 < codeUnits c := by
  unfold codeUnits
  split <;> omega

theorem lineOf_cons (c : Char) (before : List Char) :
    lineOf (c :: before) = lineOf before + if c = '\n' then 1 else 0 := by
  simp [lineOf, List.count_cons]

theorem unitLength_append (chars more : List Char) :
    unitLength (chars ++ more) = unitLength chars + unitLength more := by
  induction chars with
  | nil => rw [List.nil_append, unitLength, Nat.zero_add]
  | cons c rest ih => rw [List.cons_append, unitLength, unitLength, ih, Nat.add_assoc]

/-- A character counts for the column as long as no newline comes with it or behind it. -/
theorem columnOf_cons (c : Char) (before : List Char) :
    columnOf (c :: before) =
      columnOf before + if c = '\n' ∨ 0 < lineOf before then 0 else codeUnits c := by
  unfold columnOf lineOf
  rw [List.reverse_cons]
  by_cases newline : '\n' ∈ before
  · have shorter :
        (before.reverse.takeWhile (· != '\n')).length ≠ before.reverse.length := by
      intro same
      have starts : before.reverse.takeWhile (· != '\n') <+: before.reverse :=
        List.takeWhile_prefix _
      have whole := starts.eq_of_length same
      have kept := List.takeWhile_eq_self_iff.mp whole '\n' (List.mem_reverse.mpr newline)
      simp at kept
    rw [List.takeWhile_append, if_neg shorter, if_pos (.inr (List.count_pos_iff.mpr newline)),
      Nat.add_zero]
  · have plain : ∀ other ∈ before.reverse, (other != '\n') = true := by
      intro other member
      have different : other ≠ '\n' := fun same => newline (by simpa [same] using member)
      simpa using different
    have none : before.count '\n' = 0 := List.count_eq_zero.mpr newline
    rw [List.takeWhile_append_of_pos plain, List.takeWhile_eq_self_iff.mpr plain, none]
    by_cases here : c = '\n' <;> simp [here, unitLength_append, unitLength]

/-! ## Characters in front of a position -/

/-- The longest start of a line with at most that many code units. -/
def upToColumn : Nat → List Char → List Char
  | _, [] => []
  | units, c :: rest =>
    if c = '\n' || units < codeUnits c then []
    else c :: upToColumn (units - codeUnits c) rest

/-- The characters in front of a position. -/
def upToPosition (column : Nat) : Nat → List Char → List Char
  | 0, chars => upToColumn column chars
  | _ + 1, [] => []
  | line + 1, c :: rest =>
    c :: upToPosition column (if c = '\n' then line else line + 1) rest

theorem columnOffset_eq (units : Nat) (chars : List Char) :
    columnOffset units chars = byteLength (upToColumn units chars) := by
  induction chars generalizing units with
  | nil => rfl
  | cons c rest ih =>
    unfold columnOffset upToColumn
    split
    · rfl
    · rw [ih, byteLength]

theorem positionOffset_eq (column line : Nat) (chars : List Char) :
    positionOffset column line chars = byteLength (upToPosition column line chars) := by
  induction chars generalizing line with
  | nil => cases line <;> rfl
  | cons c rest ih =>
    cases line with
    | zero => exact columnOffset_eq column (c :: rest)
    | succ line => rw [positionOffset, upToPosition, byteLength, ih]

private theorem prefix_upToColumn_iff {before chars : List Char} {column : Nat} :
    before <+: upToColumn column chars ↔
      before <+: chars ∧ lineOf before = 0 ∧ columnOf before ≤ column := by
  induction before generalizing column chars with
  | nil => simp [lineOf, columnOf, unitLength]
  | cons c before ih =>
    cases chars with
    | nil => simp [upToColumn]
    | cons first rest =>
      have line := lineOf_cons c before
      have position := columnOf_cons c before
      unfold upToColumn
      split
      · rename_i ends
        refine iff_of_false (by simp) fun ⟨starts, noLine, near⟩ => ?_
        obtain ⟨rfl, later⟩ := List.cons_prefix_cons.mp starts
        have other : c ≠ '\n' := by
          rintro rfl
          rw [if_pos rfl] at line
          omega
        have far : column < codeUnits c := by simpa [other] using ends
        rw [if_neg other] at line
        rw [if_neg (by simp only [other, false_or]; omega)] at position
        omega
      · rename_i goesOn
        rw [List.cons_prefix_cons, List.cons_prefix_cons, ih]
        have kept : first ≠ '\n' ∧ codeUnits first ≤ column := by simpa using goesOn
        constructor
        · rintro ⟨rfl, starts, noLine, near⟩
          rw [if_neg kept.1] at line
          rw [if_neg (by simp [kept.1, noLine])] at position
          exact ⟨⟨rfl, starts⟩, by omega, by omega⟩
        · rintro ⟨⟨rfl, starts⟩, noLine, near⟩
          rw [if_neg kept.1] at line
          rw [if_neg (by simp [kept.1]; omega)] at position
          exact ⟨rfl, starts, by omega, by omega⟩

/-- A start of the text is in front of a position exactly if its own position is not behind it. -/
theorem prefix_upToPosition_iff {before chars : List Char} {line column : Nat} :
    before <+: upToPosition column line chars ↔
      before <+: chars ∧ Reaches (lineOf before) (columnOf before) line column := by
  induction chars generalizing line before with
  | nil =>
    have nothing : upToPosition column line [] = [] := by cases line <;> rfl
    rw [nothing]
    constructor
    · intro starts
      obtain rfl := List.prefix_nil.mp starts
      refine ⟨List.prefix_rfl, ?_⟩
      simp only [Reaches, lineOf, columnOf, List.count_nil, List.reverse_nil, List.takeWhile_nil,
        unitLength]
      omega
    · exact And.left
  | cons first rest ih =>
    cases line with
    | zero =>
      rw [upToPosition, prefix_upToColumn_iff]
      simp [Reaches]
    | succ line =>
      cases before with
      | nil => simp [Reaches, lineOf]
      | cons c before =>
        rw [upToPosition, List.cons_prefix_cons, List.cons_prefix_cons, ih, and_assoc]
        refine and_congr_right fun same => and_congr_right fun _ => ?_
        subst same
        rw [lineOf_cons, columnOf_cons]
        -- Behind the first line, the characters of that line count for no column.
        by_cases newline : c = '\n'
        · simp [Reaches, newline]
        · simp only [Reaches, newline, if_false, false_or, Nat.add_zero]
          refine or_congr_right (and_congr_right fun reached => ?_)
          rw [if_pos (by omega), Nat.add_zero]

theorem upToPosition_prefix (column line : Nat) (chars : List Char) :
    upToPosition column line chars <+: chars :=
  (prefix_upToPosition_iff.mp List.prefix_rfl).1

/-- A line that there is starts somewhere. -/
private theorem exists_start_of_line {chars : List Char} {line : Nat}
    (inside : line ≤ lineOf chars) :
    ∃ start, start <+: chars ∧ lineOf start = line ∧ columnOf start = 0 := by
  induction chars generalizing line with
  | nil =>
    have first : line = 0 := Nat.le_zero.mp inside
    exact ⟨[], List.prefix_rfl, first.symm, rfl⟩
  | cons c rest ih =>
    cases line with
    | zero => exact ⟨[], List.nil_prefix, rfl, rfl⟩
    | succ line =>
      rw [lineOf_cons] at inside
      by_cases newline : c = '\n'
      · rw [if_pos newline] at inside
        obtain ⟨start, starts, lines, column⟩ := ih (Nat.le_of_succ_le_succ inside)
        refine ⟨c :: start, List.cons_prefix_cons.mpr ⟨rfl, starts⟩, ?_, ?_⟩
        · rw [lineOf_cons, lines, if_pos newline]
        · rw [columnOf_cons, column, if_pos (.inl newline)]
      · rw [if_neg newline] at inside
        obtain ⟨start, starts, lines, column⟩ := ih inside
        refine ⟨c :: start, List.cons_prefix_cons.mpr ⟨rfl, starts⟩, ?_, ?_⟩
        · rw [lineOf_cons, lines, if_neg newline]
        · rw [columnOf_cons, column, if_pos (.inr (by omega))]

/-- Where there is such a line, the characters end in it, not behind the column. -/
theorem position_of_upToPosition {chars : List Char} {line : Nat} (column : Nat)
    (inside : line ≤ lineOf chars) :
    lineOf (upToPosition column line chars) = line ∧
      columnOf (upToPosition column line chars) ≤ column := by
  obtain ⟨start, starts, lines, first⟩ := exists_start_of_line inside
  have reached := (prefix_upToPosition_iff.mp
    (List.prefix_refl (upToPosition column line chars))).2
  have included : start <+: upToPosition column line chars :=
    prefix_upToPosition_iff.mpr ⟨starts, .inr ⟨lines, by omega⟩⟩
  have atLeast : line ≤ lineOf (upToPosition column line chars) := by
    have counted : lineOf start ≤ lineOf (upToPosition column line chars) :=
      included.sublist.count_le '\n'
    omega
  unfold Reaches at reached
  omega

/-- More characters are at a later position. -/
private theorem not_reaches_of_longer (before : List Char) (c : Char) (more : List Char) :
    ¬ Reaches (lineOf (before ++ c :: more)) (columnOf (before ++ c :: more)) (lineOf before)
      (columnOf before) := by
  induction before with
  | nil =>
    have wide := codeUnits_pos c
    have firstLine : lineOf [] = 0 := rfl
    have firstColumn : columnOf [] = 0 := rfl
    rw [List.nil_append, lineOf_cons, columnOf_cons]
    unfold Reaches
    by_cases newline : c = '\n'
    · rw [if_pos newline]
      omega
    · simp only [newline, if_false, false_or]
      split <;> omega
  | cons first before ih =>
    have lines : lineOf before ≤ lineOf (before ++ c :: more) :=
      (List.sublist_append_left before (c :: more)).count_le '\n'
    rw [List.cons_append, lineOf_cons, lineOf_cons, columnOf_cons, columnOf_cons]
    by_cases newline : first = '\n'
    · simpa [Reaches, newline] using ih
    · unfold Reaches at ih ⊢
      simp only [newline, if_false, false_or]
      split <;> split <;> omega

/-- The position of a boundary is right behind it. -/
theorem upToPosition_of {before chars : List Char} (starts : before <+: chars) :
    upToPosition (columnOf before) (lineOf before) chars = before := by
  have included : before <+: upToPosition (columnOf before) (lineOf before) chars :=
    prefix_upToPosition_iff.mpr ⟨starts, .inr ⟨rfl, Nat.le_refl _⟩⟩
  have reached := (prefix_upToPosition_iff.mp
    (List.prefix_refl (upToPosition (columnOf before) (lineOf before) chars))).2
  obtain ⟨more, whole⟩ := included
  cases more with
  | nil => rw [← whole, List.append_nil]
  | cons c more =>
    rw [← whole] at reached
    exact absurd reached (not_reaches_of_longer before c more)

theorem Reaches.trans {line column nextLine nextColumn farLine farColumn : Nat}
    (one : Reaches line column nextLine nextColumn)
    (two : Reaches nextLine nextColumn farLine farColumn) :
    Reaches line column farLine farColumn := by
  unfold Reaches at *
  omega

theorem upToPosition_mono {line column farLine farColumn : Nat} (chars : List Char)
    (reaches : Reaches line column farLine farColumn) :
    upToPosition column line chars <+: upToPosition farColumn farLine chars := by
  obtain ⟨starts, reached⟩ := prefix_upToPosition_iff.mp
    (List.prefix_refl (upToPosition column line chars))
  exact prefix_upToPosition_iff.mpr ⟨starts, reached.trans reaches⟩

/-- **Positions lead to boundaries.** In each text, a position leads to a boundary between
characters, and what is asked for there follows from the characters in front of it. Where there is
such a line, the boundary is the last one in it that is not behind the column, and otherwise it is
the end of the text. The position of a boundary leads back to it, and a later position leads to no
earlier boundary. -/
theorem positions_lead_to_boundaries (text : String) :
    (∀ line column, ∃ before,
      let offset := positionOffset column line text.toList
      EndsAt text before offset ∧ String.Pos.Raw.IsValid text ⟨offset⟩ ∧
        offset ≤ text.utf8ByteSize ∧
        (line ≤ text.toList.count '\n' → lineOf before = line ∧ columnOf before ≤ column ∧
          ∀ other boundary, EndsAt text other boundary → lineOf other = line →
            columnOf other ≤ column → boundary ≤ offset) ∧
        (text.toList.count '\n' < line → offset = text.utf8ByteSize) ∧
        Query.contextAt? text offset = Query.contextAfter? before) ∧
    (∀ boundary, String.Pos.Raw.IsValid text ⟨boundary⟩ → ∃ before,
      EndsAt text before boundary ∧
        positionOffset (columnOf before) (lineOf before) text.toList = boundary) ∧
    ∀ line column farLine farColumn, Reaches line column farLine farColumn →
      positionOffset column line text.toList ≤ positionOffset farColumn farLine text.toList := by
  refine ⟨fun line column => ⟨upToPosition column line text.toList, ?_⟩, fun boundary valid => ?_,
    fun line column farLine farColumn reaches => ?_⟩
  · have starts := upToPosition_prefix column line text.toList
    have whole : byteLength text.toList = text.utf8ByteSize := by
      rw [byteLength_eq, String.ofList_toList]
    rw [positionOffset_eq]
    have ends : EndsAt text (upToPosition column line text.toList)
        (byteLength (upToPosition column line text.toList)) :=
      ⟨starts, (byteLength_eq _).symm⟩
    refine ⟨ends, (is_valid_iff text _).mpr ⟨_, ends⟩, ?_, fun inside => ?_, fun outside => ?_, ?_⟩
    · rw [← whole]
      exact byteLength_mono starts
    · obtain ⟨sameLine, near⟩ := position_of_upToPosition column inside
      refine ⟨sameLine, near, fun other boundary otherEnds inLine notFar => ?_⟩
      rw [← otherEnds.bytes, ← byteLength_eq]
      exact byteLength_mono
        (prefix_upToPosition_iff.mpr ⟨otherEnds.starts, .inr ⟨inLine, notFar⟩⟩)
    · have included : text.toList <+: upToPosition column line text.toList :=
        prefix_upToPosition_iff.mpr ⟨List.prefix_rfl, .inl outside⟩
      rw [← whole]
      exact Nat.le_antisymm (byteLength_mono starts) (byteLength_mono included)
    · rw [Query.contextAt?, upToByte_of_prefix starts]
  · obtain ⟨before, ends⟩ := (is_valid_iff text boundary).mp valid
    refine ⟨before, ends, ?_⟩
    rw [positionOffset_eq, upToPosition_of ends.starts, byteLength_eq, ends.bytes]
  · rw [positionOffset_eq, positionOffset_eq]
    exact byteLength_mono (upToPosition_mono text.toList reaches)

/-- The column is in the middle of a character that is two code units long. -/
example : positionOffset 2 1 "a\nb😀c".toList = 3 := by decide

end SchemaGuide.Text
