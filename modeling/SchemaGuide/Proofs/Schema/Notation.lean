import SchemaGuide.Proofs.Html.Finding
import SchemaGuide.Schema.Signature

/-! The notation of types can be read. A notation is a name between marks: an opening bracket in
front for each list, and behind, from the inside out, a closing bracket for each list and a bang
for each wrapper that excludes null. The marks behind alone say how the name is wrapped, so a
reader only has to find where the name ends. Markup shows that by an element of its own, whatever
the name is; plain text does as long as the name holds no mark itself. -/
namespace SchemaGuide.TypeRef

open Html (escapeChars unescape Plain)

/-! ## Marks -/

/-- The marks in front of the name. -/
def opening : TypeRef → List Char
  | .named _ => []
  | .list inner => '[' :: inner.opening
  | .nonNull inner => inner.opening

/-- The marks behind the name, those of the inner wrappers first. -/
def closing : TypeRef → List Char
  | .named _ => []
  | .list inner => inner.closing ++ [']']
  | .nonNull inner => inner.closing ++ ['!']

/-- The marks of notations. -/
def marks : List Char := ['[', ']', '!']

theorem opening_eq (type : TypeRef) : ∀ c ∈ type.opening, c = '[' := by
  induction type with
  | named name => exact nofun
  | list inner ih => exact List.forall_mem_cons.mpr ⟨rfl, ih⟩
  | nonNull inner ih => exact ih

theorem closing_eq (type : TypeRef) : ∀ c ∈ type.closing, c = ']' ∨ c = '!' := by
  induction type with
  | named name => exact nofun
  | list inner ih => exact List.forall_mem_append.mpr ⟨ih, by simp⟩
  | nonNull inner ih => exact List.forall_mem_append.mpr ⟨ih, by simp⟩

/-- A notation in pieces is the name between its marks. -/
theorem pieces_eq {α : Type} (mark leaf : String → α) (type : TypeRef) :
    type.pieces mark leaf = type.opening.map (fun c => mark (String.singleton c)) ++
      leaf type.namedType :: type.closing.map (fun c => mark (String.singleton c)) := by
  induction type with
  | named name => rfl
  | list inner ih => simp [pieces, opening, closing, namedType, ih]
  | nonNull inner ih => simp [pieces, opening, closing, namedType, ih]

theorem toList_plain (type : TypeRef) :
    type.plain.toList = type.opening ++ type.namedType.toList ++ type.closing := by
  have alone (chars : List Char) :
      (chars.map String.singleton).flatMap String.toList = chars := by
    induction chars with
    | nil => rfl
    | cons c rest ih => simp [ih]
  rw [plain, pieces_eq, String.toList_join]
  simp [alone]

/-- What stands in front of a type name in markup. -/
def nameStart : List Char := "<a class=\"type-name\">".toList

/-- What stands behind a type name in markup. -/
def nameEnd : List Char := "</a>".toList

private theorem write_marks {chars : List Char} (known : ∀ c ∈ chars, c ∈ marks) :
    Html.writeNodes (chars.map fun c => .text (String.singleton c)) = chars := by
  induction chars with
  | nil => rfl
  | cons c rest ih =>
    obtain ⟨first, known⟩ := List.forall_mem_cons.mp known
    have same : escapeChars [c] = [c] := by
      simp only [marks, List.mem_cons, List.not_mem_nil, or_false] at first
      rcases first with rfl | rfl | rfl <;> rfl
    rw [List.map_cons, Html.writeNodes, ih known, Html.Node.write]
    simp [same]

private theorem write_typeName (name : String) :
    (typeName name).write = nameStart ++ escapeChars name.toList ++ nameEnd := by
  have start : Html.writeOpening .anchor [(.styleClass, "type-name")] = nameStart := by decide
  have stop : Html.writeClosing .anchor = nameEnd := by decide
  rw [typeName, Html.Node.write, start, stop, Html.writeNodes, Html.writeNodes, Html.Node.write,
    List.append_nil]

theorem toList_markup (type : TypeRef) :
    type.markup.toList = type.opening ++
      (nameStart ++ escapeChars type.namedType.toList ++ nameEnd) ++ type.closing := by
  have front : ∀ c ∈ type.opening, c ∈ marks := by
    intro c member
    simp [marks, type.opening_eq c member]
  have back : ∀ c ∈ type.closing, c ∈ marks := by
    intro c member
    rcases type.closing_eq c member with rfl | rfl <;> simp [marks]
  rw [markup, Html.render, String.toList_ofList, markupWith, pieces_eq, Html.writeNodes_append,
    Html.writeNodes, write_marks front, write_marks back, write_typeName]
  simp only [List.append_assoc]

/-! ## Reading -/

/-- The type that the marks behind make of the one in front of them. -/
def wrapped : TypeRef → List Char → Option TypeRef
  | type, [] => some type
  | type, c :: rest =>
    if c = ']' then wrapped (.list type) rest
    else if c = '!' then wrapped (.nonNull type) rest
    else none

/-- Reads a notation, with a reader of names. The brackets in front must be those that the marks
behind call for. -/
def read? (name? : List Char → Option (String × List Char)) (chars : List Char) :
    Option TypeRef := do
  let (name, behind) ← name? (chars.dropWhile (· = '['))
  let type ← wrapped (.named name) behind
  if type.opening = chars.takeWhile (· = '[') then some type else none

/-- Reads a name in plain text up to the next mark. -/
def plainName? (chars : List Char) : Option (String × List Char) :=
  some (String.ofList (chars.takeWhile (· ∉ marks)), chars.dropWhile (· ∉ marks))

/-- Reads the name in an element, if it is written with entities as it has to be. -/
def markupName? (chars : List Char) : Option (String × List Char) := do
  let chars ← chars.dropPrefix? nameStart
  let written := chars.takeWhile (· ≠ '<')
  let behind ← (chars.dropWhile (· ≠ '<')).dropPrefix? nameEnd
  if escapeChars (unescape written) = written then some (String.ofList (unescape written), behind)
  else none

/-- The type that a plain text stands for. -/
def ofPlain? (text : String) : Option TypeRef :=
  read? plainName? text.toList

/-- The type that a markup stands for. -/
def ofMarkup? (text : String) : Option TypeRef :=
  read? markupName? text.toList

/-! ## What is read -/

private theorem wrapped_append (type : TypeRef) (first second : List Char) :
    wrapped type (first ++ second) = (wrapped type first).bind (wrapped · second) := by
  induction first generalizing type with
  | nil => rfl
  | cons c rest ih =>
    simp only [List.cons_append, wrapped]
    split
    · exact ih _
    · split
      · exact ih _
      · rfl

private theorem wrapped_closing (type : TypeRef) :
    wrapped (.named type.namedType) type.closing = some type := by
  induction type with
  | named name => rfl
  | list inner ih =>
    rw [closing, namedType, wrapped_append, ih]
    rfl
  | nonNull inner ih =>
    rw [closing, namedType, wrapped_append, ih]
    rfl

private theorem of_wrapped {type result : TypeRef} {chars : List Char}
    (wraps : wrapped type chars = some result) :
    result.namedType = type.namedType ∧ result.closing = type.closing ++ chars := by
  induction chars generalizing type with
  | nil =>
    obtain rfl := Option.some.inj wraps
    exact ⟨rfl, (List.append_nil _).symm⟩
  | cons c rest ih =>
    rw [wrapped] at wraps
    split at wraps
    · rename_i list
      subst list
      obtain ⟨name, marks⟩ := ih wraps
      exact ⟨name, by rw [marks, closing, List.append_assoc, List.singleton_append]⟩
    · split at wraps
      · rename_i bang
        subst bang
        obtain ⟨name, marks⟩ := ih wraps
        exact ⟨name, by rw [marks, closing, List.append_assoc, List.singleton_append]⟩
      · cases wraps

/-- The marks behind a name stand for one way to wrap it. -/
theorem wrapped_eq_some_iff {name : String} {chars : List Char} {type : TypeRef} :
    wrapped (.named name) chars = some type ↔ type.namedType = name ∧ type.closing = chars := by
  constructor
  · exact of_wrapped
  · rintro ⟨rfl, rfl⟩
    exact wrapped_closing type

section Read

variable {name? : List Char → Option (String × List Char)}

/-- If names can be told from the marks around them, a notation is read as the one type that is
written so. -/
theorem read_eq_some_iff (write : String → List Char) (Fit : String → Prop)
    (reads : ∀ type : TypeRef, Fit type.namedType →
      name? (write type.namedType ++ type.closing) = some (type.namedType, type.closing))
    (apart : ∀ type : TypeRef, Fit type.namedType →
      (write type.namedType ++ type.closing).head? ≠ some '[')
    (sound : ∀ chars name behind, name? chars = some (name, behind) →
      Fit name ∧ chars = write name ++ behind)
    {chars : List Char} {type : TypeRef} :
    read? name? chars = some type ↔
      Fit type.namedType ∧ chars = type.opening ++ (write type.namedType ++ type.closing) := by
  constructor
  · intro read
    simp only [read?, Option.bind_eq_bind, Option.bind_eq_some_iff] at read
    obtain ⟨⟨name, behind⟩, named, result, wraps, same⟩ := read
    split at same
    · rename_i front
      obtain rfl := Option.some.inj same
      obtain ⟨fit, split⟩ := sound _ _ _ named
      obtain ⟨rfl, rfl⟩ := wrapped_eq_some_iff.mp wraps
      refine ⟨fit, ?_⟩
      rw [front, ← split, List.takeWhile_append_dropWhile]
    · cases same
  · rintro ⟨fit, rfl⟩
    have front : ∀ c ∈ type.opening, decide (c = '[') = true :=
      fun c member => decide_eq_true (type.opening_eq c member)
    have other := apart type fit
    have rest : (write type.namedType ++ type.closing).takeWhile (· = '[') = [] ∧
        (write type.namedType ++ type.closing).dropWhile (· = '[') =
          write type.namedType ++ type.closing := by
      cases chars : write type.namedType ++ type.closing with
      | nil => exact ⟨rfl, rfl⟩
      | cons c rest =>
        have plain : c ≠ '[' := by simpa [chars] using other
        simp [plain]
    rw [read?, List.takeWhile_append_of_pos front, List.dropWhile_append_of_pos front, rest.1,
      rest.2, reads type fit]
    simp [wrapped_closing]

end Read

/-- The name holds no mark. -/
def HasBareName (type : TypeRef) : Prop :=
  ∀ c ∈ type.namedType.toList, c ∉ marks

private theorem plainName_read {name : String} (bare : ∀ c ∈ name.toList, c ∉ marks)
    (type : TypeRef) : plainName? (name.toList ++ type.closing) = some (name, type.closing) := by
  have inside : ∀ c ∈ name.toList, decide (c ∉ marks) = true :=
    fun c member => decide_eq_true (bare c member)
  have stop : type.closing.takeWhile (· ∉ marks) = [] ∧
      type.closing.dropWhile (· ∉ marks) = type.closing := by
    cases back : type.closing with
    | nil => exact ⟨rfl, rfl⟩
    | cons c rest =>
      have mark : c ∈ marks := by
        rcases type.closing_eq c (back ▸ List.mem_cons_self) with rfl | rfl <;> decide
      simp [mark]
  rw [plainName?, List.takeWhile_append_of_pos inside, List.dropWhile_append_of_pos inside, stop.1,
    stop.2, List.append_nil, String.ofList_toList]

/-- A plain text is read as the one type that it is the notation of. -/
theorem ofPlain_eq_some_iff {text : String} {type : TypeRef} :
    ofPlain? text = some type ↔ type.HasBareName ∧ text = type.plain := by
  rw [← String.toList_inj, toList_plain, List.append_assoc]
  refine read_eq_some_iff String.toList (fun name => ∀ c ∈ name.toList, c ∉ marks)
    (fun type bare => plainName_read bare type) (fun type bare => ?_)
    (fun chars name behind read => ?_)
  · cases name : type.namedType.toList with
    | nil =>
      cases back : type.closing with
      | nil => simp
      | cons c rest =>
        rcases type.closing_eq c (back ▸ List.mem_cons_self) with rfl | rfl <;> simp
    | cons c rest =>
      have other := bare c (name ▸ List.mem_cons_self)
      rw [List.cons_append, List.head?_cons]
      rintro ⟨⟩
      exact other (by decide)
  · obtain ⟨rfl, rfl⟩ : String.ofList (chars.takeWhile (· ∉ marks)) = name ∧
        chars.dropWhile (· ∉ marks) = behind := by simpa [plainName?] using read
    rw [String.toList_ofList, List.takeWhile_append_dropWhile]
    exact ⟨fun c member => of_decide_eq_true (List.all_eq_true.mp List.all_takeWhile c member), rfl⟩

private theorem dropPrefix?_append (front rest : List Char) :
    (front ++ rest).dropPrefix? front = some rest :=
  List.dropPrefix?_eq_some_iff.mpr ⟨front, rfl, beq_self_eq_true front⟩

private theorem markupName_read (name : String) (rest : List Char) :
    markupName? (nameStart ++ escapeChars name.toList ++ nameEnd ++ rest) = some (name, rest) := by
  have inside : ∀ c ∈ escapeChars name.toList, decide (c ≠ '<') = true := by
    intro c member
    have mark := Html.plain_escapeChars _ c member
    refine decide_eq_true ?_
    rintro rfl
    exact mark (by decide)
  have stop : (nameEnd ++ rest).takeWhile (· ≠ '<') = [] ∧
      (nameEnd ++ rest).dropWhile (· ≠ '<') = nameEnd ++ rest := by
    simp [nameEnd]
  simp only [markupName?, List.append_assoc, dropPrefix?_append, Option.bind_eq_bind,
    Option.bind_some, List.takeWhile_append_of_pos inside, List.dropWhile_append_of_pos inside,
    stop.1, stop.2, List.append_nil, Html.unescape_escapeChars, if_true, String.ofList_toList]

/-- A markup is read as the one type that it is the notation of. -/
theorem ofMarkup_eq_some_iff {text : String} {type : TypeRef} :
    ofMarkup? text = some type ↔ text = type.markup := by
  rw [← String.toList_inj, toList_markup, List.append_assoc]
  refine (read_eq_some_iff (fun name => nameStart ++ escapeChars name.toList ++ nameEnd)
    (fun _ => True) (fun type _ => markupName_read type.namedType type.closing) (fun type _ => ?_)
    (fun chars name behind read => ⟨trivial, ?_⟩)).trans (and_iff_right trivial)
  · have start : nameStart.head? = some '<' := by decide
    simp only [List.append_assoc, List.head?_append, start, Option.some_or]
    decide
  · simp only [markupName?, Option.bind_eq_bind, Option.bind_eq_some_iff] at read
    obtain ⟨inner, start, after, stop, same⟩ := read
    split at same
    · rename_i canonical
      obtain ⟨rfl, rfl⟩ := Prod.mk.inj (Option.some.inj same)
      obtain ⟨first, rfl, front⟩ := List.dropPrefix?_eq_some_iff.mp start
      obtain ⟨last, parts, back⟩ := List.dropPrefix?_eq_some_iff.mp stop
      rw [String.toList_ofList, canonical, List.append_assoc, ← eq_of_beq front,
        ← eq_of_beq back, List.append_assoc, ← parts, List.takeWhile_append_dropWhile]
    · cases same

/-- **The notation of a type is unambiguous.** Markup is read as a type exactly where it is the
notation of that type, so each type has a notation of its own, whatever its name is. The same
holds of plain text for names without marks. And the markup of a type is its marks around one
element that shows the name: apart from the tags of this element nothing in it begins or ends a
tag or a value, and undoing the entities inside gives the name back. -/
theorem notation_is_unambiguous (type other : TypeRef) :
    (∀ text, ofMarkup? text = some type ↔ text = type.markup) ∧
    (type.markup = other.markup → type = other) ∧
    (∀ text, ofPlain? text = some type ↔ type.HasBareName ∧ text = type.plain) ∧
    (type.HasBareName → other.HasBareName → type.plain = other.plain → type = other) ∧
    ∃ before written behind,
      type.markup.toList = before ++ nameStart ++ written ++ nameEnd ++ behind ∧
        Plain before ∧ Plain written ∧ Plain behind ∧
        unescape written = type.namedType.toList := by
  refine ⟨fun _ => ofMarkup_eq_some_iff, fun same => ?_, fun _ => ofPlain_eq_some_iff,
    fun bare otherBare same => ?_, type.opening, escapeChars type.namedType.toList, type.closing,
    by rw [toList_markup]; simp only [List.append_assoc], fun c member mark => ?_,
    Html.plain_escapeChars _, fun c member mark => ?_, Html.unescape_escapeChars _⟩
  · have read := ofMarkup_eq_some_iff.mpr same
    rw [ofMarkup_eq_some_iff.mpr rfl] at read
    exact Option.some.inj read
  · have read := ofPlain_eq_some_iff.mpr ⟨otherBare, same⟩
    rw [ofPlain_eq_some_iff.mpr ⟨bare, rfl⟩] at read
    exact Option.some.inj read
  · rw [type.opening_eq c member] at mark
    exact absurd mark (by decide)
  · rcases type.closing_eq c member with rfl | rfl <;> exact absurd mark (by decide)

/-- Where a wrapper stands is seen, and a name that looks like markup is no obstacle. -/
theorem notations_tell_wrappers_apart :
    (∀ inner ∈ [TypeRef.list (.nonNull (.named "Int")), .nonNull (.list (.named "Int"))],
      inner.HasBareName) ∧
    (list (.nonNull (.named "Int"))).plain ≠ (nonNull (.list (.named "Int"))).plain ∧
    ofMarkup? (nonNull (.nonNull (.named "</a>]!&lt;"))).markup =
      some (.nonNull (.nonNull (.named "</a>]!&lt;"))) := by
  have bare : ∀ inner ∈ [TypeRef.list (.nonNull (.named "Int")), .nonNull (.list (.named "Int"))],
      inner.HasBareName := by
    simp [HasBareName, namedType, marks]
  refine ⟨bare, fun same => ?_, ((notation_is_unambiguous _ (.named "")).1 _).mpr rfl⟩
  have equal := (notation_is_unambiguous _ _).2.2.2.1 (bare _ (by simp)) (bare _ (by simp)) same
  exact absurd equal (by decide)

end SchemaGuide.TypeRef
