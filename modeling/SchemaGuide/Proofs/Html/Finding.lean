import Mathlib.Data.List.Infix
import SchemaGuide.Proofs.Html.Writing

/-! Elements that are found in markup. An element of a known style is found where the start of its
opening tag stands, and it is read from there on. What is written as text or as a value holds no
such start, and neither does what a text renderer returned, if it has none in itself: an element
closes around it. So in a written fragment nothing is found but its elements. -/
namespace SchemaGuide.Html

/-- What stands behind each place of the mark, in the order of the places. -/
def behindEach (mark : List Char) : List Char → List (List Char)
  | [] => []
  | c :: rest =>
    if mark <+: c :: rest then (c :: rest).drop mark.length :: behindEach mark rest
    else behindEach mark rest

/-- The start of an opening tag up to the quotation mark behind its style class. -/
def startOf (tag : Tag) (style : String) : List Char :=
  '<' :: tag.name ++ ' ' :: AttributeName.styleClass.chars ++ ['=', '\x22'] ++ style.toList ++
    ['\x22']

/-- How elements of one style are found and read. -/
structure Finder (α : Type) where
  tag : Tag
  style : String
  /-- Reads an element from behind its start. -/
  read : List Char → Option α
  verbatim : escapeChars style.toList = style.toList := by decide

namespace Finder

variable {α : Type} (finder : Finder α)

/-- The start of the elements. -/
def mark : List Char :=
  startOf finder.tag finder.style

/-- The elements in the order of their starts, each as it is read. -/
def find (chars : List Char) : List (Option α) :=
  (behindEach finder.mark chars).map finder.read

/-- No element starts in the characters. -/
def Avoids (chars : List Char) : Prop :=
  ¬ finder.mark <:+: chars

/-- In the nodes these elements are found, whatever is written behind the nodes. -/
def Finds (nodes : List Node) (found : List α) : Prop :=
  ∀ rest, finder.find (writeNodes nodes ++ rest) = found.map some ++ finder.find rest

end Finder

theorem writeNodes_append (nodes more : List Node) :
    writeNodes (nodes ++ more) = writeNodes nodes ++ writeNodes more := by
  induction nodes with
  | nil => rfl
  | cons node rest ih => rw [List.cons_append, writeNodes, writeNodes, ih, List.append_assoc]

theorem not_mem_escapeChars {c : Char} (mark : c ∈ marks) (chars : List Char) :
    c ∉ escapeChars chars :=
  fun inside => plain_escapeChars chars c inside mark

/-! ## Marks -/

section Marks

variable {mark tail : List Char}

/-- Whatever is in front, what is found behind it is found last. -/
theorem exists_behindEach_append (mark before rest : List Char) :
    ∃ first, behindEach mark (before ++ rest) = first ++ behindEach mark rest := by
  induction before with
  | nil => exact ⟨[], rfl⟩
  | cons c before ih =>
    obtain ⟨first, same⟩ := ih
    rw [List.cons_append, behindEach, same]
    split
    · exact ⟨_ :: first, rfl⟩
    · exact ⟨first, rfl⟩

theorem behindEach_of_text {chars : List Char} (starts : mark = '<' :: tail) (plain : '<' ∉ chars)
    (rest : List Char) : behindEach mark (chars ++ rest) = behindEach mark rest := by
  induction chars with
  | nil => rfl
  | cons c chars ih =>
    rw [List.cons_append, behindEach, if_neg, ih (List.not_mem_of_not_mem_cons plain)]
    rw [starts, List.cons_prefix_cons]
    exact fun here => List.ne_of_not_mem_cons plain here.1

/-- A mark that is not in the characters is not at their end either, if a tag comes next. -/
theorem behindEach_of_avoided {chars : List Char} (starts : mark = '<' :: tail)
    (single : '<' ∉ tail) (avoided : ¬ mark <:+: chars) (rest : List Char) :
    behindEach mark (chars ++ '<' :: rest) = behindEach mark ('<' :: rest) := by
  induction chars with
  | nil => rfl
  | cons c chars ih =>
    have later : ¬ mark <:+: chars := fun inside => avoided (inside.trans (List.infix_cons_iff.mpr
      (.inr List.infix_rfl)))
    rw [List.cons_append, behindEach, if_neg, ih later]
    intro here
    rcases List.prefix_or_prefix_of_prefix here (List.prefix_append (c :: chars) ('<' :: rest))
      with inside | ⟨more, longer⟩
    · exact avoided inside.isInfix
    · cases more with
      | nil => exact avoided (by rw [← longer, List.append_nil])
      | cons next more =>
        rw [← longer, ← List.cons_append, List.prefix_append_right_inj,
          List.cons_prefix_cons] at here
        obtain ⟨rfl, _⟩ := here
        rw [starts, List.cons_append] at longer
        obtain ⟨_, same⟩ := List.cons.inj longer
        exact single (by simp [← same])

end Marks

private theorem not_mem_name (tag : Tag) {c : Char} (blank : c = ' ' ∨ c = '<') :
    c ∉ tag.name := by
  rcases blank with rfl | rfl <;> cases tag <;> decide

private theorem not_mem_attribute (pair : AttributeName × String) :
    '<' ∉ writeAttribute pair := by
  have value : '<' ∉ escapeChars pair.2.toList := not_mem_escapeChars (by decide) _
  have name : '<' ∉ pair.1.chars := by cases pair.1 <;> decide
  simp [writeAttribute, value, name]

/-- One opening angle bracket starts an opening tag. -/
theorem writeOpening_eq (tag : Tag) (attributes : List (AttributeName × String)) :
    ∃ inner, writeOpening tag attributes = '<' :: inner ∧ '<' ∉ inner := by
  refine ⟨tag.name ++ attributes.flatMap writeAttribute ++ ['>'], rfl, ?_⟩
  simp [not_mem_name tag (.inr rfl), not_mem_attribute]

/-- Words with the same end behind them are the same words. -/
private theorem eq_of_prefix_of_end {word other rest more : List Char} {stop : Char}
    (inside : stop ∉ word) (outside : stop ∉ other)
    (starts : word ++ stop :: rest <+: other ++ stop :: more) : word = other ∧ rest <+: more := by
  induction word generalizing other with
  | nil =>
    cases other with
    | nil => exact ⟨rfl, (List.cons_prefix_cons.mp starts).2⟩
    | cons c other =>
      obtain ⟨rfl, _⟩ := List.cons_prefix_cons.mp starts
      exact absurd List.mem_cons_self outside
  | cons c word ih =>
    cases other with
    | nil =>
      obtain ⟨rfl, _⟩ := List.cons_prefix_cons.mp starts
      exact absurd List.mem_cons_self inside
    | cons d other =>
      obtain ⟨rfl, later⟩ := List.cons_prefix_cons.mp starts
      obtain ⟨rfl, behind⟩ := ih (List.not_mem_of_not_mem_cons inside)
        (List.not_mem_of_not_mem_cons outside) later
      exact ⟨rfl, behind⟩

/-! ## Elements -/

namespace Finder

variable {α : Type} {finder : Finder α}

private theorem mark_starts (finder : Finder α) :
    ∃ tail, finder.mark = '<' :: tail ∧ '<' ∉ tail := by
  refine ⟨_, rfl, ?_⟩
  have style : '<' ∉ finder.style.toList := by
    rw [← finder.verbatim]
    exact not_mem_escapeChars (by decide) _
  simp [not_mem_name finder.tag (.inr rfl), style, AttributeName.chars]

/-- Without an opening bracket no element starts. -/
theorem avoids_of_text {chars : List Char} (plain : '<' ∉ chars) : finder.Avoids chars := by
  obtain ⟨tail, starts, _⟩ := mark_starts finder
  intro inside
  rw [starts] at inside
  exact plain (inside.subset List.mem_cons_self)

theorem find_of_text {chars : List Char} (plain : '<' ∉ chars) (rest : List Char) :
    finder.find (chars ++ rest) = finder.find rest := by
  obtain ⟨tail, starts, _⟩ := mark_starts finder
  rw [find, behindEach_of_text starts plain, ← find]

theorem find_of_avoided {chars : List Char} (avoided : finder.Avoids chars) (rest : List Char) :
    finder.find (chars ++ '<' :: rest) = finder.find ('<' :: rest) := by
  obtain ⟨tail, starts, single⟩ := mark_starts finder
  rw [find, behindEach_of_avoided starts single avoided, ← find]

/-- A tag is found where it starts, and nowhere inside of it. -/
private theorem find_of_tag {inner : List Char} (plain : '<' ∉ inner) (rest : List Char) :
    finder.find ('<' :: inner ++ rest) =
      (if finder.mark <+: '<' :: inner ++ rest then
        [finder.read (('<' :: inner ++ rest).drop finder.mark.length)] else []) ++
          finder.find rest := by
  rw [List.cons_append, find, behindEach]
  split
  · rw [List.map_cons, ← find, find_of_text plain]
    rfl
  · rw [← find, find_of_text plain]
    rfl

theorem find_of_closing (tag : Tag) (rest : List Char) :
    finder.find (writeClosing tag ++ rest) = finder.find rest := by
  have plain : '<' ∉ '/' :: tag.name ++ ['>'] := by simp [not_mem_name tag (.inr rfl)]
  have other : ¬ finder.mark <+: '<' :: ('/' :: tag.name ++ ['>']) ++ rest := by
    rw [List.cons_append, mark, startOf]
    simp only [List.cons_append, List.append_assoc, List.cons_prefix_cons, true_and]
    cases finder.tag <;> simp [Tag.name]
  have closing : writeClosing tag = '<' :: ('/' :: tag.name ++ ['>']) := rfl
  rw [closing, find_of_tag plain, if_neg other, List.nil_append]

/-- The mark stands at the start of an opening tag only if the tag has the style. -/
theorem style_of_mark {tag : Tag} {style : String} {more : List (AttributeName × String)}
    {rest : List Char}
    (starts : finder.mark <+: writeOpening tag ((.styleClass, style) :: more) ++ rest) :
    finder.style = style := by
  have split : writeOpening tag ((.styleClass, style) :: more) ++ rest =
      '<' :: (tag.name ++ ' ' :: (AttributeName.styleClass.chars ++ ['=', '\x22'] ++
        (escapeChars style.toList ++
          '\x22' :: (more.flatMap writeAttribute ++ '>' :: rest)))) := by
    simp [writeOpening, writeAttribute]
  have own : finder.mark = '<' :: (finder.tag.name ++ ' ' ::
      (AttributeName.styleClass.chars ++ ['=', '\x22'] ++
        (escapeChars finder.style.toList ++ '\x22' :: []))) := by
    simp [mark, startOf, finder.verbatim]
  rw [split, own, List.cons_prefix_cons] at starts
  obtain ⟨_, behind⟩ := eq_of_prefix_of_end (not_mem_name _ (.inl rfl)) (not_mem_name _ (.inl rfl))
    starts.2
  rw [List.prefix_append_right_inj] at behind
  obtain ⟨same, _⟩ := eq_of_prefix_of_end (not_mem_escapeChars (by decide) _)
    (not_mem_escapeChars (by decide) _) behind
  have given := congrArg unescape same
  rw [unescape_escapeChars, unescape_escapeChars] at given
  exact String.toList_inj.mp given

theorem find_of_opening {tag : Tag} {style : String} (other : finder.style ≠ style)
    (more : List (AttributeName × String)) (rest : List Char) :
    finder.find (writeOpening tag ((.styleClass, style) :: more) ++ rest) = finder.find rest := by
  obtain ⟨inner, opening, plain⟩ := writeOpening_eq tag ((.styleClass, style) :: more)
  have noMark : ¬ finder.mark <+: '<' :: inner ++ rest := by
    rw [← opening]
    exact fun starts => other (style_of_mark starts)
  rw [opening, find_of_tag plain, if_neg noMark, List.nil_append]

/-- An opening tag of the style is the start and what is read. -/
theorem write_own_opening (finder : Finder α) (more : List (AttributeName × String))
    (rest : List Char) :
    writeOpening finder.tag ((.styleClass, finder.style) :: more) ++ rest =
      finder.mark ++ (more.flatMap writeAttribute ++ '>' :: rest) := by
  simp [writeOpening, writeAttribute, mark, startOf, finder.verbatim]

theorem find_of_own_opening (more : List (AttributeName × String)) (rest : List Char) :
    finder.find (writeOpening finder.tag ((.styleClass, finder.style) :: more) ++ rest) =
      finder.read (more.flatMap writeAttribute ++ '>' :: rest) :: finder.find rest := by
  obtain ⟨inner, opening, plain⟩ :=
    writeOpening_eq finder.tag ((.styleClass, finder.style) :: more)
  have marked := finder.write_own_opening more rest
  rw [opening] at marked ⊢
  rw [find_of_tag plain, marked, if_pos (List.prefix_append _ _), List.drop_left]
  rfl

/-- The mark has a style class behind the name of its element. -/
theorem find_of_bare_opening (tag : Tag) (rest : List Char) :
    finder.find (writeOpening tag [] ++ rest) = finder.find rest := by
  obtain ⟨inner, opening, plain⟩ := writeOpening_eq tag []
  have noMark : ¬ finder.mark <+: writeOpening tag [] ++ rest := by
    rw [mark, startOf, writeOpening]
    cases finder.tag <;> cases tag <;> simp [Tag.name]
  rw [opening] at noMark ⊢
  rw [find_of_tag plain, if_neg noMark, List.nil_append]

namespace Finds

/-- Nothing is found in nodes but their elements. -/
theorem alone {nodes : List Node} {found : List α} (finds : finder.Finds nodes found) :
    finder.find (writeNodes nodes) = found.map some := by
  simpa [find, behindEach] using finds []

theorem nil : finder.Finds [] [] := fun _ => rfl

theorem append {nodes more : List Node} {found others : List α} (one : finder.Finds nodes found)
    (two : finder.Finds more others) : finder.Finds (nodes ++ more) (found ++ others) := by
  intro rest
  rw [writeNodes_append, List.append_assoc, one, two, List.map_append, List.append_assoc]

theorem cons {node : Node} {more : List Node} {found others : List α}
    (one : finder.Finds [node] found) (two : finder.Finds more others) :
    finder.Finds (node :: more) (found ++ others) :=
  one.append two

theorem text (content : String) : finder.Finds [.text content] [] := by
  intro rest
  have plain : '<' ∉ escapeChars content.toList := not_mem_escapeChars (by decide) _
  rw [writeNodes, writeNodes, List.append_nil, Node.write, find_of_text plain]
  rfl

/-- Behind a text nothing else is found than without it. -/
theorem behind_text (content : String) {more : List Node} {found : List α}
    (others : finder.Finds more found) : finder.Finds (.text content :: more) found :=
  cons (text content) others

/-- An element of another style is found through. -/
theorem element {tag : Tag} {style : String} {more : List (AttributeName × String)}
    {children : List Node} {found : List α} (other : finder.style ≠ style)
    (inside : finder.Finds children found) :
    finder.Finds [.element tag ((.styleClass, style) :: more) children] found := by
  intro rest
  rw [writeNodes, writeNodes, List.append_nil, Node.write, List.append_assoc, List.append_assoc,
    find_of_opening other, inside, find_of_closing]

theorem bare {tag : Tag} {children : List Node} {found : List α}
    (inside : finder.Finds children found) :
    finder.Finds [.element tag [] children] found := by
  intro rest
  rw [writeNodes, writeNodes, List.append_nil, Node.write, List.append_assoc, List.append_assoc,
    find_of_bare_opening, inside, find_of_closing]

/-- What a renderer returned is passed over, if it holds no mark. -/
theorem rendered {tag : Tag} {style : String} {more : List (AttributeName × String)}
    {children : List Node} {output : String} {found : List α} (other : finder.style ≠ style)
    (inside : finder.Finds children found) (avoided : finder.Avoids output.toList) :
    finder.Finds [.element tag ((.styleClass, style) :: more) (children ++ [.markup output])]
      found := by
  intro rest
  have closing : writeClosing tag ++ rest = '<' :: ('/' :: tag.name ++ ['>'] ++ rest) := rfl
  rw [writeNodes, writeNodes, List.append_nil, Node.write, List.append_assoc, List.append_assoc,
    find_of_opening other, writeNodes_append, List.append_assoc, inside, writeNodes, writeNodes,
    List.append_nil, Node.write, closing, find_of_avoided avoided, ← closing, find_of_closing]

/-- An element of the style is found and read. -/
theorem own {more : List (AttributeName × String)} {children : List Node} {x : α}
    {found : List α}
    (reads : ∀ rest, finder.read (more.flatMap writeAttribute ++ '>' ::
      (writeNodes children ++ (writeClosing finder.tag ++ rest))) = some x)
    (inside : finder.Finds children found) :
    finder.Finds [.element finder.tag ((.styleClass, finder.style) :: more) children]
      (x :: found) := by
  intro rest
  rw [writeNodes, writeNodes, List.append_nil, Node.write, List.append_assoc, List.append_assoc,
    find_of_own_opening, reads, inside, find_of_closing]
  rfl

theorem map {β : Type} {line : β → Node} {value : β → List α}
    (each : ∀ item, finder.Finds [line item] (value item)) (items : List β) :
    finder.Finds (items.map line) (items.flatMap value) := by
  induction items with
  | nil => exact nil
  | cons item rest ih => exact (each item).append ih

theorem intersperse {β : Type} {fragment : β → List Node} {value : β → List α}
    (separator : String) (each : ∀ item, finder.Finds (fragment item) (value item))
    (items : List β) :
    finder.Finds (Html.intersperse (.text separator) (items.map fragment))
      (items.flatMap value) := by
  induction items with
  | nil => exact nil
  | cons item rest ih =>
    cases rest with
    | nil => simpa [Html.intersperse] using each item
    | cons next rest => exact (each item).append (behind_text separator ih)

end Finds
end Finder
end SchemaGuide.Html
