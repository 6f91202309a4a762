import SchemaGuide.Html.Escape

/-! How markup is read. A reader takes one character after another and finds texts, opening
tags and closing tags; a value ends at the quotation mark that it began with, and what it holds
is kept as it is written. Markup is balanced if it is read to its end outside of tags, and each
closing tag closes the element that was opened last. -/
namespace SchemaGuide.Html

/-- An opening tag with the values of its attributes as they are written. -/
structure Opening where
  name : List Char
  attributes : List (List Char × List Char)
deriving DecidableEq, Repr

/-- What a reader finds. -/
inductive Token where
  | char (c : Char)
  | opening (tag : Opening)
  | closing (name : List Char)
deriving DecidableEq, Repr

/-- The elements that end with their opening tags. -/
def voidNames : List (List Char) :=
  ["area", "base", "br", "col", "embed", "hr", "img", "input", "link", "meta", "source", "track",
    "wbr"].map String.toList

/-- What is found where an opening tag ends. -/
def Opening.tokens (tag : Opening) : List Token :=
  if tag.name ∈ voidNames then [.opening tag, .closing tag.name] else [.opening tag]

/-- Characters of names of elements and attributes. -/
def isNameChar (c : Char) : Bool :=
  c.isAlphanum || c == '-'

/-- Where a reader is. -/
inductive Reading where
  | text
  /-- Behind an opening angle bracket. -/
  | bracket
  /-- In the name of an opening tag. -/
  | name (read : List Char)
  /-- Between the attributes of an opening tag. -/
  | between (tag : Opening)
  | key (tag : Opening) (read : List Char)
  /-- Behind the sign between a key and its value. -/
  | equals (tag : Opening) (label : List Char)
  | value (tag : Opening) (label : List Char) (quote : Char) (read : List Char)
  /-- Behind the slash at the end of an opening tag. -/
  | slash (tag : Opening)
  /-- In the name of a closing tag. -/
  | closing (read : List Char)
deriving DecidableEq, Repr

namespace Reading

/-- A reader takes a character, if there can be one where it is, and finds something. -/
def step : Reading → Char → Option (Reading × List Token)
  | .text, c => if c = '<' then some (.bracket, []) else some (.text, [.char c])
  | .bracket, c =>
    if c = '/' then some (.closing [], [])
    else if isNameChar c then some (.name [c], [])
    else none
  | .name read, c =>
    if isNameChar c then some (.name (read ++ [c]), [])
    else if c.isWhitespace then some (.between ⟨read, []⟩, [])
    else if c = '/' then some (.slash ⟨read, []⟩, [])
    else if c = '>' then some (.text, Opening.tokens ⟨read, []⟩)
    else none
  | .between tag, c =>
    if isNameChar c then some (.key tag [c], [])
    else if c.isWhitespace then some (.between tag, [])
    else if c = '/' then some (.slash tag, [])
    else if c = '>' then some (.text, tag.tokens)
    else none
  | .key tag read, c =>
    if isNameChar c then some (.key tag (read ++ [c]), [])
    else if c = '=' then some (.equals tag read, [])
    else none
  | .equals tag label, c =>
    if c = '\x22' ∨ c = '\x27' then some (.value tag label c [], []) else none
  | .value tag label quote read, c =>
    if c = quote then
      some (.between { tag with attributes := tag.attributes ++ [(label, read)] }, [])
    else some (.value tag label quote (read ++ [c]), [])
  | .slash tag, c => if c = '>' then some (.text, tag.tokens) else none
  | .closing read, c =>
    if isNameChar c then some (.closing (read ++ [c]), [])
    else if c = '>' then some (.text, [.closing read])
    else none

/-- Where a reader is behind the characters, and what it found, if it gets there. -/
def run : Reading → List Char → Option (Reading × List Token)
  | reading, [] => some (reading, [])
  | reading, c :: rest => do
    let (next, found) ← reading.step c
    let (last, more) ← next.run rest
    return (last, found ++ more)

/-- Between two places, the characters are read as the tokens. -/
def Reads (first : Reading) (chars : List Char) (tokens : List Token) (last : Reading) : Prop :=
  first.run chars = some (last, tokens)

variable {first middle last : Reading} {chars more : List Char} {tokens found : List Token}

instance : Decidable (first.Reads chars tokens last) :=
  inferInstanceAs (Decidable (first.run chars = some (last, tokens)))

@[simp] theorem reads_nil : first.Reads [] tokens last ↔ first = last ∧ tokens = [] := by
  simp [Reads, run, eq_comm]

theorem Reads.cons {c : Char} (step : first.step c = some (middle, found))
    (rest : middle.Reads chars tokens last) : first.Reads (c :: chars) (found ++ tokens) last := by
  rw [Reads] at rest
  simp [Reads, run, step, rest]

theorem Reads.trans (one : first.Reads chars tokens middle) (two : middle.Reads more found last) :
    first.Reads (chars ++ more) (tokens ++ found) last := by
  induction chars generalizing first tokens with
  | nil =>
    obtain ⟨rfl, rfl⟩ := reads_nil.1 one
    exact two
  | cons c rest ih =>
    rw [Reads, run] at one
    cases step : first.step c with
    | none => simp [step] at one
    | some result =>
      obtain ⟨next, began⟩ := result
      cases ran : next.run rest with
      | none => simp [step, ran] at one
      | some result =>
        obtain ⟨reached, later⟩ := result
        simp only [step, ran, Option.bind_eq_bind, Option.bind_some, Option.pure_def,
          Option.some.injEq, Prod.mk.injEq] at one
        obtain ⟨rfl, rfl⟩ := one
        rw [List.append_assoc]
        exact .cons step (ih ran)

/-- Characters that each stay at a place of one kind are read one after another. -/
theorem reads_all {place : List Char → Reading} (allowed : Char → Prop)
    (step : ∀ read c, allowed c → (place read).step c = some (place (read ++ [c]), []))
    (read : List Char) (all : ∀ c ∈ chars, allowed c) :
    (place read).Reads chars [] (place (read ++ chars)) := by
  induction chars generalizing read with
  | nil => simp
  | cons c rest ih =>
    have later := ih (read ++ [c]) fun other member => all other (List.mem_cons_of_mem _ member)
    rw [List.append_assoc] at later
    exact .cons (step read c (all c List.mem_cons_self)) later

end Reading

/-- The tokens of markup that ends outside of tags. -/
def scan (chars : List Char) : Option (List Token) :=
  match Reading.text.run chars with
  | some (.text, tokens) => some tokens
  | _ => none

theorem scan_eq_some {chars : List Char} {tokens : List Token} :
    scan chars = some tokens ↔ Reading.text.Reads chars tokens .text := by
  rw [scan, Reading.Reads]
  constructor
  · intro read
    split at read
    · rename_i ran
      cases read
      exact ran
    · cases read
  · intro ran
    rw [ran]

/-! ## Nesting -/

/-- The elements that are open behind the tokens, if each closing tag closes the element that
was opened last. -/
def nest : List (List Char) → List Token → Option (List (List Char))
  | names, [] => some names
  | names, .char _ :: rest => nest names rest
  | names, .opening tag :: rest => nest (tag.name :: names) rest
  | [], .closing _ :: _ => none
  | innermost :: outer, .closing name :: rest =>
    if innermost = name then nest outer rest else none

theorem nest_append (names : List (List Char)) (tokens more : List Token) :
    nest names (tokens ++ more) = (nest names tokens).bind (nest · more) := by
  induction tokens generalizing names with
  | nil => rfl
  | cons token rest ih =>
    cases token with
    | char c => exact ih names
    | opening tag => exact ih (tag.name :: names)
    | closing name =>
      cases names with
      | nil => rfl
      | cons innermost outer =>
        simp only [List.cons_append, nest]
        split
        · exact ih outer
        · rfl

/-- Elements further out do not matter. -/
theorem nest_inside {names left : List (List Char)} {tokens : List Token}
    (nested : nest names tokens = some left) (outer : List (List Char)) :
    nest (names ++ outer) tokens = some (left ++ outer) := by
  induction tokens generalizing names with
  | nil =>
    cases nested
    rfl
  | cons token rest ih =>
    cases token with
    | char c => exact ih nested
    | opening tag => exact ih nested
    | closing name =>
      cases names with
      | nil => cases nested
      | cons innermost inner =>
        simp only [nest] at nested
        simp only [List.cons_append, nest]
        split
        · rename_i same
          rw [if_pos same] at nested
          exact ih nested
        · rename_i other
          rw [if_neg other] at nested
          cases nested

/-- Tokens that leave the open elements as they are. -/
def Nested (tokens : List Token) : Prop :=
  nest [] tokens = some []

theorem Nested.nest {tokens : List Token} (nested : Nested tokens) (names : List (List Char)) :
    nest names tokens = some names :=
  nest_inside nested names

theorem Nested.append {tokens more : List Token} (one : Nested tokens) (two : Nested more) :
    Nested (tokens ++ more) := by
  rw [Nested, nest_append, one.nest]
  exact two

theorem nested_chars (chars : List Char) : Nested (chars.map .char) := by
  induction chars with
  | nil => rfl
  | cons c rest ih => exact ih

theorem Nested.element {tag : Opening} {tokens : List Token} (inside : Nested tokens) :
    Nested (.opening tag :: tokens ++ [.closing tag.name]) := by
  rw [Nested, List.cons_append, Html.nest, nest_append, inside.nest]
  simp [Html.nest]

/-! ## Balance -/

/-- The characters are balanced markup. -/
def Balanced (chars : List Char) : Prop :=
  ∃ tokens, scan chars = some tokens ∧ Nested tokens

instance (chars : List Char) : Decidable (Balanced chars) :=
  decidable_of_iff ((scan chars).bind (nest []) = some [])
    (by simp [Balanced, Nested, Option.bind_eq_some_iff])

example : Balanced "<p>a<br />b <a title=\"<\">c</a></p>".toList := by decide
example : ¬Balanced "<p><a>b</p></a>".toList := by decide

theorem Balanced.append {chars more : List Char} (one : Balanced chars) (two : Balanced more) :
    Balanced (chars ++ more) := by
  obtain ⟨tokens, read, nested⟩ := one
  obtain ⟨found, readMore, nestedMore⟩ := two
  exact ⟨tokens ++ found,
    scan_eq_some.2 ((scan_eq_some.1 read).trans (scan_eq_some.1 readMore)),
    nested.append nestedMore⟩

/-- Text without an opening angle bracket is read as it is. -/
theorem reads_text {chars : List Char} (plain : '<' ∉ chars) :
    Reading.text.Reads chars (chars.map .char) .text := by
  induction chars with
  | nil => simp
  | cons c rest ih =>
    have other : c ≠ '<' := by
      rintro rfl
      exact plain List.mem_cons_self
    exact .cons (by rw [Reading.step, if_neg other])
      (ih fun member => plain (List.mem_cons_of_mem _ member))

end SchemaGuide.Html
