import SchemaGuide.Html.Fragment
import SchemaGuide.Proofs.Html.Reading

/-! What a written fragment is read as. A fragment is written as a sequence of parts: opening
tags, closing tags, texts and what a text renderer returned. Each part is read by itself,
whatever its texts and values are, and undoing the entities in them gives them back. So if the
renderer returns balanced markup, the whole is balanced. -/
namespace SchemaGuide.Html

/-! ## Escaping -/

/-- Text with its five entities undone. -/
def unescape : List Char → List Char
  | '&' :: 'a' :: 'm' :: 'p' :: ';' :: rest => '&' :: unescape rest
  | '&' :: 'l' :: 't' :: ';' :: rest => '<' :: unescape rest
  | '&' :: 'g' :: 't' :: ';' :: rest => '>' :: unescape rest
  | '&' :: 'q' :: 'u' :: 'o' :: 't' :: ';' :: rest => '\x22' :: unescape rest
  | '&' :: '#' :: '3' :: '9' :: ';' :: rest => '\x27' :: unescape rest
  | c :: rest => c :: unescape rest
  | [] => []

/-- The characters that begin or end tags and values. -/
def marks : List Char := ['<', '>', '\x22', '\x27']

/-- No tag and no value begins or ends in the text. -/
def Plain (written : List Char) : Prop :=
  ∀ c ∈ written, c ∉ marks

private theorem escapeChar_of_other {c : Char} (other : c ∉ '&' :: marks) : escapeChar c = [c] := by
  simp only [marks, List.mem_cons, List.not_mem_nil, or_false, not_or] at other
  obtain ⟨ampersand, left, right, double, single⟩ := other
  rw [escapeChar, if_neg ampersand, if_neg left, if_neg right, if_neg double, if_neg single]

private theorem unescape_of_ne {c : Char} (other : c ≠ '&') (rest : List Char) :
    unescape (c :: rest) = c :: unescape rest := by
  rw [unescape] <;> rintro _ rfl <;> exact absurd rfl other

private theorem unescape_escapeChar (c : Char) (rest : List Char) :
    unescape (escapeChar c ++ rest) = c :: unescape rest := by
  by_cases special : c ∈ '&' :: marks
  · simp only [marks, List.mem_cons, List.not_mem_nil, or_false] at special
    rcases special with rfl | rfl | rfl | rfl | rfl <;> rfl
  · rw [escapeChar_of_other special]
    exact unescape_of_ne (List.ne_of_not_mem_cons special) rest

/-- Undoing the entities gives the text back. -/
@[simp] theorem unescape_escapeChars (chars : List Char) :
    unescape (escapeChars chars) = chars := by
  induction chars with
  | nil => rfl
  | cons c rest ih => rw [escapeChars, List.flatMap_cons, unescape_escapeChar, ← escapeChars, ih]

private theorem plain_escapeChar (c : Char) : Plain (escapeChar c) := by
  by_cases special : c ∈ '&' :: marks
  · simp only [marks, List.mem_cons, List.not_mem_nil, or_false] at special
    rcases special with rfl | rfl | rfl | rfl | rfl <;> simp [Plain, escapeChar, marks]
  · rw [escapeChar_of_other special]
    intro written member mark
    rw [List.mem_singleton.1 member] at mark
    exact special (List.mem_cons_of_mem _ mark)

theorem plain_escapeChars (chars : List Char) : Plain (escapeChars chars) := by
  intro written member
  obtain ⟨c, _, inside⟩ := List.mem_flatMap.1 member
  exact plain_escapeChar c written inside

/-! ## Parts -/

/-- A part of a fragment, with texts and values as they are written. -/
inductive Part where
  | opening (tag : Tag) (attributes : List (AttributeName × List Char))
  | closing (tag : Tag)
  | text (written : List Char)
  /-- What a text renderer returned. -/
  | rendered (output : List Char)
deriving DecidableEq

namespace Part

/-- The characters of a part. -/
def chars : Part → List Char
  | .opening tag attributes =>
    '<' :: tag.name ++ attributes.flatMap (fun pair =>
      ' ' :: pair.1.chars ++ ['=', '\x22'] ++ pair.2 ++ ['\x22']) ++ ['>']
  | .closing tag => ['<', '/'] ++ tag.name ++ ['>']
  | .text written => written
  | .rendered output => output

/-- What a reader finds in a part. -/
def tokens : Part → List Token
  | .opening tag attributes =>
    [.opening ⟨tag.name, attributes.map fun pair => (pair.1.chars, pair.2)⟩]
  | .closing tag => [.closing tag.name]
  | .text written => written.map .char
  | .rendered output => (scan output).getD []

end Part

mutual

/-- The parts of a node. -/
def Node.parts : Node → List Part
  | .text content => [.text (escapeChars content.toList)]
  | .markup rendered => [.rendered rendered.toList]
  | .element tag attributes children =>
    .opening tag (attributes.map fun pair => (pair.1, escapeChars pair.2.toList)) ::
      partsOf children ++ [.closing tag]

/-- The parts of a fragment. -/
def partsOf : List Node → List Part
  | [] => []
  | node :: rest => node.parts ++ partsOf rest

end

mutual

private theorem Node.write_eq : ∀ node : Node, node.write = node.parts.flatMap Part.chars
  | .text content => by simp [Node.write, Node.parts, Part.chars]
  | .markup rendered => by simp [Node.write, Node.parts, Part.chars]
  | .element tag attributes children => by
    rw [Node.write, Node.parts, writeNodes_eq children, List.cons_append, List.flatMap_cons,
      List.flatMap_append, List.append_assoc]
    congr 1
    · simp only [writeOpening, Part.chars, List.flatMap_map]
      rfl
    · simp [Part.chars, writeClosing]

/-- A fragment is written part by part. -/
theorem writeNodes_eq : ∀ nodes : List Node, writeNodes nodes = (partsOf nodes).flatMap Part.chars
  | [] => rfl
  | node :: rest => by
    rw [writeNodes, partsOf, List.flatMap_append, node.write_eq, writeNodes_eq rest]

end

/-! ## Reading of parts -/

namespace Reading

theorem reads_value (tag : Opening) (label : List Char) {written : List Char}
    (inside : '\x22' ∉ written) :
    (value tag label '\x22' []).Reads (written ++ ['\x22']) []
      (.between { tag with attributes := tag.attributes ++ [(label, written)] }) := by
  have content : (value tag label '\x22' []).Reads written []
      (.value tag label '\x22' written) := by
    refine reads_all (· ≠ '\x22') (fun read c other => ?_) [] fun c member => ?_
    · rw [step, if_neg other]
    · rintro rfl
      exact inside member
  have quote : (value tag label '\x22' written).Reads ['\x22'] []
      (.between { tag with attributes := tag.attributes ++ [(label, written)] }) := rfl
  exact content.trans quote

private theorem reads_label (tag : Opening) (name : AttributeName) :
    (between tag).Reads name.chars [] (.key tag name.chars) := by
  cases name <;> rfl

private theorem reads_attribute (tag : Opening) (name : AttributeName) {written : List Char}
    (inside : '\x22' ∉ written) :
    (between tag).Reads (name.chars ++ ['=', '\x22'] ++ written ++ ['\x22']) []
      (.between { tag with attributes := tag.attributes ++ [(name.chars, written)] }) := by
  have equals : (key tag name.chars).Reads ['=', '\x22'] [] (.value tag name.chars '\x22' []) := rfl
  have read := ((reads_label tag name).trans equals).trans (reads_value tag name.chars inside)
  simpa using read

private theorem reads_attributes (tag : Opening) {attributes : List (AttributeName × List Char)}
    (inside : ∀ pair ∈ attributes, '\x22' ∉ pair.2) :
    (between tag).Reads (attributes.flatMap fun pair =>
        ' ' :: pair.1.chars ++ ['=', '\x22'] ++ pair.2 ++ ['\x22']) []
      (.between { tag with
        attributes := tag.attributes ++ attributes.map fun pair => (pair.1.chars, pair.2) }) := by
  induction attributes generalizing tag with
  | nil => simp
  | cons pair rest ih =>
    have blank : (between tag).Reads [' '] [] (.between tag) := rfl
    have first := blank.trans (reads_attribute tag pair.1 (inside pair List.mem_cons_self))
    have later := ih { tag with attributes := tag.attributes ++ [(pair.1.chars, pair.2)] }
      fun other member => inside other (List.mem_cons_of_mem _ member)
    simpa using first.trans later

theorem reads_opening (tag : Tag) {attributes : List (AttributeName × List Char)}
    (inside : ∀ pair ∈ attributes, '\x22' ∉ pair.2) :
    text.Reads (Part.opening tag attributes).chars (Part.opening tag attributes).tokens .text := by
  have start : text.Reads ('<' :: tag.name) [] (.name tag.name) := by
    cases tag <;> rfl
  -- The first attribute is read from within the name of the element, the others between them.
  cases attributes with
  | nil => cases tag <;> rfl
  | cons pair rest =>
    have blank : (name tag.name).Reads [' '] [] (.between ⟨tag.name, []⟩) := rfl
    have first := reads_attribute ⟨tag.name, []⟩ pair.1 (inside pair List.mem_cons_self)
    have later := reads_attributes ⟨tag.name, [] ++ [(pair.1.chars, pair.2)]⟩
      fun other member => inside other (List.mem_cons_of_mem _ member)
    have stop (found : List (List Char × List Char)) :
        (between ⟨tag.name, found⟩).Reads ['>'] [.opening ⟨tag.name, found⟩] .text := by
      cases tag <;> rfl
    simpa [Part.chars, Part.tokens] using
      (((start.trans blank).trans first).trans later).trans (stop _)

theorem reads_closing (tag : Tag) :
    text.Reads (Part.closing tag).chars (Part.closing tag).tokens .text := by
  cases tag <;> rfl

end Reading

/-- Values hold no quotation mark, texts no angle bracket, and what was rendered is balanced. -/
def Part.IsSound : Part → Prop
  | .opening _ attributes => ∀ pair ∈ attributes, '\x22' ∉ pair.2
  | .closing _ => True
  | .text written => '<' ∉ written
  | .rendered output => Balanced output

theorem Part.IsSound.reads {part : Part} (sound : part.IsSound) :
    Reading.text.Reads part.chars part.tokens .text := by
  cases part with
  | opening tag attributes => exact Reading.reads_opening tag sound
  | closing tag => exact Reading.reads_closing tag
  | text written => exact reads_text sound
  | rendered output =>
    obtain ⟨tokens, read, -⟩ := sound
    rw [Part.tokens, read]
    exact scan_eq_some.1 read

/-- Parts that are sound are read one after another. -/
theorem reads_parts {parts : List Part} (sound : ∀ part ∈ parts, part.IsSound) :
    Reading.text.Reads (parts.flatMap Part.chars) (parts.flatMap Part.tokens) .text := by
  induction parts with
  | nil => simp
  | cons part rest ih =>
    have first := (sound part List.mem_cons_self).reads
    exact first.trans (ih fun other member => sound other (List.mem_cons_of_mem _ member))

/-- What was rendered in a fragment is balanced. -/
def RendersBalanced (parts : List Part) : Prop :=
  ∀ output, .rendered output ∈ parts → Balanced output

mutual

private theorem Node.sound_parts : ∀ node : Node, RendersBalanced node.parts →
    ∀ part ∈ node.parts, part.IsSound
  | .text content, _, part, member => by
    rw [Node.parts, List.mem_singleton] at member
    subst member
    exact fun inside => plain_escapeChars _ _ inside (by decide)
  | .markup rendered, balanced, part, member => by
    rw [Node.parts, List.mem_singleton] at member
    subst member
    exact balanced _ List.mem_cons_self
  | .element tag attributes children, balanced, part, member => by
    have inside := sound_partsOf children fun output found =>
      balanced output (by simp [Node.parts, found])
    rw [Node.parts, List.cons_append, List.mem_cons, List.mem_append, List.mem_singleton] at member
    rcases member with rfl | found | rfl
    · intro pair found
      obtain ⟨source, _, rfl⟩ := List.mem_map.1 found
      exact fun inside => plain_escapeChars _ _ inside (by decide)
    · exact inside part found
    · trivial

/-- Texts and values are written so that each part of a fragment is read by itself. -/
theorem sound_partsOf : ∀ nodes : List Node, RendersBalanced (partsOf nodes) →
    ∀ part ∈ partsOf nodes, part.IsSound
  | [], _, _, member => nomatch member
  | node :: rest, balanced, part, member => by
    rw [partsOf] at balanced member
    rcases List.mem_append.1 member with first | later
    · exact node.sound_parts (fun output found =>
        balanced output (List.mem_append_left _ found)) part first
    · exact sound_partsOf rest (fun output found =>
        balanced output (List.mem_append_right _ found)) part later

end

mutual

private theorem Node.nested_tokens : ∀ node : Node, RendersBalanced node.parts →
    Nested (node.parts.flatMap Part.tokens)
  | .text content, _ => by
    simpa [Node.parts, Part.tokens] using nested_chars _
  | .markup rendered, balanced => by
    obtain ⟨tokens, read, nested⟩ := balanced rendered.toList (by simp [Node.parts])
    simpa [Node.parts, Part.tokens, read] using nested
  | .element tag attributes children, balanced => by
    have inside := nested_tokensOf children fun output found =>
      balanced output (by simp [Node.parts, found])
    simpa [Node.parts, Part.tokens] using inside.element

/-- Each element of a fragment closes where its children end. -/
theorem nested_tokensOf : ∀ nodes : List Node, RendersBalanced (partsOf nodes) →
    Nested ((partsOf nodes).flatMap Part.tokens)
  | [], _ => rfl
  | node :: rest, balanced => by
    rw [partsOf] at balanced ⊢
    rw [List.flatMap_append]
    exact (node.nested_tokens fun output found =>
      balanced output (List.mem_append_left _ found)).append
        (nested_tokensOf rest fun output found => balanced output (List.mem_append_right _ found))

end

/-- A fragment is read as what its parts are read as. -/
theorem scan_writeNodes {nodes : List Node} (balanced : RendersBalanced (partsOf nodes)) :
    scan (writeNodes nodes) = some ((partsOf nodes).flatMap Part.tokens) := by
  rw [scan_eq_some, writeNodes_eq]
  exact reads_parts (sound_partsOf nodes balanced)

/-- A fragment with balanced markup in it is balanced. -/
theorem balanced_writeNodes {nodes : List Node} (balanced : RendersBalanced (partsOf nodes)) :
    Balanced (writeNodes nodes) :=
  ⟨_, scan_writeNodes balanced, nested_tokensOf nodes balanced⟩

end SchemaGuide.Html
