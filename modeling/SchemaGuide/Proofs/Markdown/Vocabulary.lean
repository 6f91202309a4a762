import SchemaGuide.Markdown.Render
import SchemaGuide.Proofs.Html.Grammar
import SchemaGuide.Proofs.Markdown.Nesting

/-! What rendered text consists of. Texts and values are written without angle brackets, so a tag
of a page is one that the page wrote for an element of the document: it has a name and attributes
from a fixed vocabulary, with values between quotation marks. Markup that stands in the source
is one of the texts. -/
namespace SchemaGuide.Markdown

open Html (Opening Token Reading)

/-! ## The vocabulary -/

/-- The elements of pages. -/
def elementNames : List (List Char) :=
  ["p", "h1", "h2", "h3", "h4", "h5", "h6", "blockquote", "pre", "code", "ul", "ol", "li", "em",
    "strong", "del", "a"].map String.toList

/-- The elements of pages that have no content. -/
def voidElementNames : List (List Char) :=
  ["img", "br", "hr"].map String.toList

/-- The attributes of the elements of pages. -/
def attributeNames : List (List Char) :=
  ["href", "src", "alt", "title", "start", "class"].map String.toList

/-- The characters that begin or end tags, and those that end values. -/
def delimiters : List Char := ['<', '>', '\x22']

/-- The markup of pages: escaped text, and tags from the vocabulary with quoted values. -/
def page : Html.Dialect where
  Text c := c ≠ '<' ∧ c ≠ '>'
  Element name := name ∈ elementNames
  Void name := name ∈ voidElementNames
  Attribute name quoting value :=
    name ∈ attributeNames ∧ quoting = .quoted '\x22' ∧ ∀ c ∈ value, c ∉ delimiters
  Loose := False

/-! ### Names -/

theorem Tag.name_is_known (tag : Tag) : tag.name ∈ elementNames := by
  cases tag with
  | heading level =>
    revert level
    decide
  | _ => decide

theorem VoidTag.name_is_known (tag : VoidTag) : tag.name ∈ voidElementNames := by
  cases tag <;> decide

/-- A name of the vocabulary is read as a name. -/
theorem names_are_read : ∀ name ∈ elementNames ++ voidElementNames,
    Html.IsTagName name ∧ Reading.text.Reads ('<' :: name) [] (.name name) := by
  decide

theorem closing_names_are_read : ∀ name ∈ elementNames,
    Reading.text.Reads (['<', '/'] ++ name ++ ['>']) [.closing name] .text := by
  decide

theorem elements_have_content : ∀ name ∈ elementNames, name ∉ Html.voidNames := by
  decide

theorem void_elements_have_none : ∀ name ∈ voidElementNames, name ∈ Html.voidNames := by
  decide

/-! ## Texts and values -/

theorem of_mem_writeTextChar {c d : Char} (member : d ∈ writeTextChar c) :
    d ≠ '<' ∧ d ≠ '>' ∧ (d = '\x22' → c = '\x22') := by
  rw [writeTextChar] at member
  split at member
  · revert d
    simp
  · split at member
    · revert d
      simp
    · split at member
      · revert d
        simp
      · obtain rfl := List.mem_singleton.mp member
        exact ⟨‹_›, ‹_›, id⟩

theorem value_char_is_escaped (c : Char) : ∀ d ∈ writeValueChar c, d ∉ delimiters := by
  intro d member
  rw [writeValueChar] at member
  split at member
  · revert d
    simp [delimiters]
  · rename_i other
    obtain ⟨left, right, quote⟩ := of_mem_writeTextChar member
    simp [delimiters, left, right, mt quote other]

private theorem hex_digit_is_no_delimiter : ∀ n < 16,
    (if n < 10 then Char.ofNat ('0'.toNat + n) else Char.ofNat ('A'.toNat + (n - 10))) ∉
      delimiters := by
  decide

theorem percentByte_is_escaped (byte : UInt8) : ∀ d ∈ percentByte byte, d ∉ delimiters := by
  have bound := byte.toNat_lt
  intro d member
  simp only [percentByte, List.mem_cons, List.not_mem_nil, or_false] at member
  rcases member with rfl | rfl | rfl
  · decide
  · exact hex_digit_is_no_delimiter _ (by omega)
  · exact hex_digit_is_no_delimiter _ (by omega)

theorem address_char_is_escaped (c : Char) : ∀ d ∈ writeAddressChar c, d ∉ delimiters := by
  rw [writeAddressChar]
  split
  · simp [delimiters]
  · split
    · simp [delimiters]
    · split
      · rename_i allowed
        intro d member delimiter
        obtain rfl := List.mem_singleton.mp member
        simp only [delimiters, List.mem_cons, List.not_mem_nil, or_false] at delimiter
        rcases delimiter with rfl | rfl | rfl <;> exact absurd allowed (by decide)
      · intro d member
        obtain ⟨byte, _, inside⟩ := List.mem_flatMap.mp member
        exact percentByte_is_escaped byte d inside

namespace Attribute

/-- The name of an attribute. -/
def name : Attribute → List Char
  | .destination _ => "href".toList
  | .source _ => "src".toList
  | .alternative _ => "alt".toList
  | .title _ => "title".toList
  | .start _ => "start".toList
  | .language _ => "class".toList

/-- The value of an attribute as it is written. -/
def value : Attribute → List Char
  | .destination address | .source address => address.flatMap writeAddressChar
  | .alternative text | .title text => text.flatMap writeValueChar
  | .start number => (toString number).toList
  | .language name => "language-".toList ++ name.flatMap writeValueChar

theorem write_eq (given : Attribute) :
    given.write = ' ' :: given.name ++ ['=', '\x22'] ++ given.value ++ ['\x22'] := by
  cases given <;> rfl

theorem name_is_known (given : Attribute) : given.name ∈ attributeNames := by
  cases given <;> exact List.mem_map_of_mem (by decide)

/-- No tag and no value ends in a value. -/
theorem value_is_escaped (given : Attribute) : ∀ c ∈ given.value, c ∉ delimiters := by
  have each {write : Char → List Char} (escaped : ∀ c, ∀ d ∈ write c, d ∉ delimiters)
      (chars : List Char) : ∀ d ∈ chars.flatMap write, d ∉ delimiters := by
    intro d member
    obtain ⟨c, _, inside⟩ := List.mem_flatMap.mp member
    exact escaped c d inside
  cases given with
  | destination address | source address => exact each address_char_is_escaped address
  | alternative text | title text => exact each value_char_is_escaped text
  | start number =>
    intro c member delimiter
    have written : c ∈ Nat.toDigits 10 number := Nat.toList_repr ▸ member
    have digit := Nat.isDigit_of_mem_toDigits (by decide) (by decide) written
    simp only [delimiters, List.mem_cons, List.not_mem_nil, or_false] at delimiter
    rcases delimiter with rfl | rfl | rfl <;> exact absurd digit (by decide)
  | language name =>
    exact List.forall_mem_append.mpr ⟨by simp [delimiters], each value_char_is_escaped name⟩

end Attribute

/-! ## Parts -/

/-- The tag of an element with its attributes. -/
def tagOf (name : List Char) (attributes : List Attribute) : Opening :=
  ⟨name, attributes.map fun given => (given.name, given.value)⟩

namespace Part

/-- The characters of a part on a page. -/
def chars (part : Part) : List Char :=
  part.asText.write

/-- The tokens of a part on a page. -/
def tokens : Part → List Token
  | .text content | .markup content => (content.flatMap writeTextChar).map .char
  | .lineEnd => [.char '\n']
  | .opening tag attributes => [.opening (tagOf tag.name attributes)]
  | .closing tag => [.closing tag.name]
  | .void tag attributes => [.opening (tagOf tag.name attributes), .closing tag.name]

end Part

theorem writeDocument_eq (blocks : List (Block (List Inline))) :
    writeDocument blocks = (documentParts blocks).flatMap Part.chars := by
  rw [writeDocument, List.flatMap_map]
  rfl

/-! ### Grammar -/

theorem text_is_of_page (content : List Char) :
    page.Fragment (content.flatMap writeTextChar) (content.flatMap writeTextChar |>.map .char) := by
  refine .of_text fun c member => ?_
  obtain ⟨d, _, inside⟩ := List.mem_flatMap.mp member
  obtain ⟨left, right, -⟩ := of_mem_writeTextChar inside
  exact ⟨left, right⟩

theorem writesAttributes (attributes : List Attribute) :
    page.WritesAttributes (attributes.map fun given => (given.name, given.value))
      (attributes.flatMap Attribute.write) := by
  have known : ∀ pair ∈ attributes.map fun given => (given.name, given.value),
      page.Attribute pair.1 (.quoted '\x22') pair.2 :=
    List.forall_mem_map.mpr fun given _ => ⟨given.name_is_known, rfl, given.value_is_escaped⟩
  have written := Html.Dialect.WritesAttributes.quoted known
  rw [List.flatMap_map] at written
  rw [show Attribute.write = _ from funext Attribute.write_eq]
  exact written

theorem opens_tag {name blanks slash : List Char}
    (known : name ∈ elementNames ++ voidElementNames) (attributes : List Attribute)
    (blank : blanks.all Html.isTagBlank = true) (ends : slash = [] ∨ slash = ['/']) :
    page.Opens (tagOf name attributes)
      ('<' :: name ++ attributes.flatMap Attribute.write ++ blanks ++ slash ++ ['>']) :=
  .mk (names_are_read name known).1 (writesAttributes attributes) blank ends

/-- Parts that nest are markup of pages. -/
theorem Nests.fragment {parts : List Part} {tags : List String} (nests : Nests parts tags) :
    page.Fragment (parts.flatMap Part.chars) (parts.flatMap Part.tokens) := by
  induction nests with
  | nil => exact .nil
  | text content _ ih | markup content _ ih => exact (text_is_of_page content).append ih
  | lineEnd _ ih => exact .text ⟨by decide, by decide⟩ ih
  | void tag attributes _ ih =>
    have known := tag.name_is_known
    have opens := opens_tag (List.mem_append_right _ known) attributes
      (show [' '].all Html.isTagBlank = true by decide) (.inr rfl)
    simpa [Part.chars, Part.asText, Part.write, Part.tokens, tagOf] using
      Html.Dialect.Fragment.void known opens ih
  | element tag attributes _ _ insideIh restIh =>
    have known := tag.name_is_known
    have opens := opens_tag (List.mem_append_left _ known) attributes List.all_nil (.inl rfl)
    simpa [Part.chars, Part.asText, Part.write, Part.tokens, tagOf] using
      Html.Dialect.Fragment.element known opens insideIh .exactly restIh

/-! ### Reading -/

open Html.Reading

/-- The tags that are read from nesting parts are theirs. -/
theorem Nests.tags_of_tokens {parts : List Part} {tags : List String} (nests : Nests parts tags) :
    (parts.flatMap Part.tokens).filterMap Token.tag = tags := by
  have none_of_text (chars : List Char) : (chars.map Token.char).filterMap Token.tag = [] := by
    simp [Token.tag]
  induction nests with
  | nil => rfl
  | text content _ ih | markup content _ ih =>
    rw [List.flatMap_cons, List.filterMap_append, ih, Part.tokens, none_of_text, List.nil_append]
  | lineEnd _ ih => exact ih
  | void tag attributes _ ih =>
    simp [Part.tokens, Token.tag, tagOf, tagsAround, ih]
  | element tag attributes _ _ insideIh restIh =>
    simp [Part.tokens, Token.tag, tagOf, tagsAround, insideIh, restIh]

/-- Behind a name of an element, a reader does what it does between attributes. -/
theorem reads_behind_name {name chars : List Char} {c : Char} {tokens : List Token} {last : Reading}
    (other : Html.isNameChar c = false)
    (reads : (between ⟨name, []⟩).Reads (c :: chars) tokens last) :
    (Reading.name name).Reads (c :: chars) tokens last := by
  have same : (Reading.name name).step c = (between ⟨name, []⟩).step c := by
    simp [step, other]
  rw [Reads, run] at reads ⊢
  rwa [same]

theorem reads_attribute (tag : Opening) (given : Attribute) :
    (between tag).Reads given.write []
      (.between { tag with attributes := tag.attributes ++ [(given.name, given.value)] }) := by
  have label : (between tag).Reads (' ' :: given.name ++ ['=', '\x22']) []
      (.value tag given.name '\x22' []) := by
    cases given <;> rfl
  have inside : '\x22' ∉ given.value := fun member =>
    given.value_is_escaped _ member (by decide)
  simpa [given.write_eq] using label.trans (reads_value tag given.name inside)

theorem reads_attributes (tag : Opening) (attributes : List Attribute) :
    (between tag).Reads (attributes.flatMap Attribute.write) []
      (.between { tag with attributes :=
        tag.attributes ++ attributes.map fun given => (given.name, given.value) }) := by
  induction attributes generalizing tag with
  | nil => simp
  | cons given rest ih =>
    simpa using (reads_attribute tag given).trans (ih _)

/-- What an opening tag ends with. -/
def endings : List (List Char) := [['>'], [' ', '/', '>']]

/-- Where an opening tag ends, its tokens are found. -/
theorem reads_ending (tag : Opening) {ending : List Char} (ends : ending ∈ endings) :
    (between tag).Reads ending tag.tokens .text := by
  simp only [endings, List.mem_cons, List.not_mem_nil, or_false] at ends
  have found : some (Reading.text, tag.tokens ++ []) = some (Reading.text, tag.tokens) := by
    rw [List.append_nil]
  rcases ends with rfl | rfl <;> exact found

theorem reads_tag {name ending : List Char} (known : name ∈ elementNames ++ voidElementNames)
    (attributes : List Attribute) (ends : ending ∈ endings) :
    text.Reads ('<' :: name ++ attributes.flatMap Attribute.write ++ ending)
      (tagOf name attributes).tokens .text := by
  have later := (reads_attributes ⟨name, []⟩ attributes).trans (reads_ending _ ends)
  have behind : (Reading.name name).Reads (attributes.flatMap Attribute.write ++ ending)
      (tagOf name attributes).tokens .text := by
    -- Behind the name comes the blank in front of an attribute, or what ends the tag.
    cases attributes with
    | nil =>
      simp only [endings, List.mem_cons, List.not_mem_nil, or_false] at ends
      rcases ends with rfl | rfl <;> exact reads_behind_name (by decide) later
    | cons given rest =>
      simp only [List.flatMap_cons, given.write_eq, List.cons_append] at later ⊢
      exact reads_behind_name (by decide) later
  simpa using (names_are_read name known).2.trans behind

/-- Each part is read by itself. -/
theorem reads_part (part : Part) : Reading.text.Reads part.chars part.tokens .text := by
  cases part with
  | text content | markup content =>
    refine Html.reads_text fun member => ?_
    obtain ⟨c, _, inside⟩ := List.mem_flatMap.mp member
    exact (of_mem_writeTextChar inside).1 rfl
  | lineEnd => rfl
  | opening tag attributes =>
    have known := tag.name_is_known
    have reads := reads_tag (List.mem_append_left _ known) attributes
      (show ['>'] ∈ endings by decide)
    have filled : (tagOf tag.name attributes).name ∉ Html.voidNames :=
      elements_have_content _ known
    rwa [Opening.tokens, if_neg filled] at reads
  | closing tag => exact closing_names_are_read _ tag.name_is_known
  | void tag attributes =>
    have known := tag.name_is_known
    have reads := reads_tag (List.mem_append_right _ known) attributes
      (show [' ', '/', '>'] ∈ endings by decide)
    have empty : (tagOf tag.name attributes).name ∈ Html.voidNames :=
      void_elements_have_none _ known
    rwa [Opening.tokens, if_pos empty] at reads

/-- Parts are read one after another. -/
theorem scan_parts (parts : List Part) :
    Html.scan (parts.flatMap Part.chars) = some (parts.flatMap Part.tokens) := by
  rw [Html.scan_eq_some]
  induction parts with
  | nil => rfl
  | cons part rest ih => exact (reads_part part).trans ih

/-- Parts that nest leave no element open. -/
theorem Nests.nested_tokens {parts : List Part} {tags : List String} (nests : Nests parts tags) :
    Html.Nested (parts.flatMap Part.tokens) := by
  induction nests with
  | nil => rfl
  | text content _ ih | markup content _ ih => exact (Html.nested_chars _).append ih
  | lineEnd _ ih => exact ih
  | void tag attributes _ ih =>
    have empty : Html.Nested (Part.void tag attributes).tokens :=
      Html.Nested.element (show Html.Nested [] from rfl)
    exact empty.append ih
  | element tag attributes _ _ insideIh restIh =>
    have around : Html.Nested (.opening (tagOf tag.name attributes) :: _ ++ [.closing tag.name]) :=
      insideIh.element
    simpa [Part.tokens] using around.append restIh

/-! ## Pages -/

/-- What a page may hold may stand in any balanced markup. -/
theorem html_includes_page : Html.Dialect.html.Includes page where
  text known := known.1
  element {name} known :=
    (show ∀ name ∈ elementNames, name.map Char.toLower ∉ Html.voidNames ++ Html.rawNames by
      decide) name known
  void {name} known :=
    (show ∀ name ∈ voidElementNames, name.map Char.toLower ∈ Html.voidNames by decide) name known
  attributes := by
    rintro name value _ ⟨known, rfl, escaped⟩
    have named : ∀ name ∈ attributeNames, name ≠ [] ∧ name.all (fun c =>
        !Html.isTagBlank c && c ∉ ['\x22', '\x27', '>', '/', '=']) = true := by
      decide
    exact ⟨named name known, by decide, fun inside => escaped _ inside (by decide)⟩
  loose := False.elim

/-- What a page is read as is balanced: each element that it opens is closed before the one around
it. -/
theorem balanced_render (source : String) : Html.Balanced (render source).toList := by
  rw [render, String.toList_ofList, writeDocument_eq]
  exact ⟨_, scan_parts _, (nests_documentParts _).nested_tokens⟩

/-- The same in the grammar of fragments, which knows more of how markup may be written: a page is
one. -/
theorem fragment_of_render (source : String) : Html.IsFragment (render source).toList := by
  rw [render, String.toList_ofList, writeDocument_eq]
  exact ⟨_, (nests_documentParts _).fragment.widen html_includes_page⟩

/-- A page consists of text and of the tags of its document, whatever markup stands in its source:
its tags are from the vocabulary, a reader finds those and no others, and they are those of the
elements of the document, to which markup of the source contributes none. -/
theorem source_markup_is_shown_as_text (source : String) :
    ∃ tokens, page.Fragment (render source).toList tokens ∧
      Html.scan (render source).toList = some tokens ∧
      tokens.filterMap Token.tag = blockTags false (parse source.toList) := by
  have nests := nests_documentParts (parse source.toList)
  refine ⟨(documentParts (parse source.toList)).flatMap Part.tokens, ?_, ?_, nests.tags_of_tokens⟩
  · rw [render, String.toList_ofList, writeDocument_eq]
    exact nests.fragment
  · rw [render, String.toList_ofList, writeDocument_eq]
    exact scan_parts _

example : render "<b>*x*</b>" = "<p>&lt;b&gt;<em>x</em>&lt;/b&gt;</p>\n" := by decide +kernel

end SchemaGuide.Markdown
