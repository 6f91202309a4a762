import SchemaGuide.Explorer.Panel
import SchemaGuide.Proofs.Html.Finding

/-! Elements of panels as they are read from the characters of a panel: links to types and to
fields, arguments and enum values. Each is read from its own tags alone, with the entities in it
undone, so the names in it come back whatever they are. -/
namespace SchemaGuide.Explorer

open Html (AttributeName Finder Node Tag escapeChars unescape writeAttribute writeClosing
  writeNodes writeOpening)

/-! ## Readers -/

/-- What stands behind the mark, if the characters start with it. -/
def behind? (mark chars : List Char) : Option (List Char) :=
  if mark <+: chars then some (chars.drop mark.length) else none

/-- The text in front of the first such character, with its entities undone, and what stands
behind that character. -/
def upTo (stop : Char) (chars : List Char) : String × List Char :=
  (String.ofList (unescape (chars.takeWhile (· != stop))),
    (chars.dropWhile (· != stop)).drop 1)

/-- The value of an attribute, and what stands behind it. -/
def attribute? (name : AttributeName) (chars : List Char) : Option (String × List Char) :=
  (behind? (' ' :: name.chars ++ ['=', '\x22']) chars).map (upTo '\x22')

/-- The text of an element up to the end of the element, and what stands behind it. -/
def label? (tag : Tag) (chars : List Char) : Option (String × List Char) := do
  let (label, chars) := upTo '<' (← behind? ['>'] chars)
  let chars ← behind? ('/' :: tag.name ++ ['>']) chars
  some (label, chars)

theorem behind?_append (mark rest : List Char) : behind? mark (mark ++ rest) = some rest := by
  rw [behind?, if_pos (List.prefix_append mark rest), List.drop_left]

theorem upTo_escaped {stop : Char} (mark : stop ∈ Html.marks) (text : String) (rest : List Char) :
    upTo stop (escapeChars text.toList ++ stop :: rest) = (text, rest) := by
  have inside : ∀ c ∈ escapeChars text.toList, (c != stop) = true := by
    intro c member
    have other : c ≠ stop := by
      rintro rfl
      exact Html.not_mem_escapeChars mark _ member
    simpa using other
  rw [upTo, List.takeWhile_append_of_pos inside, List.dropWhile_append_of_pos inside]
  simp

theorem attribute?_written (name : AttributeName) (value : String) (rest : List Char) :
    attribute? name (writeAttribute (name, value) ++ rest) = some (value, rest) := by
  have written : writeAttribute (name, value) ++ rest =
      (' ' :: name.chars ++ ['=', '\x22']) ++ (escapeChars value.toList ++ '\x22' :: rest) := by
    simp [writeAttribute]
  rw [attribute?, written, behind?_append, Option.map_some, upTo_escaped (by decide)]

theorem label?_written (tag : Tag) (text : String) (rest : List Char) :
    label? tag ('>' :: (writeNodes [.text text] ++ (writeClosing tag ++ rest))) =
      some (text, rest) := by
  have written : writeNodes [.text text] ++ (writeClosing tag ++ rest) =
      escapeChars text.toList ++ '<' :: ('/' :: tag.name ++ ['>'] ++ rest) := by
    simp [writeNodes, Node.write, writeClosing]
  rw [label?, behind?, if_pos (List.cons_prefix_cons.mpr ⟨rfl, List.nil_prefix⟩), written]
  simp only [Option.bind_eq_bind, Option.bind_some, List.length_singleton, List.drop_succ_cons,
    List.drop_zero, upTo_escaped (show '<' ∈ Html.marks by decide), behind?_append]

/-! ## Links -/

/-- A link to a field as it is read. -/
structure FieldAnchor where
  owner : String
  field : String
  label : String
deriving DecidableEq

/-- The links to fields. -/
def fieldLinks : Finder FieldAnchor where
  tag := .anchor
  style := "field-name"
  read chars := do
    let (owner, chars) ← attribute? .dataType chars
    let (field, chars) ← attribute? .dataField chars
    let (label, _) ← label? .anchor chars
    some ⟨owner, field, label⟩

/-- A link to a type as it is read. -/
structure TypeAnchor where
  type : String
  label : String
deriving DecidableEq

/-- The type and the label of a link to a type, and what stands behind it. -/
def readTypeLink (chars : List Char) : Option (TypeAnchor × List Char) := do
  let (type, chars) ← attribute? .dataType chars
  let (label, chars) ← label? .anchor chars
  some (⟨type, label⟩, chars)

/-- The links to types. -/
def typeLinks : Finder TypeAnchor where
  tag := .anchor
  style := "type-name"
  read chars := (readTypeLink chars).map (·.1)

theorem readTypeLink_written (name : String) (rest : List Char) :
    readTypeLink ([(AttributeName.dataType, name)].flatMap writeAttribute ++ '>' ::
        (writeNodes [.text name] ++ (writeClosing .anchor ++ rest))) =
      some (⟨name, name⟩, rest) := by
  simp [readTypeLink, attribute?_written, label?_written]

theorem finds_typeLink (name : String) : typeLinks.Finds [typeLink name] [⟨name, name⟩] := by
  have reads (rest : List Char) : typeLinks.read
      ([(AttributeName.dataType, name)].flatMap writeAttribute ++ '>' ::
        (writeNodes [.text name] ++ (writeClosing .anchor ++ rest))) = some ⟨name, name⟩ := by
    simp only [typeLinks, readTypeLink_written, Option.map_some]
  exact .own reads (.text name)

theorem read_fieldLink (owner field : String) (rest : List Char) :
    fieldLinks.read
        ([(AttributeName.dataType, owner), (.dataField, field)].flatMap writeAttribute ++ '>' ::
          (writeNodes [.text field] ++ (writeClosing .anchor ++ rest))) =
      some ⟨owner, field, field⟩ := by
  simp [fieldLinks, attribute?_written, label?_written]

theorem finds_fieldLink (owner field : String) :
    fieldLinks.Finds [fieldLink owner field] [⟨owner, field, field⟩] :=
  .own (read_fieldLink owner field) (.text field)

/-! ## Enum values -/

/-- The names of enum values. -/
def valueSpans : Finder String where
  tag := .span
  style := "enum-value"
  read chars := (label? .span chars).map (·.1)

theorem finds_value_span (name : String) :
    valueSpans.Finds [Html.span "enum-value" [.text name]] [name] := by
  have reads (rest : List Char) : valueSpans.read
      ('>' :: (writeNodes [.text name] ++ (writeClosing .span ++ rest))) = some name := by
    simp only [valueSpans, label?_written, Option.map_some]
  exact .own reads (.text name)

/-! ## Arguments -/

/-- The characters up to the end of a span, without the tags in it. -/
def spanText : (insideTag : Bool) → List Char → List Char
  | _, [] => []
  | true, c :: rest => spanText (c != '>') rest
  | false, c :: rest =>
    if c = '<' then if "/span>".toList <+: rest then [] else spanText true rest
    else c :: spanText false rest

/-- An argument or input field as it is read. -/
structure ArgumentText where
  name : String
  /-- The name with the type and the default value behind it, as in a query. -/
  text : String
deriving DecidableEq

/-- The arguments and input fields. -/
def argumentSpans : Finder ArgumentText where
  tag := .span
  style := "arg"
  read chars := do
    let chars ← behind? ['>'] chars
    let chars ← behind? (Html.startOf .span "arg-name") chars
    let (name, chars) ← label? .span chars
    some ⟨name, name ++ String.ofList (unescape (spanText false chars))⟩

theorem spanText_of_text {chars : List Char} (plain : '<' ∉ chars) (rest : List Char) :
    spanText false (chars ++ rest) = chars ++ spanText false rest := by
  induction chars with
  | nil => rfl
  | cons c chars ih =>
    rw [List.cons_append, spanText, if_neg (Ne.symm (List.ne_of_not_mem_cons plain)),
      ih (List.not_mem_of_not_mem_cons plain)]
    rfl

private theorem spanText_of_tag {chars : List Char} (inside : '>' ∉ chars) (rest : List Char) :
    spanText true (chars ++ '>' :: rest) = spanText false rest := by
  induction chars with
  | nil => rfl
  | cons c chars ih =>
    have other : c ≠ '>' := Ne.symm (List.ne_of_not_mem_cons inside)
    have stays : (c != '>') = true := by simpa using other
    rw [List.cons_append, spanText, stays, ih (List.not_mem_of_not_mem_cons inside)]

/-- A tag that is not the end of the span is left out. -/
private theorem spanText_behind_tag {inner rest : List Char} (inside : '>' ∉ inner)
    (other : ¬ "/span>".toList <+: inner ++ '>' :: rest) :
    spanText false ('<' :: (inner ++ '>' :: rest)) = spanText false rest := by
  rw [spanText, if_pos rfl, if_neg other, spanText_of_tag inside]

/-- A span shows this text by the nodes, whatever is written behind them. -/
def Shows (nodes : List Node) (shown : String) : Prop :=
  ∀ rest, spanText false (writeNodes nodes ++ rest) =
    escapeChars shown.toList ++ spanText false rest

namespace Shows

theorem append {nodes more : List Node} {shown others : String} (one : Shows nodes shown)
    (two : Shows more others) : Shows (nodes ++ more) (shown ++ others) := by
  intro rest
  have escaped : escapeChars (shown ++ others).toList =
      escapeChars shown.toList ++ escapeChars others.toList := by
    rw [String.toList_append, escapeChars, List.flatMap_append]
    rfl
  rw [Html.writeNodes_append, List.append_assoc, one, two, escaped, List.append_assoc]

theorem text (content : String) : Shows [.text content] content := by
  intro rest
  have plain : '<' ∉ escapeChars content.toList := Html.not_mem_escapeChars (by decide) _
  rw [writeNodes, writeNodes, List.append_nil, Node.write, spanText_of_text plain]

/-- Of a link its label is shown. -/
theorem link (name : String) : Shows [typeLink name] name := by
  intro rest
  let inner :=
    "a class=\x22type-name\x22 data-type=\x22".toList ++ escapeChars name.toList ++ ['\x22']
  have written : writeNodes [typeLink name] ++ rest =
      '<' :: (inner ++
        '>' :: (writeNodes [.text name] ++ '<' :: ("/a".toList ++ '>' :: rest))) := by
    simp [inner, typeLink, writeNodes, Node.write, writeOpening, writeAttribute, writeClosing,
      Tag.name, AttributeName.chars, escapeChars, Html.escapeChar]
  have value : '>' ∉ escapeChars name.toList := Html.not_mem_escapeChars (by decide) _
  have inside : '>' ∉ inner := by simp [inner, value]
  rw [written, spanText_behind_tag inside (by simp [inner]), text name,
    spanText_behind_tag (by decide) (by simp)]

theorem linkedType_shows (type : TypeRef) : Shows (linkedType type) type.plain := by
  induction type with
  | named name => exact link name
  | list inner ih =>
    have shown := (text "[").append (ih.append (text "]"))
    simpa [TypeRef.plain, TypeRef.pieces, linkedType, TypeRef.markupWith, String.join_append,
      String.join_cons] using shown
  | nonNull inner ih =>
    have shown := ih.append (text "!")
    simpa [TypeRef.plain, TypeRef.pieces, linkedType, TypeRef.markupWith, String.join_append,
      String.join_cons] using shown

/-- The type and the default value of an argument. -/
theorem behind_name (argument : InputValue) :
    ∃ shown, argument.plain = argument.name ++ shown ∧
      Shows (.text ": " :: linkedType argument.type ++
        match argument.default with
        | some value => [.text " = ", .text value]
        | none => []) shown := by
  have typed := (text ": ").append (linkedType_shows argument.type)
  cases given : argument.default with
  | none =>
    refine ⟨": " ++ argument.type.plain, ?_, by simpa using typed⟩
    simp [InputValue.plain, InputValue.pieces, given, TypeRef.plain, String.join_cons]
  | some value =>
    refine ⟨_, ?_, typed.append ((text " = ").append (text value))⟩
    simp [InputValue.plain, InputValue.pieces, given, TypeRef.plain, String.join_append,
      String.join_cons, String.append_assoc]

end Shows

/-- The end of the span ends its text. -/
theorem spanText_of_end (rest : List Char) : spanText false (writeClosing .span ++ rest) = [] := by
  simp [writeClosing, Tag.name, spanText]

theorem read_argument (argument : InputValue) {behind : List Node} {shown : String}
    (plain : argument.plain = argument.name ++ shown) (shows : Shows behind shown)
    (rest : List Char) :
    argumentSpans.read ('>' :: (writeNodes (Html.span "arg-name" [.text argument.name] :: behind) ++
        (writeClosing .span ++ rest))) =
      some ⟨argument.name, argument.plain⟩ := by
  have written : '>' :: (writeNodes (Html.span "arg-name" [.text argument.name] :: behind) ++
        (writeClosing .span ++ rest)) =
      ['>'] ++ (Html.startOf .span "arg-name" ++ '>' :: (writeNodes [.text argument.name] ++
        (writeClosing .span ++ (writeNodes behind ++ (writeClosing .span ++ rest))))) := by
    simp [Html.span, writeNodes, Node.write, writeOpening, writeAttribute, Html.startOf,
      escapeChars, Html.escapeChar]
  have text : spanText false (writeNodes behind ++ (writeClosing .span ++ rest)) =
      escapeChars shown.toList := by
    rw [shows, spanText_of_end, List.append_nil]
  simp only [argumentSpans, written, behind?_append, Option.bind_eq_bind, Option.bind_some,
    label?_written, text, Html.unescape_escapeChars, String.ofList_toList, ← plain]

/-! ## Parts of bodies

A finder of links, arguments or values looks through the elements that lay a body out, and finds
what their children hold. What a text renderer returned must hold none of its own. -/

/-- The styles of the elements that lay out a body. -/
def layoutStyles : List String :=
  ["doc-section", "doc-section-title", "doc-description", "doc-deprecation", "deprecation-label",
    "doc-kind", "doc-type", "doc-enum-value", "arg-name"]

section Parts

variable {α : Type} {finder : Finder α} {body : List Node} {found : List α}

theorem style_ne_of_layout (layout : finder.style ∉ layoutStyles) {style : String}
    (listed : style ∈ layoutStyles) : finder.style ≠ style := by
  rintro rfl
  exact layout listed

theorem finds_in_layout (layout : finder.style ∉ layoutStyles) {tag : Tag} {style : String}
    (listed : style ∈ layoutStyles) (inside : finder.Finds body found) :
    finder.Finds [.element tag [(.styleClass, style)] body] found :=
  .element (style_ne_of_layout layout listed) inside

theorem finds_in_section (layout : finder.style ∉ layoutStyles) (title : String)
    (inside : finder.Finds body found) : finder.Finds [titledSection title body] found := by
  have head : finder.Finds [Html.div "doc-section-title" [.text title]] [] :=
    finds_in_layout layout (by decide) (.text title)
  exact finds_in_layout layout (by decide) (head.append inside)

theorem finds_in_sectionOfSome (layout : finder.style ∉ layoutStyles) (title : String)
    (inside : finder.Finds body found) : finder.Finds (sectionOfSome title body) found := by
  rw [sectionOfSome]
  split
  · rename_i empty
    rwa [← List.isEmpty_iff.mp empty]
  · exact finds_in_section layout title inside

theorem finds_in_description (layout : finder.style ∉ layoutStyles) {renderer : TextRenderer}
    (avoids : ∀ source, finder.Avoids (renderer source).toList) (text : Option String) :
    finder.Finds (describe renderer text) [] := by
  rw [describe]
  split
  · rename_i text _
    have shown : finder.Finds
        [.element .div [(.styleClass, "doc-description")] ([] ++ [.markup (renderer text)])] [] :=
      .rendered (style_ne_of_layout layout (by decide)) .nil (avoids text)
    exact shown
  · exact .nil

theorem finds_in_deprecation (layout : finder.style ∉ layoutStyles) {renderer : TextRenderer}
    (avoids : ∀ source, finder.Avoids (renderer source).toList) (reason : Option String) :
    finder.Finds (deprecationNote renderer reason) [] := by
  cases reason with
  | none => exact .nil
  | some reason =>
    have label : finder.Finds [Html.span "deprecation-label" [.text "Deprecated"]] [] :=
      finds_in_layout layout (by decide) (.text "Deprecated")
    have shown : finder.Finds [.element .div [(.styleClass, "doc-deprecation")]
        ([Html.span "deprecation-label" [.text "Deprecated"]] ++ [.markup (renderer reason)])] [] :=
      .rendered (style_ne_of_layout layout (by decide)) label (avoids reason)
    exact shown

/-- In a type as it is written nothing is found but the link to it. -/
theorem finds_in_type {link : String → List α}
    (links : ∀ name, finder.Finds [typeLink name] (link name)) (type : TypeRef) :
    finder.Finds (linkedType type) (link type.namedType) := by
  induction type with
  | named name => exact links name
  | list inner ih =>
    have bracketed := Finder.Finds.behind_text "[" (ih.append (.text "]"))
    rwa [List.append_nil] at bracketed
  | nonNull inner ih =>
    have marked := ih.append (.text "!")
    rwa [List.append_nil] at marked

theorem finds_in_argument (layout : finder.style ∉ layoutStyles) {link : String → List α}
    (links : ∀ name, finder.Finds [typeLink name] (link name)) (argument : InputValue) :
    finder.Finds
      (Html.span "arg-name" [.text argument.name] :: .text ": " :: linkedType argument.type ++
        match argument.default with
        | some value => [.text " = ", .text value]
        | none => [])
      (link argument.type.namedType) := by
  have named : finder.Finds [Html.span "arg-name" [.text argument.name]] [] :=
    finds_in_layout layout (by decide) (.text argument.name)
  have typed := named.append (.behind_text ": " (finds_in_type links argument.type))
  cases argument.default with
  | none => simpa using typed
  | some value => simpa using typed.append (.behind_text " = " (.text value))

/-- An argument is looked through by a finder of neither arguments nor links to types. -/
theorem finds_no_argument (layout : finder.style ∉ layoutStyles) (type : finder.style ≠ "type-name")
    (own : finder.style ≠ "arg") (argument : InputValue) :
    finder.Finds [argumentSpan argument] [] :=
  .element own (finds_in_argument layout (fun name => .element type (.text name)) argument)

theorem finds_in_argumentList {inArgument : InputValue → List α}
    (each : ∀ argument, finder.Finds [argumentSpan argument] (inArgument argument))
    (args : List InputValue) : finder.Finds (argumentList args) (args.flatMap inArgument) := by
  rw [argumentList]
  split
  · rename_i empty
    rw [List.isEmpty_iff.mp empty]
    exact .nil
  · have row := Finder.Finds.intersperse ", " each args
    have enclosed := Finder.Finds.behind_text "(" (row.append (.text ")"))
    rwa [List.append_nil] at enclosed

theorem flatMap_nothing {β : Type} (items : List β) :
    items.flatMap (fun _ => ([] : List α)) = [] :=
  List.flatMap_eq_nil_iff.mpr fun _ _ => rfl

end Parts

theorem finds_argument (argument : InputValue) :
    argumentSpans.Finds [argumentSpan argument] [⟨argument.name, argument.plain⟩] := by
  obtain ⟨shown, plain, shows⟩ := Shows.behind_name argument
  have inside : argumentSpans.Finds _ [] := finds_in_argument (by decide)
    (fun name => .element (by decide) (.text name)) argument
  exact .own (read_argument argument plain shows) inside

end SchemaGuide.Explorer
