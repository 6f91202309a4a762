import SchemaGuide.Overlay.Content
import SchemaGuide.Proofs.Html.Finding
import SchemaGuide.Proofs.Markdown.Vocabulary

/-! The badge in front of documentation. A badge is one element, whatever the name of its type is,
and it is put between two characters of rendered text. If that text is a balanced fragment, the
place lies between two nodes: a fragment that starts with the characters of a paragraph's tag
starts with that paragraph. So the result is the fragment with one more element, which leads its
first paragraph or the whole. -/
namespace SchemaGuide.Overlay

open Html (IsFragment IsElement Dialect)

/-! ## What is documented -/

/-- The text that is to be rendered for a suggestion. -/
inductive Suggestion.DocumentedBy (suggestion : Suggestion) (fallback : String) : String → Prop
  | description {text : String} (given : suggestion.description = some text) (filled : text ≠ "") :
    DocumentedBy suggestion fallback text
  | fallback (missing : suggestion.description = none ∨ suggestion.description = some "") :
    DocumentedBy suggestion fallback fallback

theorem Suggestion.documentedBy_text (suggestion : Suggestion) (fallback : String) :
    suggestion.DocumentedBy fallback (suggestion.text fallback) := by
  cases given : suggestion.description with
  | none =>
    rw [Suggestion.text, given]
    exact .fallback (.inl given)
  | some text =>
    by_cases empty : text = ""
    · subst empty
      rw [Suggestion.text, given]
      exact .fallback (.inr given)
    · have filled : text.isEmpty = false := by
        rwa [← Bool.not_eq_true, String.isEmpty_iff]
      have own : suggestion.text fallback = text := by
        simp [Suggestion.text, given, Option.filter, filled]
      rw [own]
      exact .description given empty

/-! ## Badges -/

/-- The notation of a type is balanced, whatever its name is. -/
theorem fragment_of_markup (type : TypeRef) :
    IsFragment (Html.writeNodes (type.markupWith typeName)) := by
  have mark (text : String) : IsFragment (Html.writeNodes [.text text]) :=
    Html.fragment_writeNodes _ fun output member => by
      simp [Html.partsOf, Html.Node.parts] at member
  induction type with
  | named name =>
    refine Html.fragment_writeNodes _ fun output member => ?_
    simp [TypeRef.markupWith, TypeRef.pieces, typeName, Html.partsOf, Html.Node.parts] at member
  | list inner ih =>
    rw [TypeRef.markupWith, TypeRef.pieces, Html.writeNodes_append, ← List.singleton_append,
      Html.writeNodes_append]
    exact ((mark "[").append ih).append (mark "]")
  | nonNull inner ih =>
    rw [TypeRef.markupWith, TypeRef.pieces, Html.writeNodes_append]
    exact ih.append (mark "!")

theorem element_of_badge (type : TypeRef) : IsElement (Style.html.badge type).toList := by
  have element : IsElement (Html.span "info-type" (type.markupWith typeName)).write :=
    .of_content .span [(.styleClass, "info-type")] (fragment_of_markup type)
  rwa [Style.badge, Html.render, String.toList_ofList, Html.writeNodes, Html.writeNodes,
    List.append_nil]

/-- A badge is the notation of its type in an element. -/
theorem badge_eq (type : TypeRef) :
    Style.html.badge type = "<span class=\"info-type\">" ++ type.markup ++ "</span>" := by
  have start : Html.writeOpening .span [(.styleClass, "info-type")] =
      "<span class=\"info-type\">".toList := by decide
  have stop : Html.writeClosing .span = "</span>".toList := by decide
  rw [← String.toList_inj, Style.badge, Html.render, Html.span, Html.writeNodes, Html.writeNodes,
    Html.Node.write, start, stop, TypeRef.markup, Html.render]
  simp only [String.toList_append, String.toList_ofList, List.append_nil]

/-! ## Where the badge goes -/

/-- The tag of a paragraph without attributes. -/
def paragraphTag : List Char := ['<', 'p', '>']

/-- The text with an element in front: as the first child of the paragraph that the text begins
with, or else as its first node. -/
inductive LedBy (element : List Char) : List Char → List Char → Prop where
  | inParagraph {inside closing behind : List Char} (content : IsFragment inside)
    (closes : Dialect.html.Closes ['p'] closing) (rest : IsFragment behind) :
    LedBy element (paragraphTag ++ inside ++ closing ++ behind)
      (paragraphTag ++ (element ++ inside) ++ closing ++ behind)
  | inFront {text : List Char} (other : ¬ paragraphTag <+: text) (fragment : IsFragment text) :
    LedBy element text (element ++ text)

theorem ledBy_splice (badge : String) {rendered : String} (balanced : IsFragment rendered.toList) :
    LedBy badge.toList rendered.toList (spliceBadge badge rendered).toList := by
  have tag : paragraphOpening.toList = paragraphTag := rfl
  rw [spliceBadge, Text.startsWith, tag]
  split
  · rename_i starts
    obtain ⟨rest, same⟩ := List.isPrefixOf_iff_prefix.mp starts
    rw [← same] at balanced
    obtain ⟨inside, closing, behind, rfl, content, closes, after⟩ :=
      IsFragment.of_paragraph balanced
    have led : LedBy badge.toList _ _ := .inParagraph content closes after
    simpa [← same, tag] using led
  · rename_i other
    rw [String.toList_append]
    exact .inFront (fun starts => other (List.isPrefixOf_iff_prefix.mpr starts)) balanced

/-- With a balanced element in front, a text stays balanced. -/
theorem LedBy.fragment {element text result : List Char} (led : LedBy element text result)
    (balanced : IsFragment element) : IsFragment result := by
  cases led with
  | inParagraph content closes rest => exact (balanced.append content).paragraph closes rest
  | inFront _ fragment => exact balanced.append fragment

/-- The documentation of a suggestion with a type is its rendered text with the badge of the type
in front: one whole element, which is the first child of the paragraph that the text begins with,
or else the first node of all. If the renderer returns balanced markup, all of it is balanced. -/
theorem badge_leads_info (renderer : TextRenderer) (fallback : String) (suggestion : Suggestion)
    {type : TypeRef} (balanced : ∀ source, IsFragment (renderer source).toList)
    (typed : suggestion.type = some type) :
    ∃ source, suggestion.DocumentedBy fallback source ∧
      Style.html.badge type = "<span class=\"info-type\">" ++ type.markup ++ "</span>" ∧
      IsElement (Style.html.badge type).toList ∧
      LedBy (Style.html.badge type).toList (renderer source).toList
        (composeInfo renderer .html fallback suggestion).toList ∧
      IsFragment (composeInfo renderer .html fallback suggestion).toList := by
  have info : composeInfo renderer .html fallback suggestion =
      spliceBadge (Style.html.badge type) (renderer (suggestion.text fallback)) := by
    rw [composeInfo, typed]
  have badge := element_of_badge type
  have led := ledBy_splice (Style.html.badge type) (balanced (suggestion.text fallback))
  rw [info]
  exact ⟨_, suggestion.documentedBy_text fallback, badge_eq type, badge, led,
    led.fragment badge.fragment⟩

/-- A name that looks like the end of the badge does not end it. -/
theorem badge_of_closing_name_leads_info :
    (∀ source, IsFragment (Markdown.render source).toList) ∧
    IsElement (Style.html.badge (.named "</span>")).toList ∧
    LedBy (Style.html.badge (.named "</span>")).toList "<p><em>a</em></p>\n".toList
      ("<p><span class=\"info-type\"><a class=\"type-name\">&lt;/span&gt;</a></span>" ++
        "<em>a</em></p>\n").toList := by
  refine ⟨Markdown.fragment_of_render, ?_⟩
  let suggestion : Suggestion := ⟨"f", some (.named "</span>"), some "*a*", none⟩
  obtain ⟨source, documented, -, element, led, -⟩ :=
    badge_leads_info Markdown.render "" suggestion Markdown.fragment_of_render rfl
  have rendered : Markdown.render "*a*" = "<p><em>a</em></p>\n" := by decide +kernel
  have info : composeInfo Markdown.render .html "" suggestion =
      "<p><span class=\"info-type\"><a class=\"type-name\">&lt;/span&gt;</a></span>" ++
        "<em>a</em></p>\n" := by
    decide +kernel
  cases documented with
  | description given _ =>
    obtain rfl := Option.some.inj given
    rw [rendered, info] at led
    exact ⟨element, led⟩
  | fallback missing => exact absurd missing (by decide)

end SchemaGuide.Overlay
