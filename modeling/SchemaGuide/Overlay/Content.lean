import SchemaGuide.Markdown.Render
import SchemaGuide.Schema.Signature
import SchemaGuide.Text.Substring

/-! The documentation of a suggestion. Its description is rendered, and its type goes in
front of that as a badge. If the rendered text opens with a paragraph, the badge stands
inside of it, so that it leads the first line and has no line of its own. -/
namespace SchemaGuide.Overlay

/-- Shown for a suggestion without a description, unless told otherwise. -/
def defaultFallback : String := "no description available"

/-- A candidate of a completion. -/
structure Suggestion where
  label : String
  type : Option TypeRef
  description : Option String
  deprecation : Option String
deriving DecidableEq

/-- The markup that documentation is written in. -/
inductive Style where
  | html
  | markdown
deriving DecidableEq, Repr

/-- The documentation of a suggestion. -/
structure Content where
  info : String
  /-- The note on its deprecation, if it is deprecated. -/
  deprecation : Option String
deriving DecidableEq, Repr

namespace Style

/-- The badge of a type. -/
def badge (style : Style) (type : TypeRef) : String :=
  match style with
  | .html => Html.render [Html.span "info-type" (type.markupWith typeName)]
  | .markdown => "\x60" ++ type.plain ++ "\x60 "

/-- What goes in front of the reason of a deprecation. -/
def deprecationLabel : Style → String
  | .html => Html.render [Html.span "deprecation-label" [.text "Deprecated"]]
  | .markdown => "**Deprecated** "

end Style

/-- What a rendered paragraph opens with. -/
def paragraphOpening : String := "<p>"

/-- A badge in front of rendered text, inside the paragraph that the text may open with. -/
def spliceBadge (badge rendered : String) : String :=
  if Text.startsWith paragraphOpening.toList rendered.toList then
    paragraphOpening ++ badge ++
      String.ofList (rendered.toList.drop paragraphOpening.toList.length)
  else badge ++ rendered

/-- The text that documents a suggestion: its description, or the fallback where there is
none. -/
def Suggestion.text (suggestion : Suggestion) (fallback : String) : String :=
  (suggestion.description.filter fun text => !text.isEmpty).getD fallback

/-- The documentation of a suggestion, apart from its deprecation. -/
def composeInfo (renderer : TextRenderer) (style : Style) (fallback : String)
    (suggestion : Suggestion) : String :=
  let rendered := renderer (suggestion.text fallback)
  match suggestion.type with
  | some type => spliceBadge (style.badge type) rendered
  | none => rendered

/-- The note on the deprecation of a suggestion. -/
def composeDeprecation (renderer : TextRenderer) (style : Style) (suggestion : Suggestion) :
    Option String :=
  suggestion.deprecation.map fun reason => style.deprecationLabel ++ renderer reason

/-- The documentation of a suggestion. -/
def compose (renderer : TextRenderer) (style : Style) (fallback : String)
    (suggestion : Suggestion) : Content where
  info := composeInfo renderer style fallback suggestion
  deprecation := composeDeprecation renderer style suggestion

end SchemaGuide.Overlay
