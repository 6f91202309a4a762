import SchemaGuide.Completion.Item
import SchemaGuide.Completion.Subject
import SchemaGuide.Settings.Basic

/-! The documentation of an item, added when an editor shows the item. An item whose subject
cannot be found stays as it is. -/
namespace SchemaGuide.Completion

/-- How descriptions are rendered for a style: markup is made of them for one that shows
markup, and an editor that renders them itself gets them as they are. -/
def rendererFor : Overlay.Style → TextRenderer
  | .html => Markdown.render
  | .markdown => verbatim

/-- The documentation of a suggestion in one text. -/
def documentationOf (settings : Settings) (suggestion : Overlay.Suggestion) : String :=
  let content := Overlay.compose (rendererFor settings.markup) settings.markup
    settings.fallbackDescription suggestion
  match content.deprecation with
  | some note => content.info ++ "\n\n" ++ note
  | none => content.info

/-- The suggestion that documents an item, if the schema has the subject of the item. -/
def suggestionFor? (schema : Schema) (item : Item) : Option Overlay.Suggestion := do
  let subject ← Subject.ofJson? (← item.data)
  subject.suggestion? schema

/-- The item with its documentation. -/
def document (settings : Settings) (schema : Schema) (item : Item) : Item :=
  match suggestionFor? schema item with
  | some suggestion =>
    { item with
      documentation := some (.markup markdownKind (documentationOf settings suggestion)) }
  | none => item

end SchemaGuide.Completion
