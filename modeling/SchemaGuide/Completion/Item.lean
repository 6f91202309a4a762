import SchemaGuide.Json.Shape

/-! Completion items, as an editor and this library pass them back and forth. An item that
comes from an editor may hold more than this library reads; that is kept, in its normal
form. -/
namespace SchemaGuide.Completion

/-- The documentation of an item. -/
inductive Documentation where
  | plain (text : String)
  /-- A text in a markup of that name. -/
  | markup (kind text : String)
deriving DecidableEq, Repr

/-- A completion item. -/
structure Item where
  /-- The text that is shown, and inserted unless there is another to insert. -/
  label : String
  kind : Option Int
  /-- A short text beside the label. -/
  detail : Option String
  documentation : Option Documentation
  /-- The text that the typed characters are compared with. -/
  filterText : Option String
  insertText : Option String
  tags : Option (List Int)
  /-- What the maker of the item needs to find its subject again. -/
  data : Option Json
  /-- The members that only an editor reads. -/
  others : List (String × Json)

namespace Item

/-- An item with a label and nothing else. -/
def ofLabel (label : String) : Item where
  label := label
  kind := none
  detail := none
  documentation := none
  filterText := none
  insertText := none
  tags := none
  data := none
  others := []

end Item

/-- The kind of an item for a field. -/
def fieldKind : Int := 5

/-- The kind of an item for an argument. -/
def argumentKind : Int := 10

/-- The tag of an item for something deprecated. -/
def deprecatedTag : Int := 1

/-- The markup that documentation is written in. -/
def markdownKind : String := "markdown"

/-! ## Items as JSON -/

open Json (Shape)

/-- A signed integer of 32 bits. -/
def signed : Shape := .integer (-0x80000000) 0x7FFFFFFF

/-- An unsigned integer of 32 bits. -/
def unsigned : Shape := .integer 0 0xFFFFFFFF

/-- A place in a document. -/
def position : Shape :=
  .recordOf [⟨"line", true, unsigned⟩, ⟨"character", true, unsigned⟩]

/-- A part of a document. -/
def range : Shape :=
  .recordOf [⟨"start", true, position⟩, ⟨"end", true, position⟩]

/-- An edit of a document. -/
def textEdit : Shape :=
  .recordOf [⟨"range", true, range⟩, ⟨"newText", true, .text⟩]

/-- An edit that an editor applies in one of two ranges. -/
def insertReplaceEdit : Shape :=
  .recordOf [⟨"newText", true, .text⟩, ⟨"insert", true, range⟩, ⟨"replace", true, range⟩]

/-- A command of an editor. -/
def command : Shape :=
  .recordOf [⟨"title", true, .text⟩, ⟨"command", true, .text⟩,
    ⟨"arguments", false, .listOf .any⟩]

/-- Texts beside the label. -/
def labelDetails : Shape :=
  .recordOf [⟨"detail", false, .text⟩, ⟨"description", false, .text⟩]

/-- Documentation in a markup. -/
def markupContent : Shape :=
  .recordOf [⟨"kind", true, .word ["plaintext", markdownKind]⟩, ⟨"value", true, .text⟩]

/-- An item. -/
def item : Shape :=
  .recordOf [
    ⟨"label", true, .text⟩,
    ⟨"labelDetails", false, labelDetails⟩,
    ⟨"kind", false, signed⟩,
    ⟨"detail", false, .text⟩,
    ⟨"documentation", false, .either .text markupContent⟩,
    ⟨"deprecated", false, .bool⟩,
    ⟨"preselect", false, .bool⟩,
    ⟨"sortText", false, .text⟩,
    ⟨"filterText", false, .text⟩,
    ⟨"insertText", false, .text⟩,
    ⟨"insertTextFormat", false, signed⟩,
    ⟨"insertTextMode", false, signed⟩,
    ⟨"textEdit", false, .either textEdit insertReplaceEdit⟩,
    ⟨"additionalTextEdits", false, .listOf textEdit⟩,
    ⟨"command", false, command⟩,
    ⟨"commitCharacters", false, .listOf .text⟩,
    ⟨"data", false, .any⟩,
    ⟨"tags", false, .listOf signed⟩]

/-- The members of an item that this library reads. -/
def readMembers : List String :=
  ["label", "kind", "detail", "documentation", "filterText", "insertText", "tags", "data"]

/-- The documentation that a value in normal form describes. -/
def Documentation.ofJson? : Json → Option Documentation
  | .string text => text.map .plain
  | value => do
    some (.markup (← (← value.member? "kind").text?) (← (← value.member? "value").text?))

/-- Documentation as JSON. -/
def Documentation.toJson : Documentation → Json
  | .plain text => .ofText text
  | .markup kind text =>
    .ofMembers [("kind", some (.ofText kind)), ("value", some (.ofText text))]

namespace Item

/-- The item that a value describes. -/
def ofJson? (value : Json) : Option Item := do
  let value ← item value
  let text (name : String) : Option String := (value.member? name).bind Json.text?
  some {
    label := ← text "label"
    kind := (value.member? "kind").bind Json.int?
    detail := text "detail"
    documentation := (value.member? "documentation").bind Documentation.ofJson?
    filterText := text "filterText"
    insertText := text "insertText"
    tags := (value.member? "tags").map fun tags => tags.items.filterMap Json.int?
    data := value.member? "data"
    others := value.members.filter fun member => !readMembers.contains member.1 }

/-- The item as JSON. -/
def toJson (item : Item) : Json :=
  .ofMembers ([
    ("label", some (.ofText item.label)),
    ("kind", item.kind.map .ofInt),
    ("detail", item.detail.map .ofText),
    ("documentation", item.documentation.map (·.toJson)),
    ("filterText", item.filterText.map .ofText),
    ("insertText", item.insertText.map .ofText),
    ("tags", item.tags.map fun tags => .array (tags.map .ofInt)),
    ("data", item.data)] ++ item.others.map fun member => (member.1, some member.2))

end Item
end SchemaGuide.Completion
