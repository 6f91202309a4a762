import SchemaGuide.Markdown.Page

/-! The tags of a page. A document has the tags of its elements, each around those of its content;
its texts and the markup that stands in its source have none. The parts of a page nest in the same
way: they close every element that they open where its content ends. -/
namespace SchemaGuide.Markdown

/-! ## Tags of documents -/

/-- The tags of an element around those of its content. -/
def tagsAround (name : String) (inside : List String) : List String :=
  name :: inside ++ ["/" ++ name]

mutual

/-- The tags of inline content. -/
def Inline.tags : Inline → List String
  | .text _ | .markup _ | .softBreak => []
  | .code _ => tagsAround "code" []
  | .emphasis content => tagsAround "em" (inlineTags content)
  | .strong content => tagsAround "strong" (inlineTags content)
  | .strikethrough content => tagsAround "del" (inlineTags content)
  | .link _ _ content => tagsAround "a" (inlineTags content)
  | .image _ _ _ => tagsAround "img" []
  | .hardBreak => tagsAround "br" []

/-- The tags of several contents. -/
def inlineTags : List Inline → List String
  | [] => []
  | content :: rest => content.tags ++ inlineTags rest

end

/-- The name of a heading. -/
def headingName (level : Fin 6) : String :=
  ["h1", "h2", "h3", "h4", "h5", "h6"][level]

mutual

/-- The tags of a block. In a tight list a paragraph is its content alone. -/
def Block.tags (tight : Bool) : Block (List Inline) → List String
  | .paragraph content =>
    if tight then inlineTags content else tagsAround "p" (inlineTags content)
  | .heading level content => tagsAround (headingName level) (inlineTags content)
  | .code _ _ => tagsAround "pre" (tagsAround "code" [])
  | .html _ => []
  | .rule => tagsAround "hr" []
  | .quote children => tagsAround "blockquote" (blockTags false children)
  | .list tight start items =>
    tagsAround (if start.isSome then "ol" else "ul") (blockTags tight items)
  | .item children => tagsAround "li" (blockTags tight children)

/-- The tags of several blocks. -/
def blockTags (tight : Bool) : List (Block (List Inline)) → List String
  | [] => []
  | block :: rest => block.tags tight ++ blockTags tight rest

end

/-! ## Nesting of parts -/

/-- The parts close every element that they open, and have these tags. -/
inductive Nests : List Part → List String → Prop where
  | nil : Nests [] []
  | text (content : List Char) {parts : List Part} {tags : List String}
    (rest : Nests parts tags) : Nests (.text content :: parts) tags
  | markup (content : List Char) {parts : List Part} {tags : List String}
    (rest : Nests parts tags) : Nests (.markup content :: parts) tags
  | lineEnd {parts : List Part} {tags : List String} (rest : Nests parts tags) :
    Nests (.lineEnd :: parts) tags
  | void (tag : VoidTag) (attributes : List Attribute) {parts : List Part} {tags : List String}
    (rest : Nests parts tags) :
    Nests (.void tag attributes :: parts) (tagsAround (String.ofList tag.name) [] ++ tags)
  | element (tag : Tag) (attributes : List Attribute) {parts more : List Part}
    {tags others : List String} (inside : Nests parts tags) (rest : Nests more others) :
    Nests (.opening tag attributes :: parts ++ .closing tag :: more)
      (tagsAround (String.ofList tag.name) tags ++ others)

namespace Nests

variable {parts more : List Part} {tags others : List String}

theorem append (one : Nests parts tags) (two : Nests more others) :
    Nests (parts ++ more) (tags ++ others) := by
  induction one with
  | nil => exact two
  | text content _ ih => exact .text content ih
  | markup content _ ih => exact .markup content ih
  | lineEnd _ ih => exact .lineEnd ih
  | void tag attributes _ ih =>
    rw [List.append_assoc]
    exact .void tag attributes ih
  | element tag attributes inside _ _ ih =>
    rw [List.append_assoc, List.append_assoc]
    exact .element tag attributes inside ih

/-- One element around its content. -/
theorem around (tag : Tag) (attributes : List Attribute) (inside : Nests parts tags) :
    Nests (.opening tag attributes :: parts ++ [.closing tag])
      (tagsAround (String.ofList tag.name) tags) := by
  simpa using element tag attributes inside .nil

end Nests

mutual

theorem Inline.nests : ∀ content : Inline, Nests content.parts content.tags
  | .text content => .text content .nil
  | .markup content => .markup content .nil
  | .softBreak => .lineEnd .nil
  | .hardBreak => .void .lineBreak [] (.lineEnd .nil)
  | .code content => .around .code [] (.text content .nil)
  | .emphasis content => .around .emphasis [] (nests_inlineParts content)
  | .strong content => .around .strong [] (nests_inlineParts content)
  | .strikethrough content => .around .strikethrough [] (nests_inlineParts content)
  | .link _ _ content => .around .anchor _ (nests_inlineParts content)
  | .image _ _ _ => .void .image _ .nil

/-- Inline content has the tags of its parts. -/
theorem nests_inlineParts : ∀ contents : List Inline,
    Nests (inlineParts contents) (inlineTags contents)
  | [] => .nil
  | content :: rest => content.nests.append (nests_inlineParts rest)

end

/-! ## Nesting of blocks -/

/-- The parts are those that were written and more behind them, with these tags; both stand last
first. -/
def Extends (written after : List Part) (tags : List String) : Prop :=
  ∃ added, after = added.reverse ++ written ∧ Nests added tags

namespace Extends

variable {written after later : List Part} {tags others : List String}

theorem refl (written : List Part) : Extends written written [] :=
  ⟨[], rfl, .nil⟩

theorem trans (one : Extends written after tags) (two : Extends after later others) :
    Extends written later (tags ++ others) := by
  obtain ⟨added, rfl, nests⟩ := one
  obtain ⟨more, rfl, nestsMore⟩ := two
  exact ⟨added ++ more, by simp, nests.append nestsMore⟩

theorem lineEnd (extended : Extends written after tags) :
    Extends written (.lineEnd :: after) tags := by
  have ended : Extends after (.lineEnd :: after) [] := ⟨[.lineEnd], rfl, .lineEnd .nil⟩
  simpa using extended.trans ended

theorem freshLine (written : List Part) : Extends written (freshLine written) [] := by
  rw [Markdown.freshLine]
  split
  · exact refl written
  · exact (refl written).lineEnd

theorem inline (written : List Part) (content : List Inline) :
    Extends written ((inlineParts content).reverse ++ written) (inlineTags content) :=
  ⟨_, rfl, nests_inlineParts content⟩

/-- An element around what follows its opening tag. -/
theorem closing {tag : Tag} {attributes : List Attribute}
    (inside : Extends (.opening tag attributes :: written) after tags) :
    Extends written (.closing tag :: after) (tagsAround (String.ofList tag.name) tags) := by
  obtain ⟨added, rfl, nests⟩ := inside
  exact ⟨_, by simp, nests.around tag attributes⟩

/-- An element that starts on a line of its own and ends its line. -/
theorem ownLine {tag : Tag} {attributes : List Attribute}
    (inside : Extends (.opening tag attributes :: Markdown.freshLine written) after tags) :
    Extends written (.lineEnd :: .closing tag :: after)
      (tagsAround (String.ofList tag.name) tags) :=
  ((freshLine written).trans inside.closing).lineEnd

end Extends

mutual

theorem Block.extends_parts (tight : Bool) (written : List Part) :
    ∀ block : Block (List Inline), Extends written (block.parts tight written) (block.tags tight)
  | .paragraph content => by
    rw [Block.parts, Block.tags]
    split
    · exact .inline written content
    · exact .ownLine (.inline _ content)
  | .heading level content => by
    have name : String.ofList (Tag.heading level).name = headingName level := by
      revert level
      decide
    rw [Block.parts, Block.tags, ← name]
    exact .ownLine (.inline _ content)
  | .code _ content => by
    have text (earlier : List Part) : Extends earlier (.text content :: earlier) [] :=
      ⟨[.text content], rfl, .text content .nil⟩
    exact .ownLine (text _).closing
  | .html content => ⟨[.markup content], rfl, .markup content .nil⟩
  | .rule => by
    have rule (earlier : List Part) :
        Extends earlier (.void .rule [] :: earlier) (tagsAround "hr" []) :=
      ⟨[.void .rule []], rfl, .void .rule [] .nil⟩
    exact ((Extends.freshLine written).trans (rule _)).lineEnd
  | .quote children => by
    have inside := extends_blockParts false
      (.lineEnd :: .opening .quote [] :: freshLine written) children
    exact .ownLine ((Extends.refl _).lineEnd.trans inside)
  | .list tight start items => by
    have inside (opening : Part) := (Extends.refl (opening :: freshLine written)).lineEnd.trans
      (extends_blockParts tight (.lineEnd :: opening :: freshLine written) items)
    cases start with
    | none => exact .ownLine (inside _)
    | some number => exact .ownLine (inside _)
  | .item children => .ownLine (extends_blockParts tight _ children)

/-- Blocks have the tags of their parts. -/
theorem extends_blockParts (tight : Bool) (written : List Part) :
    ∀ blocks : List (Block (List Inline)),
      Extends written (blockParts tight written blocks) (blockTags tight blocks)
  | [] => .refl written
  | block :: rest =>
    (block.extends_parts tight written).trans (extends_blockParts tight _ rest)

end

/-- The parts of a document nest, and have the tags of the document. -/
theorem nests_documentParts (blocks : List (Block (List Inline))) :
    Nests (documentParts blocks) (blockTags false blocks) := by
  obtain ⟨added, parts, nests⟩ := extends_blockParts false [] blocks
  rwa [documentParts, parts, List.append_nil, List.reverse_reverse]

end SchemaGuide.Markdown
