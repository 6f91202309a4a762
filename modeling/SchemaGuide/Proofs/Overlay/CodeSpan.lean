import SchemaGuide.Overlay.Content
import SchemaGuide.Proofs.Markdown.Leading
import SchemaGuide.Proofs.Schema.Decoding
import SchemaGuide.Proofs.Schema.Notation

/-! The badge in front of documentation that is Markdown. It should be a code span that shows the
notation of the type, so that nothing of a name is read as Markdown. But the notation is put between
single backticks as it is, and a name can be any text: a backtick in it ends the code, a line break
in it can end the paragraph, and the empty name leaves nothing to be code. The badge is one code
span exactly if none of that is the case, and then a reader of Markdown takes it for code in front
of any description, except one that starts with the tag of a paragraph, which makes markup of
both. -/
namespace SchemaGuide

/-! ## Notations as code -/

/-- Single backticks are enough for the notation of the type. -/
structure TypeRef.FitsCode (type : TypeRef) : Prop where
  filled : type ≠ .named ""
  plain : ∀ c ∈ type.namedType.toList, c ≠ '\x60' ∧ Markdown.isLineChar c = true

theorem TypeRef.fitsCode_iff (type : TypeRef) :
    Markdown.FitsCode type.plain.toList ↔ type.FitsCode := by
  have name : ∀ c ∈ type.namedType.toList, c ∈ type.plain.toList := by
    intro c member
    rw [toList_plain]
    exact List.mem_append_left _ (List.mem_append_right _ member)
  constructor
  · intro fits
    refine ⟨?_, fun c member => fits.plain c (name c member)⟩
    rintro rfl
    exact fits.filled rfl
  · intro fits
    constructor
    · intro empty
      rw [toList_plain, List.append_eq_nil_iff, List.append_eq_nil_iff] at empty
      obtain ⟨⟨-, noName⟩, noMark⟩ := empty
      cases type with
      | named name =>
        rw [namedType, String.toList_eq_nil_iff] at noName
        exact fits.filled (congrArg _ noName)
      | list inner => exact absurd noMark (by simp [closing])
      | nonNull inner => exact absurd noMark (by simp [closing])
    · intro c member
      rw [toList_plain, List.mem_append, List.mem_append] at member
      rcases member with (front | inside) | behind
      · rw [type.opening_eq c front]
        exact ⟨by decide, rfl⟩
      · exact fits.plain c inside
      · rcases type.closing_eq c behind with rfl | rfl
        · exact ⟨by decide, rfl⟩
        · exact ⟨by decide, rfl⟩

/-! ## Names of schemas -/

namespace Introspection

section Delivery

variable (name : String)

private def leafValue : Json :=
  .ofNamed [("kind", .ofText "SCALAR"), ("name", .ofText name)]

private def holderValue : Json :=
  .ofNamed [("kind", .ofText "OBJECT"), ("name", .ofText "T"), ("fields", .array
    [.ofNamed [("name", .ofText "f"), ("type", leafValue name)]])]

/-- A result with one field, whose type has that name. -/
def resultOfField : Json :=
  .ofNamed [("__schema", .ofNamed [("types", .array [holderValue name])])]

/-- A field whose type has that name. -/
def fieldOfName : Field := ⟨"f", .named name, none, none, []⟩

/-- The schema with that field. -/
def schemaOfField : Schema where
  description := none
  query := none
  mutation := none
  subscription := none
  types := ⟨[⟨"T", .object, none, [fieldOfName name], [], [], [], []⟩], List.pairwise_singleton _ _⟩

private theorem leaf_laidOut (levels : Nat) :
    TypeRef.LaidOut (levels + 1) (.named name) (leafValue name) :=
  .named .scalar ⟨_, rfl, by simp⟩ ⟨_, rfl, rfl⟩ ⟨_, rfl, rfl⟩ (.inl rfl)

private theorem field_laidOut : Field.LaidOut 122 (fieldOfName name)
    (.ofNamed [("name", .ofText "f"), ("type", leafValue name)]) :=
  .mk {
    isRecord := ⟨_, rfl, by simp⟩
    name := ⟨_, rfl, rfl⟩
    description := .inl rfl
    args := .inr ⟨rfl, rfl⟩
    type := ⟨_, rfl, leaf_laidOut name _⟩
    deprecation := .no (.inl rfl) (.inl rfl) }

private theorem holder_laidOut : NamedType.LaidOut 124
    ⟨"T", .object, none, [fieldOfName name], [], [], [], []⟩ (holderValue name) :=
  .mk {
    isRecord := ⟨_, rfl, by simp⟩
    kind := ⟨_, rfl, rfl⟩
    name := ⟨_, rfl, rfl⟩
    description := .inl rfl
    fields := .inl ⟨_, rfl, .mk ⟨_, rfl, .cons (field_laidOut name) .nil⟩⟩
    inputFields := .inr ⟨rfl, .inl rfl⟩
    interfaces := .inr ⟨rfl, .inl rfl⟩
    enumValues := .inr ⟨rfl, .inl rfl⟩
    possibleTypes := .inr ⟨rfl, .inl rfl⟩ }

private theorem schema_laidOut : Schema.LaidOut 126 (schemaOfField name)
    (.ofNamed [("types", .array [holderValue name])]) :=
  .mk {
    isRecord := ⟨_, rfl, by simp⟩
    description := .inl rfl
    query := .inl rfl
    mutation := .inl rfl
    subscription := .inl rfl
    types := ⟨_, .refl _, .inl ⟨_, rfl, .mk ⟨_, rfl, .cons (holder_laidOut name) .nil⟩⟩⟩ }

private theorem resultOfField_laidOut : ResultLaidOut maxDepth (schemaOfField name)
    (resultOfField name) :=
  .mk {
    isRecord := ⟨_, rfl, by simp⟩
    carries := ⟨none, some (schemaOfField name), .inl rfl, ⟨_, rfl, schema_laidOut name⟩, rfl⟩
    errors := ⟨none, .inl rfl⟩ }

/-- A type can have any text for its name: there is a result that delivers it. -/
theorem every_name_is_delivered :
    parse (Json.print (resultOfField name)) = .ok (schemaOfField name) :=
  parse_of_spells (Json.spells_print (by
      simp [resultOfField, holderValue, leafValue, Json.ofNamed, Json.ofText, Json.IsPrintable,
        Json.arePrintable, Json.membersPrintable]))
    (resultOfField_laidOut name) (by
      simp [Schema.Explained, NamedType.Explained, Field.Explained, schemaOfField, fieldOfName])

end Delivery

end Introspection

namespace Overlay

open Markdown (Leads parse)
open Markdown.Scan (codeText)

/-! ## Badges -/

/-- The text is one code span around this content, and a blank. -/
def IsCodeSpan (content text : String) : Prop :=
  text.toList = Markdown.inBackticks content.toList ∧ Markdown.FitsCode content.toList

theorem toList_markdown_badge (type : TypeRef) :
    (Style.markdown.badge type).toList = Markdown.inBackticks type.plain.toList := by
  rw [Style.badge, String.toList_append, String.toList_append, Markdown.inBackticks]
  rfl

theorem badge_isCodeSpan_iff (type : TypeRef) :
    IsCodeSpan type.plain (Style.markdown.badge type) ↔ type.FitsCode := by
  rw [IsCodeSpan, type.fitsCode_iff, and_iff_right (toList_markdown_badge type)]

/-- With a badge that is a code span in front, a text starts with code, unless the badge goes into
the paragraph that the text starts with. -/
theorem code_leads_splice_iff {type : TypeRef} (fits : type.FitsCode) (rendered : String) :
    Leads (.code (codeText (.ofChars type.plain.toList)))
        (parse (spliceBadge (Style.markdown.badge type) rendered).toList) ↔
      ¬ paragraphOpening.toList <+: rendered.toList := by
  rw [← List.isPrefixOf_iff_prefix]
  unfold spliceBadge Text.startsWith
  split
  · rename_i opens
    refine iff_of_false ?_ (fun other => other opens)
    rw [String.toList_append, String.toList_append, List.append_assoc]
    exact Markdown.not_leads_of_paragraphTag _ _
  · rename_i other
    refine iff_of_true ?_ other
    rw [String.toList_append, toList_markdown_badge]
    exact Markdown.code_leads_document (type.fitsCode_iff.mpr fits) _

/-- **A badge is a code span if the name allows it.** In Markdown, the documentation of a suggestion
with a type is its rendered text with the badge of the type in front, and the name of the type can
be any text. The badge is one code span that shows the notation of the type, with no backtick and
no line break inside, exactly if the name has neither and the notation is not empty. In that case a
reader of Markdown takes the badge for code, which stands first in the document, whatever the rest
of the text is, unless the rendered text starts with the tag of a paragraph. -/
theorem info_is_led_by_code_span_iff (renderer : TextRenderer) (fallback : String)
    (suggestion : Suggestion) {type : TypeRef} (typed : suggestion.type = some type) :
    let badge := Style.markdown.badge type
    let rendered := renderer (suggestion.text fallback)
    let info := composeInfo renderer .markdown fallback suggestion
    info = spliceBadge badge rendered ∧
    (∃ text schema, Introspection.parse text = .ok schema ∧
      ∃ holder ∈ schema.types.entries, ∃ field ∈ holder.fields,
        field.type = .named type.namedType) ∧
    (IsCodeSpan type.plain badge ↔ type.FitsCode) ∧
    (type.FitsCode →
      (Leads (.code (codeText (.ofChars type.plain.toList))) (parse info.toList) ↔
        ¬ paragraphOpening.toList <+: rendered.toList)) := by
  intro badge rendered info
  have composed : info = spliceBadge badge rendered := by
    show composeInfo renderer .markdown fallback suggestion = _
    rw [composeInfo, typed]
  have delivered := Introspection.every_name_is_delivered type.namedType
  refine ⟨composed, ⟨_, _, delivered, _, List.mem_singleton_self _, _, List.mem_singleton_self _,
    rfl⟩, badge_isCodeSpan_iff type, fun fits => ?_⟩
  rw [composed]
  exact code_leads_splice_iff fits rendered

private def listed : Suggestion :=
  ⟨"users", some (.list (.named "User")), some "\x60d", none⟩

/-- The notation of a list is code in front of a description, and no part of the description. -/
theorem info_of_list_is_led_by_code_span :
    listed.type = some (.list (.named "User")) ∧
    IsCodeSpan "[User]" "\x60[User]\x60 " ∧
    Leads (.code ['[', 'U', 's', 'e', 'r', ']']) (parse "\x60[User]\x60 \x60d".toList) := by
  have letters : ∀ c ∈ ['U', 's', 'e', 'r'], c ≠ '\x60' ∧ Markdown.isLineChar c = true := by
    simp [Markdown.isLineChar]
  have fits : (TypeRef.list (.named "User")).FitsCode := ⟨nofun, letters⟩
  have plain : (TypeRef.list (.named "User")).plain = "[User]" := by decide
  have badge : Style.markdown.badge (.list (.named "User")) = "\x60[User]\x60 " := by decide
  have info : composeInfo verbatim .markdown "" listed = "\x60[User]\x60 \x60d" := by decide
  obtain ⟨-, -, span, leads⟩ := info_is_led_by_code_span_iff verbatim "" listed rfl
  rw [plain, badge] at span
  rw [plain, info] at leads
  exact ⟨rfl, span.mpr fits, (leads fits).mpr (by decide)⟩

/-- A name that ends the code, and has emphasis behind that. -/
private def tickName : String := "a\x60*b*"

/-- A name with a line that is a heading. -/
private def lineName : String := "a\n# b"

private def named (name : String) : Suggestion :=
  ⟨"f", some (.named name), some "d", none⟩

/-- Names that are delivered break out of the badge. -/
theorem names_break_out_of_badge :
    Introspection.parse (Json.print (Introspection.resultOfField tickName)) =
      .ok (Introspection.schemaOfField tickName) ∧
    Introspection.parse (Json.print (Introspection.resultOfField lineName)) =
      .ok (Introspection.schemaOfField lineName) ∧
    ¬ IsCodeSpan (TypeRef.named tickName).plain (Style.markdown.badge (.named tickName)) ∧
    ¬ IsCodeSpan (TypeRef.named lineName).plain (Style.markdown.badge (.named lineName)) ∧
    Markdown.render (composeInfo verbatim .markdown "" (named tickName)) =
      "<p><code>a</code><em>b</em>\x60 d</p>\n" ∧
    Markdown.render (composeInfo verbatim .markdown "" (named lineName)) =
      "<p>\x60a</p>\n<h1>b\x60 d</h1>\n" := by
  have tick : ¬ (TypeRef.named tickName).FitsCode := fun fits =>
    (fits.plain '\x60' (by decide)).1 rfl
  have line : ¬ (TypeRef.named lineName).FitsCode := fun fits =>
    absurd (fits.plain '\n' (by decide)).2 (by decide)
  refine ⟨Introspection.every_name_is_delivered _, Introspection.every_name_is_delivered _,
    fun span => tick ((badge_isCodeSpan_iff _).mp span),
    fun span => line ((badge_isCodeSpan_iff _).mp span), ?_, ?_⟩
  · decide +kernel
  · decide +kernel

end Overlay
end SchemaGuide
