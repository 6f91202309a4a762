import Mathlib.Data.List.Nodup
import SchemaGuide.Proofs.Json.Given

/-! Layouts of data as JSON, and how records laid out so are read. A layout says which values
describe some data and counts levels: every object and every array takes one, and what stands
behind keys that the layout does not know takes none. A record is read by its keys, whatever
their order is and whatever else the object holds. -/
namespace SchemaGuide

namespace Json

/-! ## Records -/

/-- An object of members that have texts for their names. -/
def ofNamed (members : List (String × Json)) : Json :=
  .object (members.map fun member => (some member.1, member.2))

/-- The value is a record of these keys: an object that has each of them once at most. -/
def IsRecord (keys : List String) (value : Json) : Prop :=
  ∃ members, value = ofNamed members ∧ ∀ key ∈ keys, (members.map (·.1)).count key ≤ 1

/-- The key has a value, and the value is such. -/
def Gives (value : Json) (key : String) (such : Json → Prop) : Prop :=
  ∃ part, value.member? key = some part ∧ such part

/-- The key is missing, or it is null. -/
def Lacks (value : Json) (key : String) : Prop :=
  value.member? key = none ∨ value.member? key = some .null

/-- What is there is laid out as the value of the key. -/
def MayGive {α : Type} (value : Json) (key : String) (layout : α → Json → Prop) :
    Option α → Prop
  | some x => value.Gives key (layout x)
  | none => value.Lacks key

/-- The value is the text. -/
def IsText (text : String) (value : Json) : Prop :=
  value = ofText text

end Json

/-! ## Levels -/

/-- How something is laid out as a value within a number of levels. -/
abbrev Layout (α : Type) : Type := Nat → α → Json → Prop

namespace Layout

variable {α : Type}

/-- A layout that takes a level for itself and leaves the others to its parts. -/
inductive Level (parts : Layout α) : Layout α where
  | mk {levels : Nat} {x : α} {value : Json} (inside : parts levels x value) :
    Level parts (levels + 1) x value

/-- An array of what is laid out so. -/
def ArrayOf (item : Layout α) : Layout (List α) :=
  Level fun levels list value =>
    ∃ items, value = .array items ∧ List.Forall₂ (item levels) list items

/-- A list behind a key, which can be missing or null if there is nothing in the list. -/
def MayListAt (item : Layout α) (key : String) : Layout (List α) := fun levels list value =>
  value.Gives key (item.ArrayOf levels list) ∨ list = [] ∧ value.Lacks key

/-- A list behind a key, which can be missing if there is nothing in the list. -/
def ListAt (item : Layout α) (key : String) : Layout (List α) := fun levels list value =>
  value.Gives key (item.ArrayOf levels list) ∨ list = [] ∧ value.member? key = none

end Layout

/-! ## Reading -/

namespace Json

/-- The record was read by name from the value, for these keys. -/
structure Record.Reads (record : Record) (keys : List String) (value : Json) : Prop where
  named : record.positional = false
  get? : ∀ key ∈ keys, record.get? key = value.member? key

private theorem mapM_named (members : List (String × Json)) :
    ((members.map fun member => (some member.1, member.2)).mapM fun member =>
      member.1.map (·, member.2)) = some members := by
  induction members with
  | nil => rfl
  | cons member rest ih => simp [ih]

/-- A key that stands once at most is no duplicate among the known ones. -/
private theorem known_nodup {keys : List String} {members : List (String × Json)}
    (once : ∀ key ∈ keys, (members.map (·.1)).count key ≤ 1) :
    ((members.filter fun member => keys.contains member.1).map (·.1)).Nodup := by
  have same : (members.filter fun member => keys.contains member.1).map (·.1) =
      (members.map (·.1)).filter keys.contains := by
    rw [List.filter_map]
    rfl
  rw [same, List.nodup_iff_count_le_one]
  intro key
  by_cases known : keys.contains key = true
  · rw [List.count_filter known]
    exact once key (by simpa using known)
  · rw [List.count_eq_zero_of_not_mem fun member => known (List.mem_filter.1 member).2]
    exact Nat.zero_le 1

/-- A record is read, and its keys have the values of the object. -/
theorem IsRecord.read {keys : List String} {value : Json} (isRecord : value.IsRecord keys) :
    ∃ record, value.record? keys = some record ∧ record.Reads keys value := by
  obtain ⟨members, rfl, once⟩ := isRecord
  have isRead : (ofNamed members).record? keys =
      some ⟨false, members.filter fun member => keys.contains member.1⟩ := by
    rw [ofNamed, record?, mapM_named]
    exact if_pos (known_nodup once)
  exact ⟨_, isRead, rfl, fun key known => Record.get?_of_read isRead known⟩

theorem IsText.text? {text : String} {value : Json} (isText : IsText text value) :
    value.text? = some text := by
  rw [isText]
  rfl

end Json

/-- What is laid out so is decoded, and the result corresponds to it. -/
def Layout.Decodes {α ρ : Type} (layout : Layout α) (decode : Nat → Json → Option ρ)
    (corresponds : ρ → α → Prop) : Prop :=
  ∀ (levels : Nat) (x : α) (value : Json), layout levels x value →
    ∃ raw, decode levels value = some raw ∧ corresponds raw x

/-- Lists are decoded item by item. -/
theorem Layout.Decodes.array {α ρ : Type} {layout : Layout α} {decode : Nat → Json → Option ρ}
    {corresponds : ρ → α → Prop} (decodes : layout.Decodes decode corresponds) :
    (Layout.ArrayOf layout).Decodes (Json.list? decode) (List.Forall₂ corresponds) := by
  rintro _ list _ ⟨items, rfl, laidOut⟩
  rw [Json.list?]
  induction laidOut with
  | nil => exact ⟨[], rfl, .nil⟩
  | cons first _ ih =>
    obtain ⟨raw, read, same⟩ := decodes _ _ _ first
    obtain ⟨raws, readRest, sameRest⟩ := ih
    exact ⟨raw :: raws, by simp [read, readRest], .cons same sameRest⟩

namespace Json.Record.Reads

variable {α ρ : Type} {record : Record} {keys : List String} {value : Json} {key : String}
  {corresponds : ρ → α → Prop} (reads : record.Reads keys value) (known : key ∈ keys)
include reads known

theorem required {such : Json → Prop} {decode : Json → Option ρ} {x : α}
    (given : value.Gives key such)
    (read : ∀ part, such part → ∃ raw, decode part = some raw ∧ corresponds raw x) :
    ∃ raw, record.required key decode = some raw ∧ corresponds raw x := by
  obtain ⟨part, present, isSuch⟩ := given
  rw [Record.required, reads.get? key known, present]
  exact read part isSuch

theorem optional {layout : α → Json → Prop} {decode : Json → Option ρ} {x : Option α}
    (given : value.MayGive key layout x) (noNull : decode .null = none)
    (read : ∀ x part, layout x part → ∃ raw, decode part = some raw ∧ corresponds raw x) :
    ∃ raw, record.optional key decode = some raw ∧ Option.Rel corresponds raw x := by
  rw [Record.optional, reads.get? key known, reads.named]
  cases x with
  | none =>
    rcases given with missing | null
    · exact ⟨none, by simp [missing], .none⟩
    · exact ⟨none, by simp [null], .none⟩
  | some x =>
    obtain ⟨part, present, laidOut⟩ := given
    obtain ⟨raw, decoded, same⟩ := read x part laidOut
    refine ⟨some raw, ?_, .some same⟩
    rw [present]
    split
    · rename_i null
      cases null
      rw [noNull] at decoded
      cases decoded
    · rename_i same
      cases same
      rw [decoded]
      rfl
    · rename_i none
      cases none

theorem required_text {text : String} (given : value.Gives key (IsText text)) :
    record.required key text? = some text := by
  obtain ⟨_, read, rfl⟩ :=
    reads.required known given fun _ isText => ⟨text, isText.text?, Eq.refl text⟩
  exact read

theorem optional_eq {layout : α → Json → Prop} {decode : Json → Option α} {x : Option α}
    (given : value.MayGive key layout x) (noNull : decode .null = none)
    (read : ∀ x part, layout x part → ∃ raw, decode part = some raw ∧ raw = x) :
    record.optional key decode = some x := by
  obtain ⟨raw, optionalRead, same⟩ := reads.optional known given noNull read
  rw [optionalRead]
  cases same with
  | some same => rw [same]
  | none => rfl

theorem optional_text (text : Option String) (given : value.MayGive key IsText text) :
    record.optional key text? = some text :=
  reads.optional_eq known given rfl fun text _ isText => ⟨text, isText.text?, rfl⟩

theorem defaultedList {layout : Layout α} {decode : Nat → Json → Option ρ} {levels : Nat}
    {list : List α} (decodes : layout.Decodes decode corresponds)
    (given : layout.ListAt key levels list value) :
    ∃ raws, record.defaulted key (list? decode levels) [] = some raws ∧
      List.Forall₂ corresponds raws list := by
  rw [Record.defaulted, reads.get? key known]
  rcases given with ⟨part, present, laidOut⟩ | ⟨rfl, missing⟩
  · rw [present]
    exact decodes.array _ _ _ laidOut
  · rw [missing]
    exact ⟨[], rfl, .nil⟩

theorem optionalList {layout : Layout α} {decode : Nat → Json → Option ρ} {levels : Nat}
    {list : List α} (decodes : layout.Decodes decode corresponds)
    (given : layout.MayListAt key levels list value) :
    ∃ raws, record.optional key (list? decode levels) = some raws ∧
      List.Forall₂ corresponds (raws.getD []) list := by
  have noNull : list? decode levels .null = none := by cases levels <;> rfl
  have read := decodes.array levels
  rcases given with present | ⟨rfl, missing⟩
  · obtain ⟨raws, read, same⟩ := reads.optional known (x := some list) present noNull read
    cases same with
    | some same => exact ⟨_, read, same⟩
  · obtain ⟨raws, read, same⟩ := reads.optional known (x := none) missing noNull read
    cases same with
    | none => exact ⟨none, read, .nil⟩

end Json.Record.Reads

end SchemaGuide
