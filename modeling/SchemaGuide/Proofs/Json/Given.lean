import Mathlib.Data.List.Forall2
import SchemaGuide.Json.Record

/-! What a value gives for the keys of a record, told from the value alone, and what follows for
it once it was decoded. An array gives the values of the keys in their order, and an object gives
its members. -/
namespace SchemaGuide.Json

/-- What the value gives for one of the keys. -/
def at? (keys : List String) (key : String) : Json → Option Json
  | .array items => items[keys.idxOf key]?
  | value => value.member? key

def isNull : Json → Bool
  | .null => true
  | _ => false

/-- The same, where null counts as nothing. -/
def given? (keys : List String) (key : String) (value : Json) : Option Json :=
  (value.at? keys key).filter (!·.isNull)

/-- The items of the array that the value gives for one of the keys. -/
def itemsAt (keys : List String) (key : String) (value : Json) : List Json :=
  (value.at? keys key).elim [] Json.items

theorem text?_eq_some_iff {value : Json} {text : String} :
    value.text? = some text ↔ value = .ofText text := by
  cases value <;> simp [text?, ofText]

theorem at?_of_given? {keys : List String} {key : String} {value part : Json}
    (given : value.given? keys key = some part) : value.at? keys key = some part :=
  (Option.filter_eq_some_iff.mp given).1

theorem at?_of_not_given {keys : List String} {key : String} {value : Json}
    (missing : value.given? keys key = none) :
    value.at? keys key = none ∨ value.at? keys key = some .null := by
  rw [given?, Option.filter_eq_none_iff] at missing
  cases present : value.at? keys key with
  | none => exact .inl rfl
  | some part =>
    have null := missing part present
    cases part with
    | null => exact .inr rfl
    | _ => exact absurd rfl null

/-! ## Records -/

/-- If a list is converted as a whole, then nothing of it is left out. -/
private theorem filterMap_of_mapM {α β : Type} {convert : α → Option β} {list : List α}
    {converted : List β} (all : list.mapM convert = some converted) :
    list.filterMap convert = converted := by
  induction list generalizing converted with
  | nil =>
    obtain rfl := Option.some.inj all
    rfl
  | cons first rest ih =>
    simp only [List.mapM_cons, Option.bind_eq_bind, Option.bind_eq_some_iff] at all
    obtain ⟨head, convertedHead, tail, convertedTail, same⟩ := all
    obtain rfl := Option.some.inj same
    rw [List.filterMap_cons_some convertedHead, ih convertedTail]

/-- A key has the value at its own position. -/
private theorem find?_zip {key : String} : ∀ {keys : List String} (items : List Json),
    key ∈ keys →
      ((keys.zip items).find? (·.1 == key)).map (·.2) = items[keys.idxOf key]?
  | [], _, known => nomatch known
  | first :: rest, [], _ => by simp
  | first :: rest, item :: items, known => by
    by_cases here : first = key
    · simp [here]
    · have later : key ∈ rest := (List.mem_cons.mp known).resolve_left (Ne.symm here)
      simpa [here, List.idxOf_cons_ne rest here] using find?_zip items later

/-- A record that was read has what the value gives for its keys. -/
theorem Record.get?_of_read {keys : List String} {value : Json} {record : Record}
    (read : value.record? keys = some record) {key : String} (known : key ∈ keys) :
    record.get? key = value.at? keys key := by
  cases value with
  | null | bool _ | number _ | string _ => cases read
  | array items =>
    rw [record?] at read
    split at read
    · obtain rfl := Option.some.inj read
      exact find?_zip items known
    · cases read
  | object members =>
    simp only [record?, Option.bind_eq_bind, Option.bind_eq_some_iff] at read
    obtain ⟨named, all, made⟩ := read
    split at made
    · obtain rfl := Option.some.inj made
      have found : (fun member : String × Json =>
          decide (keys.contains member.1 = true ∧ (member.1 == key) = true)) =
            fun member => member.1 == key := by
        funext member
        by_cases same : member.1 = key <;> simp [same, known]
      rw [get?, at?, member?, Json.members, filterMap_of_mapM all, List.find?_filter, found]
      intro items same
      cases same
    · cases made

namespace Record

variable {α : Type} {keys : List String} {key : String} {value : Json} {record : Record}
  {decode : Json → Option α} (read : value.record? keys = some record) (known : key ∈ keys)
include read known

theorem given_of_required {x : α} (decoded : record.required key decode = some x) :
    ∃ part, value.at? keys key = some part ∧ decode part = some x := by
  rw [required, get?_of_read read known] at decoded
  exact Option.bind_eq_some_iff.mp decoded

theorem given_of_optional {x : Option α} (decoded : record.optional key decode = some x) :
    Option.Rel (fun part x => decode part = some x) (value.given? keys key) x := by
  rw [optional, get?_of_read read known] at decoded
  rw [given?]
  split at decoded
  · rename_i null
    obtain rfl := Option.some.inj decoded
    rw [null]
    exact .none
  · rename_i part present found
    obtain ⟨x, same, rfl⟩ := Option.map_eq_some_iff.mp decoded
    have kept : (!part.isNull) = true := by
      cases part with
      | null => exact absurd rfl present
      | _ => rfl
    rw [found, Option.filter_some, if_pos kept]
    exact .some same
  · rename_i missing
    split at decoded
    · cases decoded
    · obtain rfl := Option.some.inj decoded
      rw [missing]
      exact .none

theorem text_of_optional {text : Option String} (decoded : record.optional key text? = some text) :
    (value.at? keys key).bind text? = text := by
  have given := given_of_optional read known decoded
  generalize found : value.given? keys key = part at given
  cases given with
  | some same => rw [at?_of_given? found, Option.bind_some, same]
  | none =>
    rcases at?_of_not_given found with missing | null
    · rw [missing]
      rfl
    · rw [null]
      rfl

theorem given_of_defaulted {x standard : α}
    (decoded : record.defaulted key decode standard = some x) :
    value.at? keys key = none ∧ x = standard ∨
      ∃ part, value.at? keys key = some part ∧ decode part = some x := by
  rw [defaulted, get?_of_read read known] at decoded
  cases found : value.at? keys key with
  | none =>
    rw [found] at decoded
    exact .inl ⟨rfl, (Option.some.inj decoded).symm⟩
  | some part =>
    rw [found] at decoded
    exact .inr ⟨part, rfl, decoded⟩

theorem text_of_required {text : String} (decoded : record.required key text? = some text) :
    (value.at? keys key).bind text? = some text := by
  obtain ⟨part, given, same⟩ := given_of_required read known decoded
  rw [given, Option.bind_some, same]

theorem flag_of_defaulted {flag : Bool} (decoded : record.defaulted key bool? false = some flag) :
    ((value.at? keys key).bind bool? == some true) = flag := by
  rcases given_of_defaulted read known decoded with ⟨missing, rfl⟩ | ⟨part, given, same⟩
  · rw [missing]
    rfl
  · rw [given, Option.bind_some, same]
    cases flag <;> rfl

end Record

/-! ## Lists -/

/-- The items of a list that was read are read one by one. -/
theorem items_of_list? {α : Type} {decode : Nat → Json → Option α} {levels : Nat} {value : Json}
    {list : List α} (read : list? decode levels value = some list) :
    ∃ inner, List.Forall₂ (fun item x => decode inner item = some x) value.items list := by
  unfold list? at read
  split at read
  · rename_i levels items
    refine ⟨levels, ?_⟩
    change List.Forall₂ _ items list
    induction items generalizing list with
    | nil =>
      obtain rfl := Option.some.inj read
      exact .nil
    | cons item rest ih =>
      simp only [List.mapM_cons, Option.bind_eq_bind, Option.bind_eq_some_iff] at read
      obtain ⟨x, first, others, later, same⟩ := read
      obtain rfl := Option.some.inj same
      exact .cons first (ih later)
  · cases read

namespace Record

variable {α : Type} {keys : List String} {key : String} {value : Json} {record : Record}
  {decode : Nat → Json → Option α} {levels : Nat} (read : value.record? keys = some record)
  (known : key ∈ keys)
include read known

theorem items_of_optional {list : Option (List α)}
    (decoded : record.optional key (list? decode levels) = some list) :
    ∃ inner, List.Forall₂ (fun item x => decode inner item = some x) (value.itemsAt keys key)
      (list.getD []) := by
  have given := given_of_optional read known decoded
  generalize found : value.given? keys key = part at given
  cases given with
  | some same =>
    rw [itemsAt, at?_of_given? found]
    exact items_of_list? same
  | none =>
    refine ⟨0, ?_⟩
    have nothing : value.itemsAt keys key = [] := by
      rcases at?_of_not_given found with missing | null
      · rw [itemsAt, missing]
        rfl
      · rw [itemsAt, null]
        rfl
    rw [nothing]
    exact .nil

theorem items_of_defaulted {list : List α}
    (decoded : record.defaulted key (list? decode levels) [] = some list) :
    ∃ inner, List.Forall₂ (fun item x => decode inner item = some x) (value.itemsAt keys key)
      list := by
  rw [itemsAt]
  rcases given_of_defaulted read known decoded with ⟨missing, rfl⟩ | ⟨part, given, same⟩
  · rw [missing]
    exact ⟨0, .nil⟩
  · rw [given]
    exact items_of_list? same

end Record
end SchemaGuide.Json
