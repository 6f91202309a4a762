import SchemaGuide.Proofs.Explorer.Guard

/-! Panels that an explorer withholds. The guard compares the stamps of what is loaded and the
revision of the history, which together decide everything in a panel except for how many
matches a search shows. The limit of searches is set past the guard, so that a withheld panel
is the one that was shown last as long as that limit is the same. -/
namespace SchemaGuide.Explorer

/-! ## What stamps stand for -/

/-- What was loaded, by stamps. A loaded thing never changes. -/
structure Loadings where
  schema : Nat → Schema
  errors : Nat → List String

/-- The source carries what was loaded under its stamps. -/
structure Source.IsFrom (source : Source) (loadings : Loadings) : Prop where
  schema : ∀ schema ∈ source.schema?, schema.value = loadings.schema schema.stamp
  errors : ∀ errors ∈ source.errors, errors.value = loadings.errors errors.stamp

private theorem eq_of_stamp {α : Type} {value : Nat → α} {first second : Option (Stamped α)}
    (one : ∀ loaded ∈ first, loaded.value = value loaded.stamp)
    (two : ∀ loaded ∈ second, loaded.value = value loaded.stamp)
    (same : first.map (·.stamp) = second.map (·.stamp)) : first = second := by
  cases first with
  | none =>
    cases second with
    | none => rfl
    | some other => cases same
  | some loaded =>
    cases second with
    | none => cases same
    | some other =>
      obtain ⟨stamp, loaded⟩ := loaded
      obtain ⟨otherStamp, other⟩ := other
      obtain rfl : stamp = otherStamp := Option.some.inj same
      obtain rfl : loaded = other := (one _ rfl).trans (two _ rfl).symm
      rfl

/-- Sources that look the same to the guard are the same. -/
theorem Source.IsFrom.eq_of_snapshot {loadings : Loadings} {first second : Source}
    (one : first.IsFrom loadings) (two : second.IsFrom loadings) {before after : History}
    (same : Snapshot.of first before = Snapshot.of second after) : first = second := by
  have schemas : first.schema? = second.schema? :=
    eq_of_stamp one.schema two.schema (congrArg Snapshot.schema same)
  have reports : first.errors = second.errors :=
    eq_of_stamp one.errors two.errors (congrArg Snapshot.errors same)
  have pending := congrArg Snapshot.pending same
  obtain ⟨slot, errors⟩ := first
  obtain ⟨otherSlot, otherErrors⟩ := second
  obtain rfl : errors = otherErrors := reports
  cases slot <;> cases otherSlot <;> simp_all [Source.schema?, Snapshot.of]

/-! ## Use of an explorer -/

/-- What an owner does with an explorer. -/
inductive Use where
  | push (entry : Entry)
  | pop
  | setSearch (term : String)
  | reset
  | setSearchLimit (limit : Nat)
  | render (source : Source)
  | renderNow (source : Source)

/-- The source that a render is made from. -/
def Use.source? : Use → Option Source
  | .render source | .renderNow source => some source
  | .push _ | .pop | .setSearch _ | .reset | .setSearchLimit _ => none

/-- The explorer after a use of it. -/
def Use.perform (explorer : DocExplorer) : Use → DocExplorer
  | .push entry => { explorer with history := explorer.history.push entry }
  | .pop => { explorer with history := explorer.history.pop.2 }
  | .setSearch term => { explorer with history := explorer.history.setSearch term }
  | .reset => { explorer with history := explorer.history.reset }
  | .setSearchLimit limit => { explorer with searchLimit := limit }
  | .render source => (explorer.render source).2
  | .renderNow _ => explorer

/-- A panel, and the limit of searches when it was made. -/
structure Exhibit where
  panel : Panel
  limit : Nat

/-- An explorer in use, with what the last render that was not withheld gave. -/
structure Visit where
  explorer : DocExplorer
  shown : Option Exhibit

namespace Visit

/-- The visit after one more use. -/
def step (visit : Visit) (use : Use) : Visit where
  explorer := use.perform visit.explorer
  shown :=
    match use with
    | .render source =>
      ((visit.explorer.render source).1.map (⟨·, visit.explorer.searchLimit⟩)).or visit.shown
    | .push _ | .pop | .setSearch _ | .reset | .setSearchLimit _ | .renderNow _ => visit.shown

/-- The visit of an explorer that nothing was rendered by before. -/
def of (explorer : DocExplorer) (uses : List Use) : Visit :=
  uses.foldl step ⟨explorer, none⟩

/-- The guard remembers a render that gave what is shown, of a history that is not later than
the one of now. -/
def Faithful (loadings : Loadings) (visit : Visit) : Prop :=
  ∀ snapshot, visit.explorer.guard.last = some snapshot →
    ∃ (past : History) (source : Source) (limit : Nat), source.IsFrom loadings ∧
      snapshot = Snapshot.of source past ∧ past.Precedes visit.explorer.history ∧
      visit.shown = some
        ⟨{ visit.explorer with history := past, searchLimit := limit }.renderNow source, limit⟩

variable {loadings : Loadings}

/-- A step of the history, or another limit, leaves what the guard remembers. -/
theorem Faithful.later {visit : Visit} (faithful : visit.Faithful loadings) {history : History}
    (later : visit.explorer.history.Precedes history) (limit : Nat) :
    Faithful loadings
      ⟨{ visit.explorer with history, searchLimit := limit }, visit.shown⟩ := by
  intro snapshot held
  obtain ⟨past, source, before, drawn, made, precedes, shown⟩ := faithful snapshot held
  exact ⟨past, source, before, drawn, made, precedes.trans later, shown⟩

theorem Faithful.render {visit : Visit} (faithful : visit.Faithful loadings) {source : Source}
    (drawn : source.IsFrom loadings) : (visit.step (.render source)).Faithful loadings := by
  rcases visit.explorer.render_cases source with ⟨_, skipped⟩ | rendered
  · simpa [Faithful, step, Use.perform, skipped] using faithful
  · intro snapshot held
    simp only [step, Use.perform, rendered] at held
    obtain rfl := Option.some.inj held
    refine ⟨visit.explorer.history, source, visit.explorer.searchLimit, drawn, rfl, ?_, ?_⟩
    · simp only [step, Use.perform, rendered]
      exact .inl rfl
    · simp only [step, Use.perform, rendered, Option.map_some, Option.some_or]
      rfl

theorem Faithful.step {visit : Visit} (faithful : visit.Faithful loadings) {use : Use}
    (drawn : ∀ source ∈ use.source?, source.IsFrom loadings) :
    (visit.step use).Faithful loadings := by
  cases use with
  | push entry => exact faithful.later (History.precedes_push _ entry) _
  | pop => exact faithful.later (History.precedes_pop _) _
  | setSearch term => exact faithful.later (History.precedes_setSearch _ term) _
  | reset => exact faithful.later (History.precedes_reset _) _
  | setSearchLimit limit => exact faithful.later (.inl rfl) limit
  | render source => exact faithful.render (drawn source rfl)
  | renderNow source => exact faithful

theorem faithful {explorer : DocExplorer} (mounted : explorer.guard = .initial) {uses : List Use}
    (drawn : ∀ use ∈ uses, ∀ source ∈ use.source?, source.IsFrom loadings) :
    (of explorer uses).Faithful loadings := by
  have start : Faithful loadings ⟨explorer, none⟩ := by
    intro snapshot held
    rw [mounted] at held
    cases held
  rw [of]
  generalize (⟨explorer, none⟩ : Visit) = visit at start
  induction uses generalizing visit with
  | nil => exact start
  | cons use rest ih =>
    exact ih (fun other member => drawn other (List.mem_cons_of_mem _ member)) _
      (start.step (drawn use List.mem_cons_self))

end Visit

/-- Where no search is shown, the limit of searches does not matter. -/
theorem DocExplorer.render_with_other_limit (explorer : DocExplorer) (source : Source)
    (noSearch : ∀ term scope,
      (View.of source.availability explorer.history).mode ≠ .searchResults term scope)
    (limit : Nat) :
    { explorer with searchLimit := limit }.renderNow source = explorer.renderNow source := by
  rw [renderNow, renderNow, View.panel, View.panel]
  have body : (View.of source.availability explorer.history).mode.body
      ({ explorer with searchLimit := limit }.presentation source) =
        (View.of source.availability explorer.history).mode.body
          (explorer.presentation source) := by
    cases mode : (View.of source.availability explorer.history).mode with
    | searchResults term scope => exact absurd mode (noSearch term scope)
    | _ => rfl
  rw [body]
  rfl

/-- **A withheld panel is the one that is shown, under the limit of then.** In every use of an
explorer, a render that gives nothing would give the panel that was shown last, if the limit of
searches were the one of that render. So nothing is withheld where the limit is the same, and
where no search is shown. -/
theorem withheld_panel_is_shown {loadings : Loadings} {explorer : DocExplorer}
    (mounted : explorer.guard = .initial) {uses : List Use}
    (drawn : ∀ use ∈ uses, ∀ source ∈ use.source?, source.IsFrom loadings) {source : Source}
    (now : source.IsFrom loadings)
    (withheld : ((Visit.of explorer uses).explorer.render source).1 = none) :
    let current := (Visit.of explorer uses).explorer
    ∃ shown, (Visit.of explorer uses).shown = some shown ∧
      shown.panel = { current with searchLimit := shown.limit }.renderNow source ∧
      (shown.limit = current.searchLimit ∨ (∀ term scope,
        (View.of source.availability current.history).mode ≠ .searchResults term scope) →
          shown.panel = current.renderNow source) := by
  intro current
  have remembered : current.guard.last = some (Snapshot.of source current.history) := by
    rcases current.render_cases source with ⟨held, _⟩ | rendered
    · exact held
    · rw [rendered] at withheld
      cases withheld
  obtain ⟨past, before, limit, drawnBefore, made, precedes, shown⟩ :=
    Visit.faithful mounted drawn _ remembered
  obtain rfl : source = before := now.eq_of_snapshot drawnBefore made
  -- One revision is one history, and the stamps are those of one schema and one report.
  obtain rfl : past = current.history := precedes.eq (congrArg Snapshot.revision made).symm
  refine ⟨_, shown, rfl, ?_⟩
  rintro (same | noSearch)
  · have same : limit = current.searchLimit := same
    rw [same]
  · exact current.render_with_other_limit source noSearch limit

/-! ## A limit that changes under a search -/

/-- A type with one field of the same name. -/
private def pointType : NamedType where
  name := "Point"
  kind := .object
  description := none
  fields := [{
    name := "point", type := .named "Point", description := none, deprecation := none, args := [] }]
  inputFields := []
  enumValues := []
  interfaces := []
  possibleTypes := []

private def pointSource : Source where
  slot := .loaded ⟨0, ⟨none, none, none, none, .ofList [pointType]⟩⟩
  errors := none

private def pointLoadings : Loadings where
  schema _ := ⟨none, none, none, none, .ofList [pointType]⟩
  errors _ := []

private theorem pointSource_isFrom : pointSource.IsFrom pointLoadings := by
  constructor
  · intro schema loaded
    cases loaded
    rfl
  · intro errors loaded
    cases loaded

private def searchThenLimit (limits : List Nat) : Visit :=
  .of (.ofHistory .initial)
    ([.setSearch "point", .render pointSource] ++ limits.map .setSearchLimit)

/-- The limit is set to another value and back. -/
theorem withheld_panel_under_restored_limit :
    ((searchThenLimit [0, 100]).explorer.render pointSource).1 = none ∧
      ∃ shown, (searchThenLimit [0, 100]).shown = some shown ∧
        shown.panel = (searchThenLimit [0, 100]).explorer.renderNow pointSource := by
  have drawn : ∀ use ∈ [.setSearch "point", .render pointSource] ++ [0, 100].map .setSearchLimit,
      ∀ source ∈ Use.source? use, source.IsFrom pointLoadings := by
    intro use member source made
    simp only [List.map_cons, List.map_nil, List.cons_append, List.nil_append, List.mem_cons,
      List.not_mem_nil, or_false] at member
    rcases member with rfl | rfl | rfl | rfl
    · cases made
    · cases made
      exact pointSource_isFrom
    · cases made
    · cases made
  have withheld : ((searchThenLimit [0, 100]).explorer.render pointSource).1 = none := rfl
  obtain ⟨shown, last, -, same⟩ := withheld_panel_is_shown rfl drawn pointSource_isFrom withheld
  refine ⟨withheld, shown, last, same (.inl ?_)⟩
  cases last
  rfl

/-- Under a lower limit the search finds nothing, and the panel with the matches stays. -/
theorem matches_stay_under_lower_limit :
    ((searchThenLimit [0]).explorer.render pointSource).1 = none ∧
      ∃ shown, (searchThenLimit [0]).shown = some shown ∧
        shown.panel ≠ (searchThenLimit [0]).explorer.renderNow pointSource := by
  refine ⟨rfl, _, rfl, fun same => ?_⟩
  have sections : (2 : Nat) = 1 := congrArg (·.body.length) same
  cases sections

end SchemaGuide.Explorer
