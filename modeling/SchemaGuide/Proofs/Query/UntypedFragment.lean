import SchemaGuide.Proofs.Query.Draft
import SchemaGuide.Proofs.Query.Rooted
import SchemaGuide.Query.Path

/-! Fragments in place without a condition. Such a fragment selects from the type around it,
but nothing in front of its brace says so to the tracker: the brace goes to the field that was
selected last in the set around it, and where none is remembered, the set is taken for a value.
So the type stays the same only behind a field that leads back to it. -/
namespace SchemaGuide.Query

/-- What is open inside of a fragment without a condition, behind the complete selections of the
innermost set of a draft. -/
def Draft.inFragment (draft : Draft) (directives : Directives) (last : List Selection)
    (start : Option Unfinished) : Draft :=
  { draft with
    levels := draft.levels ++ [⟨draft.last, .fragment none directives⟩]
    last := last
    ending := .selection start }

/-- At the brace of the fragment, the field is found that was selected last. -/
theorem found_at_fragment_iff (before : List Selection) (directives : Directives) (step : Step) :
    Level.found? ⟨before, .fragment none directives⟩ = some step ↔
      directives.hasObject = false ∧ ∃ head, before.getLast? = some (.leaf head) ∧
        head.hasObject = false ∧ step = .field head.name.text := by
  rw [Level.found?, Header.found?, Header.hasObject, Header.step?]
  cases directives.hasObject with
  | true => simp
  | false =>
    simp only [Bool.false_eq_true, if_false, Option.map_none, Option.none_or,
      Option.map_eq_some_iff, remembered_behind_iff, true_and]
    constructor
    · rintro ⟨_, ⟨head, isLast, bare, rfl⟩, rfl⟩
      exact ⟨head, isLast, bare, rfl⟩
    · rintro ⟨head, isLast, bare, rfl⟩
      exact ⟨_, ⟨head, isLast, bare, rfl⟩, rfl⟩

theorem found_steps_append (levels : List Level) (level : Level) :
    (levels ++ [level]).mapM Level.found? =
      (levels.mapM Level.found?).bind fun steps => level.found?.map (steps ++ [·]) := by
  induction levels with
  | nil => cases found : level.found? <;> simp [found]
  | cons first rest ih =>
    rw [List.cons_append, found_steps_cons, found_steps_cons, ih]
    cases first.found? <;> cases rest.mapM Level.found? <;> cases level.found? <;> rfl

theorem Ending.context_path (ending : Ending) (path : List Step) :
    (ending.context path).path = path := by
  cases ending <;> rfl

/-- The path inside of the fragment is the one around it with the step that is found. -/
theorem context_inFragment {draft : Draft} {directives : Directives} {last : List Selection}
    {start : Option Unfinished} {text inner : String} {offset place : Nat}
    (around : draft.ReachesTo text offset)
    (inside : (draft.inFragment directives last start).ReachesTo inner place) :
    contextAt? inner place = (contextAt? text offset).bind fun asked =>
      (Level.found? ⟨draft.last, .fragment none directives⟩).map fun step =>
        .selection (asked.path ++ [step]) := by
  rw [context_of_draft around, context_of_draft inside, Draft.inFragment, found_steps_append]
  cases draft.levels.mapM Level.found? with
  | none => rfl
  | some steps =>
    cases Level.found? ⟨draft.last, .fragment none directives⟩ with
    | none => rfl
    | some step =>
      have path := draft.ending.context_path (draft.header.found :: steps)
      simp only [Option.bind_some, Option.map_some, path]
      rfl

theorem followFrom_append (schema : Schema) (outer : Option NamedType) (path : List Step)
    (name : String) :
    followFrom schema outer (path ++ [.field name]) =
      (Step.field name).follow schema (followFrom schema outer path) := by
  induction path generalizing outer with
  | nil =>
    rw [List.nil_append, followFrom, followFrom]
    cases (Step.field name).follow schema outer <;> rfl
  | cons step rest ih =>
    rw [List.cons_append, followFrom, followFrom]
    cases step.follow schema outer with
    | none => rfl
    | some type => exact ih (some type)

/-- Where the path around the fragment leads to a type, the path inside leads to the same type
exactly where the last selection in front is a field without selections that leads back to it. -/
private theorem leads_back_iff {draft : Draft} {directives : Directives} {last : List Selection}
    {start : Option Unfinished} {text inner : String} {offset place : Nat} {schema : Schema}
    {asked : Context} {type : NamedType} (around : draft.ReachesTo text offset)
    (inside : (draft.inFragment directives last start).ReachesTo inner place)
    (found : contextAt? text offset = some asked)
    (leads : followPath schema asked.path = some type) :
    (∃ path, contextAt? inner place = some (.selection path) ∧
        followPath schema path = some type) ↔
      directives.hasObject = false ∧ ∃ head, draft.last.getLast? = some (.leaf head) ∧
        head.hasObject = false ∧ ∃ field, type.field? head.name.text = some field ∧
          schema.type? field.type.namedType = some type := by
  have follows (name : String) : followPath schema (asked.path ++ [.field name]) =
      (type.field? name).bind fun field => schema.type? field.type.namedType := by
    rw [followPath, followFrom_append, ← followPath, leads]
    rfl
  rw [context_inFragment around inside, found, Option.bind_some]
  constructor
  · rintro ⟨path, context, same⟩
    obtain ⟨step, isFound, isPath⟩ := Option.map_eq_some_iff.mp context
    obtain ⟨plain, head, isLast, bare, rfl⟩ := (found_at_fragment_iff _ _ _).mp isFound
    obtain rfl : asked.path ++ [.field head.name.text] = path := by simpa using isPath
    rw [follows] at same
    obtain ⟨field, declared, back⟩ := Option.bind_eq_some_iff.mp same
    exact ⟨plain, head, isLast, bare, field, declared, back⟩
  · rintro ⟨plain, head, isLast, bare, field, declared, back⟩
    have isFound : Level.found? ⟨draft.last, .fragment none directives⟩ =
        some (.field head.name.text) :=
      (found_at_fragment_iff _ _ _).mpr ⟨plain, head, isLast, bare, rfl⟩
    refine ⟨asked.path ++ [.field head.name.text], by rw [isFound, Option.map_some], ?_⟩
    rw [follows, declared, Option.bind_some, back]

/-- **A fragment without a condition is taken for the field in front of it.** Where nothing is
asked for around it, nothing is inside of it. Where the path around it leads to a type, the path
inside of it leads to the same type exactly where the last selection in front of it is a field
without selections that leads back to that type, and no object stands in what belongs to the
field nor in the directives. Everywhere else there is no path, or one to another type. -/
theorem untyped_fragment_keeps_type_iff {draft : Draft} {directives : Directives}
    {last : List Selection} {start : Option Unfinished} {text inner : String}
    {offset place : Nat} (around : draft.ReachesTo text offset)
    (inside : (draft.inFragment directives last start).ReachesTo inner place) :
    (contextAt? text offset = none → contextAt? inner place = none) ∧
      ∀ (schema : Schema) (asked : Context) (type : NamedType),
        contextAt? text offset = some asked → followPath schema asked.path = some type →
          ((∃ path, contextAt? inner place = some (.selection path) ∧
              followPath schema path = some type) ↔
            directives.hasObject = false ∧ ∃ head, draft.last.getLast? = some (.leaf head) ∧
              head.hasObject = false ∧ ∃ field, type.field? head.name.text = some field ∧
                schema.type? field.type.namedType = some type) := by
  refine ⟨fun nowhere => ?_, fun schema asked type found leads => ?_⟩
  · rw [context_inFragment around inside, nowhere]
    rfl
  · exact leads_back_iff around inside found leads

/-! ### A field that leads back -/

/-- A type with a field of its own and one of another type. -/
private def loopType : NamedType where
  name := "Q"
  kind := .object
  description := none
  fields := [
    { name := "q", type := .nonNull (.named "Q"), description := none, deprecation := none,
      args := [] },
    { name := "a", type := .named "A", description := none, deprecation := none, args := [] }]
  inputFields := []
  enumValues := []
  interfaces := []
  possibleTypes := []

private def otherType : NamedType where
  name := "A"
  kind := .object
  description := none
  fields := []
  inputFields := []
  enumValues := []
  interfaces := []
  possibleTypes := []

private def loopSchema : Schema := ⟨none, some "Q", none, none, .ofList [loopType, otherType]⟩

/-- A query with one field of a one-letter name, if any. -/
private def selecting (field : Option Name) : Draft where
  before := []
  header := .shorthand
  levels := []
  last := field.toList.map fun name => .leaf ⟨none, name, [], []⟩
  ending := .selection none

private def selectingWriting (field : Option Name) : Writing :=
  (.sign .openBrace, space) :: field.toList.map fun name => (.name name, space)

/-- The fragment and its brace. -/
private def fragmentWritten : Writing := [(.spread, space), (.sign .openBrace, space)]

/-- Behind a field of the type around it, the fragment happens to select from that type. -/
theorem fragment_behind_loop_keeps_type :
    ((selecting (some (letter 'q' rfl))).ReachesTo "\x7b q " 4 ∧
      ((selecting (some (letter 'q' rfl))).inFragment [] [] none).ReachesTo
        "\x7b q ... \x7b " 10) ∧
    contextAt? "\x7b q " 4 = some (.selection [.operation "query"]) ∧
    followPath loopSchema [.operation "query"] = some loopType ∧
    ∃ path, contextAt? "\x7b q ... \x7b " 10 = some (.selection path) ∧
      followPath loopSchema path = some loopType := by
  have around : (selecting (some (letter 'q' rfl))).ReachesTo "\x7b q " 4 :=
    ⟨⟨_, [], ⟨[], selectingWriting (some (letter 'q' rfl)), rfl, by decide, rfl⟩, .nothing, rfl⟩,
      by decide⟩
  have inside : ((selecting (some (letter 'q' rfl))).inFragment [] [] none).ReachesTo
      "\x7b q ... \x7b " 10 :=
    ⟨⟨_, [], ⟨[], selectingWriting (some (letter 'q' rfl)) ++ fragmentWritten, rfl, by decide,
      rfl⟩, .nothing, rfl⟩, by decide⟩
  have found : contextAt? "\x7b q " 4 = some (.selection [.operation "query"]) := by decide
  have leads : followPath loopSchema [.operation "query"] = some loopType := by decide
  refine ⟨⟨around, inside⟩, found, leads,
    ((untyped_fragment_keeps_type_iff around inside).2 loopSchema _ loopType found leads).mpr
      ⟨rfl, _, rfl, rfl, ?_⟩⟩
  exact ⟨_, rfl, by decide⟩

/-- In front of any field, the set of the fragment is taken for a value; behind a field of
another type, the fragment selects from that type. -/
theorem fragment_loses_type :
    (∃ draft : Draft, draft.ReachesTo "\x7b " 2 ∧
      (draft.inFragment [] [] none).ReachesTo "\x7b ... \x7b " 8 ∧
      contextAt? "\x7b " 2 = some (.selection [.operation "query"]) ∧
      contextAt? "\x7b ... \x7b " 8 = none) ∧
    ∃ draft : Draft, draft.ReachesTo "\x7b a " 4 ∧
      (draft.inFragment [] [] none).ReachesTo "\x7b a ... \x7b " 10 ∧
      contextAt? "\x7b a " 4 = some (.selection [.operation "query"]) ∧
      contextAt? "\x7b a ... \x7b " 10 = some (.selection [.operation "query", .field "a"]) ∧
      followPath loopSchema [.operation "query"] = some loopType ∧
      followPath loopSchema [.operation "query", .field "a"] = some otherType := by
  have first : (selecting none).ReachesTo "\x7b " 2 :=
    ⟨⟨_, [], ⟨[], selectingWriting none, rfl, by decide, rfl⟩, .nothing, rfl⟩, by decide⟩
  have inFirst : ((selecting none).inFragment [] [] none).ReachesTo "\x7b ... \x7b " 8 :=
    ⟨⟨_, [], ⟨[], selectingWriting none ++ fragmentWritten, rfl, by decide, rfl⟩, .nothing, rfl⟩,
      by decide⟩
  have second : (selecting (some (letter 'a' rfl))).ReachesTo "\x7b a " 4 :=
    ⟨⟨_, [], ⟨[], selectingWriting (some (letter 'a' rfl)), rfl, by decide, rfl⟩, .nothing, rfl⟩,
      by decide⟩
  have inSecond : ((selecting (some (letter 'a' rfl))).inFragment [] [] none).ReachesTo
      "\x7b a ... \x7b " 10 :=
    ⟨⟨_, [], ⟨[], selectingWriting (some (letter 'a' rfl)) ++ fragmentWritten, rfl, by decide,
      rfl⟩, .nothing, rfl⟩, by decide⟩
  exact ⟨⟨_, first, inFirst, by decide, by decide⟩,
    _, second, inSecond, by decide, by decide, by decide, by decide⟩

end SchemaGuide.Query
