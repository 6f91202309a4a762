import SchemaGuide.Proofs.Query.Draft

/-! Argument values and the context. Two documents that only differ in the values of their
arguments open the same brackets, and what is found at a brace in both is the same step. So
what they ask for is the same wherever both ask for something; an object is the one value that
can keep a step from being found, because its closing brace makes the tracker forget what
stands in front of it. -/
namespace SchemaGuide.Query

/-! ## Documents without their values -/

/-- An argument with no more than a list in place of its value. -/
def Argument.withoutValue (argument : Argument) : Argument :=
  { argument with value := .list [] }

/-- Arguments without their values. -/
def Arguments.withoutValues (arguments : Arguments) : Arguments :=
  arguments.map Argument.withoutValue

/-- A directive without the values of its arguments. -/
def Directive.withoutValues (directive : Directive) : Directive :=
  { directive with arguments := directive.arguments.withoutValues }

/-- Directives without the values of their arguments. -/
def Directives.withoutValues (directives : Directives) : Directives :=
  directives.map Directive.withoutValues

/-- A field without the values of its arguments. -/
def FieldHead.withoutValues (head : FieldHead) : FieldHead :=
  { head with
    arguments := head.arguments.withoutValues, directives := head.directives.withoutValues }

/-- A header without the values in it. -/
def Header.withoutValues : Header → Header
  | .field head => .field head.withoutValues
  | .fragment condition directives => .fragment condition directives.withoutValues

namespace Selection

mutual

/-- A selection without the values in it. -/
def withoutValues : Selection → Selection
  | .leaf head => .leaf head.withoutValues
  | .spread fragment directives => .spread fragment directives.withoutValues
  | .nested header set => .nested header.withoutValues (setWithoutValues set)

/-- Selections without the values in them. -/
def setWithoutValues : List Selection → List Selection
  | [] => []
  | selection :: rest => selection.withoutValues :: setWithoutValues rest

end

end Selection

/-- The declaration of a variable without the values of its directives and of its default. -/
def VariableDefinition.withoutValues (definition : VariableDefinition) : VariableDefinition :=
  { definition with
    default := definition.default.map fun _ => .list []
    directives := definition.directives.withoutValues }

/-- The header of a definition without the values in it. -/
def DefinitionHeader.withoutValues : DefinitionHeader → DefinitionHeader
  | .shorthand => .shorthand
  | .operation keyword name parameters directives =>
    .operation keyword name (parameters.map VariableDefinition.withoutValues)
      directives.withoutValues
  | .fragment name type directives => .fragment name type directives.withoutValues

/-- A definition without the values in it. -/
def QueryDefinition.withoutValues (definition : QueryDefinition) : QueryDefinition :=
  ⟨definition.header.withoutValues, Selection.setWithoutValues definition.set⟩

/-- A level without the values in it. -/
def Level.withoutValues (level : Level) : Level :=
  ⟨Selection.setWithoutValues level.before, level.header.withoutValues⟩

/-- The start of a selection without the values in it. -/
def Unfinished.withoutValues : Unfinished → Unfinished
  | .label name => .label name
  | .on => .on
  | .fragment condition directives => .fragment condition directives.withoutValues
  | .directive front =>
    .directive (front.map fun (condition, directives) => (condition, directives.withoutValues))

/-- An ending without the values in it. -/
def Ending.withoutValues : Ending → Ending
  | .selection start => .selection (start.map Unfinished.withoutValues)
  | .arguments list => .arguments { list with before := list.before.map Argument.withoutValue }

/-- A draft without the values of its arguments. -/
def Draft.withoutValues (draft : Draft) : Draft where
  before := draft.before.map QueryDefinition.withoutValues
  header := draft.header.withoutValues
  levels := draft.levels.map Level.withoutValues
  last := Selection.setWithoutValues draft.last
  ending := draft.ending.withoutValues

/-! ## What is found without them -/

theorem arguments_withoutValues_hold_no_object (arguments : Arguments) :
    arguments.withoutValues.hasObject = false := by
  simp [Arguments.hasObject, Arguments.withoutValues, Argument.withoutValue, Value.hasObject,
    Value.itemsHaveObject]

theorem directives_withoutValues_hold_no_object (directives : Directives) :
    directives.withoutValues.hasObject = false := by
  simp [Directives.hasObject, Directives.withoutValues, Directive.withoutValues,
    arguments_withoutValues_hold_no_object]

theorem header_withoutValues_holds_no_object (header : Header) :
    header.withoutValues.hasObject = false := by
  cases header with
  | field head =>
    simp [Header.withoutValues, Header.hasObject, FieldHead.withoutValues,
      arguments_withoutValues_hold_no_object, directives_withoutValues_hold_no_object]
  | fragment condition directives => exact directives_withoutValues_hold_no_object directives

theorem Header.step_withoutValues (header : Header) :
    header.withoutValues.step? = header.step? := by
  cases header <;> rfl

theorem DefinitionHeader.found_withoutValues (header : DefinitionHeader) :
    header.withoutValues.found = header.found := by
  cases header <;> rfl

theorem Ending.context_withoutValues (ending : Ending) (path : List Step) :
    ending.withoutValues.context path = ending.context path := by
  cases ending <;> rfl

theorem Selection.set_withoutValues (set : List Selection) :
    setWithoutValues set = set.map withoutValues := by
  induction set with
  | nil => rfl
  | cons selection rest ih => rw [setWithoutValues, ih, List.map_cons]

/-- A field that is remembered is remembered without the values, too. -/
theorem Selection.remembered_withoutValues {selection : Selection} {field : String}
    (remembered : selection.remembered? = some field) :
    selection.withoutValues.remembered? = some field := by
  cases selection with
  | leaf head =>
    have none : head.withoutValues.hasObject = false :=
      header_withoutValues_holds_no_object (.field head)
    rw [remembered?] at remembered
    split at remembered
    · cases remembered
    · rw [withoutValues, remembered?, none]
      exact remembered
  | spread fragment directives | nested header set => cases remembered

/-- So is a step found. -/
theorem Level.found_withoutValues {level : Level} {step : Step}
    (found : level.found? = some step) : level.withoutValues.found? = some step := by
  rw [Level.found?, Header.found?] at found
  rw [Level.found?, Header.found?, Level.withoutValues, header_withoutValues_holds_no_object,
    Header.step_withoutValues, Selection.set_withoutValues, List.getLast?_map]
  split at found
  · cases found
  rw [if_neg Bool.false_ne_true]
  cases own : level.header.step? with
  | some step => simpa [own] using found
  | none =>
    rw [own, Option.none_or] at found
    obtain ⟨field, remembered, rfl⟩ := Option.map_eq_some_iff.mp found
    obtain ⟨last, isLast, kept⟩ := Option.bind_eq_some_iff.mp remembered
    simp [isLast, Selection.remembered_withoutValues kept]

theorem found_steps_withoutValues {levels : List Level} {steps : List Step}
    (found : levels.mapM Level.found? = some steps) :
    (levels.map Level.withoutValues).mapM Level.found? = some steps := by
  induction levels generalizing steps with
  | nil => exact found
  | cons level rest ih =>
    rw [found_steps_cons] at found
    obtain ⟨step, first, others⟩ := Option.bind_eq_some_iff.mp found
    obtain ⟨later, rests, rfl⟩ := Option.map_eq_some_iff.mp others
    rw [List.map_cons, found_steps_cons, Level.found_withoutValues first, ih rests]
    rfl

theorem found_steps_eq_none_iff (levels : List Level) :
    levels.mapM Level.found? = none ↔ ∃ level ∈ levels, level.found? = none := by
  induction levels with
  | nil => simp
  | cons level rest ih =>
    simp only [found_steps_cons, List.mem_cons, exists_eq_or_imp, ← ih]
    cases level.found? <;> simp

/-! ## Contexts -/

/-- The header of a level does not tell what its brace opens: there is an object in it, or it is
that of a fragment without a condition, and there is no field directly in front of it or one
with an object. -/
def Level.IsMute (level : Level) : Prop :=
  level.header.hasObject = true ∨ level.header.step? = none ∧
    ∀ head, level.before.getLast? = some (.leaf head) → head.hasObject = true

theorem Level.found_eq_none_iff (level : Level) : level.found? = none ↔ level.IsMute := by
  have remembered : level.before.getLast?.bind Selection.remembered? = none ↔
      ∀ head, level.before.getLast? = some (.leaf head) → head.hasObject = true := by
    rw [Option.eq_none_iff_forall_ne_some]
    constructor
    · intro forgotten head isLast
      by_contra bare
      have plain := Bool.eq_false_iff.mpr bare
      exact forgotten _ ((remembered_behind_iff _ _).mpr ⟨head, isLast, plain, rfl⟩)
    · intro objects field kept
      obtain ⟨head, isLast, bare, rfl⟩ := (remembered_behind_iff _ _).mp kept
      exact absurd (objects head isLast) (by simp [bare])
  rw [Level.found?, Header.found?, Level.IsMute, ← remembered]
  cases level.header.hasObject with
  | true => simp
  | false => cases level.header.step? <;> simp

/-- What is found at the brace of a level is the step of its own header, if that makes one. -/
theorem Level.own_of_found {level : Level} {step own : Step} (found : level.found? = some step)
    (makes : level.header.step? = some own) : step = own := by
  rw [Level.found?, Header.found?, makes, Option.some_or] at found
  split at found
  · cases found
  · exact (Option.some.inj found).symm

theorem own_steps_of_found {levels : List Level} {steps : List Step}
    (found : levels.mapM Level.found? = some steps) :
    List.Forall₂ (fun level step => ∀ own ∈ level.header.step?, step = own) levels steps := by
  induction levels generalizing steps with
  | nil =>
    cases found
    exact .nil
  | cons level rest ih =>
    rw [found_steps_cons] at found
    obtain ⟨step, first, others⟩ := Option.bind_eq_some_iff.mp found
    obtain ⟨later, rests, rfl⟩ := Option.map_eq_some_iff.mp others
    exact .cons (fun own makes => Level.own_of_found first makes) (ih rests)

/-- Two documents that only differ in values ask for the same where nothing is found at a level in
both of them, or in neither. -/
theorem same_context_iff {first second : Draft} {text other : String} {offset place : Nat}
    (same : first.withoutValues = second.withoutValues) (reaches : first.ReachesTo text offset)
    (otherReaches : second.ReachesTo other place) :
    contextAt? text offset = contextAt? other place ↔
      (first.levels.mapM Level.found? = none ↔ second.levels.mapM Level.found? = none) := by
  have levels : first.levels.map Level.withoutValues = second.levels.map Level.withoutValues :=
    congrArg Draft.levels same
  have header : first.header.found = second.header.found := by
    rw [← first.header.found_withoutValues, ← second.header.found_withoutValues]
    exact congrArg (·.header.found) same
  have ending (path : List Step) : first.ending.context path = second.ending.context path := by
    rw [← first.ending.context_withoutValues, ← second.ending.context_withoutValues]
    exact congrArg (·.ending.context path) same
  rw [context_of_draft reaches, context_of_draft otherReaches]
  cases one : first.levels.mapM Level.found? with
  | none => cases second.levels.mapM Level.found? <;> simp
  | some steps =>
    cases two : second.levels.mapM Level.found? with
    | none => simp
    | some others =>
      have agree : some steps = some others := by
        rw [← found_steps_withoutValues one, levels, found_steps_withoutValues two]
      obtain rfl := Option.some.inj agree
      simp [header, ending]

/-- **Values do not lead elsewhere.** Two places in documents that only differ in the values of
their arguments ask for the same, exactly where a level is mute in both documents or in
neither. Where none is, the path has a step for each level, which is that of its own header
wherever the header makes one. -/
theorem context_of_other_values {first second : Draft} {text other : String} {offset place : Nat}
    (same : first.withoutValues = second.withoutValues) (reaches : first.ReachesTo text offset)
    (otherReaches : second.ReachesTo other place) :
    (contextAt? text offset = contextAt? other place ↔
      ((∃ level ∈ first.levels, level.IsMute) ↔ ∃ level ∈ second.levels, level.IsMute)) ∧
    ((∀ level ∈ first.levels, ¬ level.IsMute) →
      ∃ steps, contextAt? text offset =
          some (first.ending.context (first.header.found :: steps)) ∧
        List.Forall₂ (fun level step => ∀ own ∈ level.header.step?, step = own)
          first.levels steps) := by
  simp only [← Level.found_eq_none_iff]
  constructor
  · rw [same_context_iff same reaches otherReaches, found_steps_eq_none_iff,
      found_steps_eq_none_iff]
  · intro spoken
    cases found : first.levels.mapM Level.found? with
    | none =>
      obtain ⟨level, member, nothing⟩ := (found_steps_eq_none_iff _).mp found
      exact absurd nothing (spoken level member)
    | some steps =>
      refine ⟨steps, ?_, own_steps_of_found found⟩
      rw [context_of_draft reaches, found, Option.map_some]

/-! ### Objects -/

/-- A set that is open behind a header and a complete selection, if there is one. -/
private def openBehind (selection : Option Selection) (header : Header)
    (start : Option Unfinished) : Draft where
  before := []
  header := .shorthand
  levels := [⟨selection.toList, header⟩]
  last := []
  ending := .selection start

/-- A field with one argument. -/
private def fieldWith (field argument : Name) (value : Value) : FieldHead :=
  ⟨none, field, [⟨argument, value⟩], []⟩

private def fieldWriting (field argument : Name) (value : Writing) : Writing :=
  [(.name field, []), (.sign .openParenthesis, []), (.name argument, []), (.sign .colon, space)] ++
    value ++ [(.sign .closeParenthesis, space)]

/-- A fragment on a type with one directive. -/
private def fragmentWith (type directive argument : Name) (value : Value) : Header :=
  .fragment (some type) [⟨directive, [⟨argument, value⟩]⟩]

private def fragmentWriting (type directive argument : Name) (value : Writing) : Writing :=
  [(.spread, space), (.name onWord, space), (.name type, space), (.sign .atSign, [])] ++
    fieldWriting directive argument value

private def opening : Writing := [(.sign .openBrace, space)]

/-- The object of one field, as it is written. -/
private def wrapped (name : Name) (value : Writing) : Writing :=
  [(.sign .openBrace, []), (.name name, []), (.sign .colon, space)] ++ value ++
    [(.sign .closeBrace, [])]

private def objectText : String := "\x7b a(x: \x7bb: 1\x7d) f(x: [1]) \x7b ..."

private def numberText : String := "\x7b a(x: 1) f(x: $b) \x7b ..."

/-- An object in front of the open field is without influence. -/
theorem context_behind_object :
    ∃ first second : Draft,
      (first.withoutValues = second.withoutValues ∧ first.ReachesTo objectText 30 ∧
        second.ReachesTo numberText 24) ∧
      contextAt? objectText 30 = contextAt? numberText 24 := by
  let first : Draft := openBehind
    (some (.leaf (fieldWith (letter 'a' rfl) (letter 'x' rfl)
      (.object [(letter 'b' rfl, .number one)]))))
    (.field (fieldWith (letter 'f' rfl) (letter 'x' rfl) (.list [.number one])))
    (some (.fragment none []))
  let second : Draft := openBehind
    (some (.leaf (fieldWith (letter 'a' rfl) (letter 'x' rfl) (.number one))))
    (.field (fieldWith (letter 'f' rfl) (letter 'x' rfl) (.parameter [] (letter 'b' rfl))))
    (some (.fragment none []))
  have object : first.ReachesTo objectText 30 := by
    refine ⟨⟨_, [], ⟨[], opening ++ fieldWriting (letter 'a' rfl) (letter 'x' rfl)
      (wrapped (letter 'b' rfl) [(.number one, [])]) ++
      fieldWriting (letter 'f' rfl) (letter 'x' rfl)
        [(.sign .openBracket, []), (.number one, []), (.sign .closeBracket, [])] ++
      opening ++ [(.spread, [])], rfl, by decide, rfl⟩, .nothing, rfl⟩, ?_⟩
    decide
  have number : second.ReachesTo numberText 24 := by
    refine ⟨⟨_, [], ⟨[], opening ++ fieldWriting (letter 'a' rfl) (letter 'x' rfl)
      [(.number one, [])] ++ fieldWriting (letter 'f' rfl) (letter 'x' rfl)
        [(.dollar [] (letter 'b' rfl), [])] ++ opening ++ [(.spread, [])], rfl, by decide, rfl⟩,
      .nothing, rfl⟩, ?_⟩
    decide
  have same : first.withoutValues = second.withoutValues := rfl
  have mute : (∃ level ∈ first.levels, level.IsMute) ↔
      ∃ level ∈ second.levels, level.IsMute := by
    simp only [← Level.found_eq_none_iff]
    decide
  exact ⟨first, second, ⟨same, object, number⟩,
    (context_of_other_values same object number).1.mpr mute⟩

/-- The condition is needed: behind a number, the field and the type of the fragment are the
last step of the path, and behind an object nothing is asked for. -/
theorem object_hides_open_set :
    (∃ number object : Draft, number.withoutValues = object.withoutValues ∧
      number.ReachesTo "\x7b f(x: 1) \x7b " 12 ∧
      object.ReachesTo "\x7b f(x: \x7ba: \x7bb: 1\x7d\x7d) \x7b " 22 ∧
      contextAt? "\x7b f(x: 1) \x7b " 12 =
        some (.selection [.operation "query", .field "f"]) ∧
      contextAt? "\x7b f(x: \x7ba: \x7bb: 1\x7d\x7d) \x7b " 22 = none) ∧
    ∃ number object : Draft, number.withoutValues = object.withoutValues ∧
      number.ReachesTo "\x7b ... on T @d(x: 1) \x7b " 22 ∧
      object.ReachesTo "\x7b ... on T @d(x: \x7ba: 1\x7d) \x7b " 27 ∧
      contextAt? "\x7b ... on T @d(x: 1) \x7b " 22 =
        some (.selection [.operation "query", .typeCondition "T"]) ∧
      contextAt? "\x7b ... on T @d(x: \x7ba: 1\x7d) \x7b " 27 = none := by
  let field (value : Value) : Draft :=
    openBehind none (.field (fieldWith (letter 'f' rfl) (letter 'x' rfl) value)) none
  let written (value : Writing) : Writing :=
    opening ++ fieldWriting (letter 'f' rfl) (letter 'x' rfl) value ++ opening
  have number : (field (.number one)).ReachesTo "\x7b f(x: 1) \x7b " 12 :=
    ⟨⟨_, [], ⟨[], written [(.number one, [])], rfl, by decide, rfl⟩, .nothing, rfl⟩, by decide⟩
  have object : (field (.object [(letter 'a' rfl,
      .object [(letter 'b' rfl, .number one)])])).ReachesTo
        "\x7b f(x: \x7ba: \x7bb: 1\x7d\x7d) \x7b " 22 :=
    ⟨⟨_, [], ⟨[], written (wrapped (letter 'a' rfl) (wrapped (letter 'b' rfl)
      [(.number one, [])])), rfl, by decide, rfl⟩, .nothing, rfl⟩, by decide⟩
  let fragment (value : Value) : Draft :=
    openBehind none (fragmentWith (letter 'T' rfl) (letter 'd' rfl) (letter 'x' rfl) value) none
  let spread (value : Writing) : Writing :=
    opening ++ fragmentWriting (letter 'T' rfl) (letter 'd' rfl) (letter 'x' rfl) value ++ opening
  have fragmentNumber : (fragment (.number one)).ReachesTo "\x7b ... on T @d(x: 1) \x7b " 22 :=
    ⟨⟨_, [], ⟨[], spread [(.number one, [])], rfl, by decide, rfl⟩, .nothing, rfl⟩, by decide⟩
  have fragmentObject : (fragment (.object [(letter 'a' rfl, .number one)])).ReachesTo
      "\x7b ... on T @d(x: \x7ba: 1\x7d) \x7b " 27 :=
    ⟨⟨_, [], ⟨[], spread (wrapped (letter 'a' rfl) [(.number one, [])]), rfl, by decide,
      rfl⟩, .nothing, rfl⟩, by decide⟩
  refine ⟨⟨_, _, ?_, number, object, by decide, by decide⟩,
    _, _, ?_, fragmentNumber, fragmentObject, by decide, by decide⟩
  · rfl
  · rfl

end SchemaGuide.Query
