import Mathlib.Tactic.SplitIfs
import Mathlib.Tactic.Tauto
import SchemaGuide.Proofs.Query.Tracking
import SchemaGuide.Proofs.Text.Position

/-! The context at the end of an open document is the path of its selection sets. It is
exactly where the header of the definition does not use one of the words that start a
definition as a name of its own, and where no header between two open sets has an object in
its arguments. Everything else that a document may hold in front of the place is without
influence: complete definitions and selections, aliases, arguments, directives, variables,
strings, comments. -/
namespace SchemaGuide.Query

/-! ## Headers of definitions -/

/-- The words that start a definition. -/
def definitionWords : List String := ["query", "mutation", "subscription", "fragment"]

/-- The names in the header of a definition do not look like the start of another one: the
name of an operation, if it is one of the words, leads to the same operation, and the type
of a fragment is none of the words nor the one in front of it. -/
def DefinitionHeader.IsPlain : DefinitionHeader → Prop
  | .shorthand => True
  | .operation keyword name _ _ =>
    ∀ word ∈ name, word.text ∉ definitionWords ∨ word.text = keyword.name.text ∨
      (word.text = fragmentWord.text ∧ keyword = .query)
  | .fragment _ type _ => type.text ∉ onWord.text :: definitionWords

namespace Tracker

theorem passes_type {tracker : Tracker} (inside : tracker.InValue) (calm : tracker.Calm) :
    ∀ type : TypeNotation, tracker.Passes (tracker.reads type.lexemes) false
  | .named name => passes_name inside calm name.text
  | .list inner => by
    have opened := inValue_of_bracket tracker
    rw [TypeNotation.lexemes, List.cons_append, reads_cons, reads_append]
    exact passes_brackets (passes_type opened.1 opened.2 inner)
  | .nonNull inner => by
    have passes := passes_type inside calm inner
    rw [TypeNotation.lexemes, reads_append]
    exact passes

theorem passes_variableDefinition {tracker : Tracker} (inside : tracker.InValue)
    (calm : tracker.Calm) (definition : VariableDefinition) :
    tracker.Passes (tracker.reads definition.lexemes)
      (definition.default.elim false Value.hasObject || definition.directives.hasObject) := by
  obtain ⟨gap, name, type, default, directives⟩ := definition
  have named := (passes_parameter inside calm gap name).trans (passes_colon _)
  have typed := named.trans (passes_type (inside.of_passes named) named.1 type)
  have defaulted : tracker.Passes
      ((((tracker.reads [.dollar gap name]).reads [.sign .colon]).reads type.lexemes).reads
        (default.elim [] fun value => .sign .equals :: value.lexemes))
      (default.elim false Value.hasObject) := by
    cases default with
    | none => exact typed
    | some value => exact typed.trans (passes_value (inside.of_passes typed) typed.1 value)
  have directed := defaulted.trans (passes_directives defaulted.1 directives)
  simpa only [VariableDefinition.lexemes, ← reads_append, List.append_assoc, List.nil_append,
    List.cons_append] using directed

theorem passes_variableDefinitions {tracker : Tracker} (calm : tracker.Calm)
    (definitions : VariableDefinitions) :
    ∃ brace, tracker.Passes (tracker.reads definitions.lexemes) brace := by
  cases definitions with
  | nil => exact ⟨false, .of_calm calm⟩
  | cons definition rest =>
    have opened := inValue_of_parenthesis tracker
    have passed := passes_all passes_variableDefinition opened.1 opened.2 (definition :: rest)
    rw [VariableDefinitions.lexemes, if_neg (by simp), List.cons_append, reads_cons, reads_append]
    exact ⟨_, passes_parentheses passed⟩

/-- The tracker stands outside of all brackets, in front of a definition. -/
def Outside (tracker : Tracker) : Prop := tracker.At [] none none ∧ tracker.Calm

/-- The tracker stands behind the header of a definition and has made that step of it. -/
structure Heads (tracker : Tracker) (found : Step) : Prop where
  frames : tracker.frames = []
  field : tracker.field = none
  typeCondition : tracker.typeCondition = none
  found : tracker.definitionStep = found

variable {tracker after : Tracker} {found : Step}

theorem Passes.heads {brace : Bool} (passes : tracker.Passes after brace)
    (heads : tracker.Heads found) : after.Heads found := by
  obtain ⟨_, previous, inDirective, rfl⟩ := passes
  cases brace
  · exact ⟨heads.frames, heads.field, heads.typeCondition, heads.found⟩
  · exact ⟨heads.frames, rfl, rfl, heads.found⟩

theorem Heads.openBrace (heads : tracker.Heads found) :
    (tracker.reads [.sign .openBrace]).Inside (.selection found) [] none := by
  have opened : tracker.reads [.sign .openBrace] =
      { tracker with
        frames := [.selection found], operation := none, fragmentType := none
        expectsType := false, inDirective := false, previous := some (.punctuator '{') } := by
    simp [reads, Lexeme.tokens, Sign.char, step, readPunctuator, Tracker.openBrace, heads.frames,
      heads.found]
  refine ⟨.selection found none, ?_, by simp [opened, Calm]⟩
  rw [opened]
  exact ⟨rfl, heads.field, heads.typeCondition, rfl, rfl, rfl⟩

/-- A name outside of all brackets. -/
theorem step_definitionName (frames : tracker.frames = []) (calm : tracker.Calm) (word : String) :
    tracker.step (.name word) =
      { tracker.definitionName word with previous := some (.name word) } := by
  simp [step, readName, calm.1, frames]

theorem definitionName_keeps (tracker : Tracker) (word : String) :
    (tracker.definitionName word).frames = tracker.frames ∧
      (tracker.definitionName word).field = tracker.field ∧
      (tracker.definitionName word).typeCondition = tracker.typeCondition := by
  rw [definitionName]
  repeat' split
  all_goals exact ⟨rfl, rfl, rfl⟩

/-- A further name in a header can only change the step that the header makes. -/
private theorem heads_of_name (frames : tracker.frames = []) (field : tracker.field = none)
    (typeCondition : tracker.typeCondition = none) (calm : tracker.Calm) {word : String}
    (step : (tracker.definitionName word).definitionStep = found) :
    (tracker.step (.name word)).Heads found ∧ (tracker.step (.name word)).Calm := by
  obtain ⟨sameFrames, sameField, sameCondition⟩ := definitionName_keeps tracker word
  rw [step_definitionName frames calm]
  exact ⟨⟨sameFrames.trans frames, sameField.trans field, sameCondition.trans typeCondition, step⟩,
    by simp [Calm]⟩

/-- The operation that a word behind its keyword makes of it. -/
def operationAfter (keyword word : String) : String :=
  if isOperation word then word else if word = "fragment" then "query" else keyword

private theorem operationAfter_eq_iff (keyword : Keyword) (word : String) :
    operationAfter keyword.name.text word = keyword.name.text ↔
      word ∉ definitionWords ∨ word = keyword.name.text ∨
        (word = fragmentWord.text ∧ keyword = .query) := by
  have fragment : fragmentWord.text = "fragment" := rfl
  have query : Keyword.query.name.text = "query" := rfl
  have mutation : Keyword.mutation.name.text = "mutation" := rfl
  have subscription : Keyword.subscription.name.text = "subscription" := rfl
  by_cases starts : isOperation word = true
  · have listed : word ∈ definitionWords := by
      simp only [isOperation, Bool.or_eq_true, decide_eq_true_eq] at starts
      rcases starts with (rfl | rfl) | rfl <;> simp [definitionWords]
    have other : word ≠ "fragment" := by
      rintro rfl
      exact absurd starts (by decide)
    simp [operationAfter, starts, listed, fragment, other]
  · by_cases isFragment : word = "fragment"
    · subst isFragment
      cases keyword <;>
        simp [operationAfter, isOperation, definitionWords, fragment, query, mutation, subscription]
    · have unlisted : word ∉ definitionWords := by
        simp only [isOperation, Bool.or_eq_true, decide_eq_true_eq] at starts
        simp [definitionWords, isFragment]
        tauto
      simp [operationAfter, starts, isFragment, unlisted]

/-- The name of an operation is read like a word that starts a definition. -/
private theorem operation_name_step (keyword : String) (expectsType : tracker.expectsType = false)
    (operation : tracker.operation = some keyword) (fragmentType : tracker.fragmentType = none)
    (word : String) :
    (tracker.definitionName word).definitionStep = .operation (operationAfter keyword word) := by
  rw [definitionName, operationAfter]
  repeat' split
  all_goals simp_all [definitionStep]

/-- Behind the name of an operation, the word that it is read like is what counts. -/
private theorem Outside.operation_name (outside : tracker.Outside) (keyword : Keyword)
    (name : Option Name) :
    (tracker.reads (.name keyword.name :: (name.map Lexeme.name).toList)).Heads
        (.operation (name.elim keyword.name.text fun word =>
          operationAfter keyword.name.text word.text)) ∧
      (tracker.reads (.name keyword.name :: (name.map Lexeme.name).toList)).Calm := by
  obtain ⟨known, calm⟩ := outside
  have starts : isOperation keyword.name.text = true := by cases keyword <;> rfl
  have first : tracker.reads [.name keyword.name] =
      { tracker with
        operation := some keyword.name.text, fragmentType := none
        previous := some (.name keyword.name.text) } := by
    change tracker.step (.name keyword.name.text) = _
    rw [step_definitionName known.frames calm, definitionName, if_pos starts]
  cases name with
  | none =>
    change (tracker.reads [.name keyword.name]).Heads _ ∧ (tracker.reads [.name keyword.name]).Calm
    rw [first]
    exact ⟨⟨known.frames, known.field, known.typeCondition, rfl⟩, by simp [Calm]⟩
  | some word =>
    change ((tracker.reads [.name keyword.name]).step (.name word.text)).Heads _ ∧
      ((tracker.reads [.name keyword.name]).step (.name word.text)).Calm
    rw [first]
    refine heads_of_name ?_ ?_ ?_ ?_ ?_
    · exact known.frames
    · exact known.field
    · exact known.typeCondition
    · simp [Calm]
    · refine operation_name_step keyword.name.text ?_ ?_ ?_ word.text
      · exact known.expectsType
      · rfl
      · rfl

/-- The step that the words of a fragment's header make. A type that is one of the words
that start a definition starts an operation, and one that is the word in front of a type
leaves the name of the fragment to be read so. -/
def fragmentStep (name type : String) : Step :=
  if isOperation type then .operation type
  else if type = "fragment" then .operation "query"
  else if type = "on" then .operation (operationAfter "query" name)
  else .typeCondition type

private theorem fragmentStep_eq_iff (name type : String) :
    fragmentStep name type = .typeCondition type ↔ type ∉ onWord.text :: definitionWords := by
  have on : onWord.text = "on" := rfl
  simp only [fragmentStep, on, definitionWords, isOperation, List.mem_cons, List.not_mem_nil,
    or_false, Bool.or_eq_true, decide_eq_true_eq]
  split_ifs with starts fragment condition
  · simpa using fun _ => by tauto
  · simp [fragment]
  · simp [condition]
  · simp only [true_iff]
    tauto

/-- Behind the words of a fragment's header, its type is what counts. -/
private theorem Outside.fragmentName (outside : tracker.Outside) (name : FragmentName)
    (type : Name) :
    (tracker.reads [.name fragmentWord, .name name.name, .name onWord, .name type]).Heads
        (fragmentStep name.name.text type.text) ∧
      (tracker.reads [.name fragmentWord, .name name.name, .name onWord, .name type]).Calm := by
  obtain ⟨known, calm⟩ := outside
  obtain ⟨name, notOn⟩ := name
  have named : name.text ≠ "on" := notOn
  have fragment : fragmentWord.text = "fragment" := rfl
  have on : onWord.text = "on" := rfl
  have conditioned : tracker.reads [.name fragmentWord, .name name, .name onWord] =
      { tracker with
        operation := if isOperation name.text then some name.text else none, fragmentType := none
        expectsType := true, previous := some (.name "on") } := by
    by_cases starts : isOperation name.text = true
    · simp [reads, Lexeme.tokens, step, readName, definitionName, known.frames, calm.1, fragment,
        on, starts, show isOperation "fragment" = false from rfl,
        show isOperation "on" = false from rfl]
    · by_cases again : name.text = "fragment" <;>
        simp [reads, Lexeme.tokens, step, readName, definitionName, known.frames, calm.1, fragment,
          on, starts, again, named, known.expectsType, show isOperation "fragment" = false from rfl,
          show isOperation "on" = false from rfl]
  change ((tracker.reads [.name fragmentWord, .name name, .name onWord]).step
      (.name type.text)).Heads _ ∧
    ((tracker.reads [.name fragmentWord, .name name, .name onWord]).step (.name type.text)).Calm
  rw [conditioned]
  refine heads_of_name ?_ ?_ ?_ ?_ ?_
  · exact known.frames
  · exact known.field
  · exact known.typeCondition
  · simp [Calm]
  · rw [definitionName, fragmentStep]
    split_ifs <;> simp_all [definitionStep, operationAfter]

end Tracker

/-- The step that is found at the brace behind the header of a definition. -/
def DefinitionHeader.found : DefinitionHeader → Step
  | .shorthand => .operation "query"
  | .operation keyword name _ _ =>
    .operation (name.elim keyword.name.text fun word =>
      Tracker.operationAfter keyword.name.text word.text)
  | .fragment name type _ => Tracker.fragmentStep name.name.text type.text

/-- It is the one that the header makes exactly where the names in it are plain. -/
theorem DefinitionHeader.found_eq_step_iff (header : DefinitionHeader) :
    header.found = header.step ↔ header.IsPlain := by
  cases header with
  | shorthand => exact iff_of_true rfl trivial
  | operation keyword name parameters directives =>
    cases name with
    | none => simp [found, step, IsPlain]
    | some word =>
      simpa [found, step, IsPlain] using Tracker.operationAfter_eq_iff keyword word.text
  | fragment name type directives => exact Tracker.fragmentStep_eq_iff name.name.text type.text

namespace Tracker

variable {tracker : Tracker}

/-- The header of a definition with its brace opens one bracket. -/
theorem Outside.header (outside : tracker.Outside) (header : DefinitionHeader) :
    (tracker.reads (header.lexemes ++ [.sign .openBrace])).Inside (.selection header.found) []
      none := by
  cases header with
  | shorthand =>
    obtain ⟨known, calm⟩ := outside
    have heads : tracker.Heads (.operation "query") :=
      ⟨known.frames, known.field, known.typeCondition, by
        simp [definitionStep, known.operation, known.fragmentType]⟩
    exact heads.openBrace
  | operation keyword name parameters directives =>
    obtain ⟨heads, calm⟩ := outside.operation_name keyword name
    obtain ⟨brace, passes⟩ := passes_variableDefinitions calm parameters
    have headed := (passes.trans (passes_directives passes.1 directives)).heads heads
    rw [DefinitionHeader.lexemes, reads_append, reads_append, reads_append]
    exact headed.openBrace
  | fragment name type directives =>
    obtain ⟨heads, calm⟩ := outside.fragmentName name type
    have headed := (passes_directives calm directives).heads heads
    rw [DefinitionHeader.lexemes, reads_append, reads_append]
    exact headed.openBrace

/-- A complete definition leaves the tracker outside of all brackets. -/
theorem Outside.definition (outside : tracker.Outside) (definition : QueryDefinition) :
    (tracker.reads definition.lexemes).Outside := by
  have known := ((outside.header definition.header).selections definition.set).known
  have closed : tracker.reads definition.lexemes =
      ((tracker.reads (definition.header.lexemes ++ [.sign .openBrace])).reads
        (Selection.setLexemes definition.set)).step (.punctuator '}') := by
    simp [QueryDefinition.lexemes, reads_append, reads_cons]
    rfl
  rw [closed]
  exact known.closeBrace

theorem Outside.definitions (outside : tracker.Outside) (definitions : List QueryDefinition) :
    (tracker.reads (definitions.flatMap QueryDefinition.lexemes)).Outside := by
  induction definitions generalizing tracker with
  | nil => exact outside
  | cons definition rest ih =>
    rw [List.flatMap_cons, reads_append]
    exact ih (outside.definition definition)

/-! ## Open selection sets -/

variable {frame : Frame} {outer : List Frame} {field : Option String}

/-- Behind a set that is taken for a value, all sets are. -/
theorem Inside.levels_inValue (inside : tracker.Inside .value outer none) (levels : List Level) :
    ∃ outer', (tracker.reads (levels.flatMap Level.lexemes)).Inside .value outer' none := by
  induction levels generalizing tracker outer with
  | nil => exact ⟨outer, inside⟩
  | cons level rest ih =>
    rw [List.flatMap_cons, reads_append]
    exact ih (inside.level level)

/-- Each open set adds the step that is found at its brace. Where none is, the rest is taken for
a value. -/
theorem Inside.levels {first : Step} (inside : tracker.Inside (.selection first) outer none)
    (levels : List Level) :
    ∃ frame outer', (tracker.reads (levels.flatMap Level.lexemes)).Inside frame outer' none ∧
      (∀ steps, levels.mapM Level.found? = some steps →
        frame :: outer' = steps.reverse.map .selection ++ .selection first :: outer) ∧
      (levels.mapM Level.found? = none → frame = .value) := by
  induction levels generalizing tracker first outer with
  | nil => exact ⟨_, _, inside, by simp, by simp⟩
  | cons level rest ih =>
    have headed := inside.level level
    rw [List.flatMap_cons, reads_append, found_steps_cons]
    cases found : level.found? with
    | none =>
      rw [found] at headed
      obtain ⟨outer', valued⟩ := headed.levels_inValue rest
      exact ⟨.value, outer', valued, by simp, fun _ => rfl⟩
    | some step =>
      rw [found] at headed
      obtain ⟨frame, outer', read, sets, value⟩ := ih headed
      refine ⟨frame, outer', read, fun steps all => ?_, fun none => ?_⟩
      · obtain ⟨others, later, rfl⟩ := Option.map_eq_some_iff.mp all
        simpa using sets others later
      · exact value (Option.map_eq_none_iff.mp none)

/-! ## Contexts -/

/-- Selection sets alone are the path that their steps make. -/
theorem path_of_selections (steps : List Step) :
    path? (steps.map Frame.selection) = some steps.reverse := by
  induction steps with
  | nil => rfl
  | cons step outer ih => simp [path?, ih]

/-- What the parentheses behind a field in a set belong to. -/
def argumentFrame (frame : Frame) (field : String) : Frame :=
  match frame with
  | .selection _ => .arguments (some field)
  | _ => .arguments none

/-- Behind its name, the parentheses of a field open its arguments. -/
private theorem Inside.openParenthesis (inside : tracker.Inside frame outer field)
    (label : Option Name) (field : Name) :
    ((tracker.reads (aliasedLexemes label field)).step (.punctuator '(')).frames =
      argumentFrame frame field.text :: frame :: outer := by
  obtain ⟨remembers, known, calm⟩ := inside
  cases remembers with
  | value =>
    have named := (passes_aliased known.inValue calm label field).at known
    simp [step, readPunctuator, Tracker.openParenthesis, inSelection, named.frames, argumentFrame]
  | selection owner =>
    obtain ⟨named, _, notInDirective⟩ := known.aliased calm label field
    simp [step, readPunctuator, Tracker.openParenthesis, inSelection, named.frames, named.field,
      notInDirective, argumentFrame]

/-- Open arguments are one more bracket, whatever was written in them so far. -/
theorem Inside.openArguments (inside : tracker.Inside frame outer field) (list : OpenArguments) :
    (tracker.reads list.lexemes).frames =
      argumentFrame frame list.field.text :: frame :: outer := by
  obtain ⟨label, field, before, pending⟩ := list
  have opened := inside.openParenthesis label field
  have started := inValue_of_parenthesis (tracker.reads (aliasedLexemes label field))
  have argued := passes_all passes_argument started.1 started.2 before
  rw [OpenArguments.lexemes, List.append_assoc, reads_append, List.cons_append, reads_cons,
    reads_append]
  cases pending with
  | none => exact argued.frames.trans opened
  | some name =>
    have named := argued.trans
      ((passes_name (started.1.of_passes argued) argued.1 name.text).trans (passes_colon _))
    exact named.frames.trans opened

/-- At the end of a document whose innermost set is taken for a value, nothing is offered. -/
private theorem Inside.no_context (inside : tracker.Inside .value outer field)
    (arguments : Option OpenArguments) :
    (tracker.reads (arguments.elim [] OpenArguments.lexemes)).context? = none := by
  cases arguments with
  | none => simp [context?, inside.known.frames]
  | some list =>
    have frames := inside.openArguments list
    simp [context?, frames, argumentFrame]

/-- Where all open brackets are selection sets, their steps are what is asked for. -/
private theorem Inside.context {steps : List Step} (inside : tracker.Inside frame outer field)
    (sets : frame :: outer = steps.reverse.map .selection) (document : OpenDocument) :
    (tracker.reads (document.arguments.elim [] OpenArguments.lexemes)).context? =
      some (document.contextOn steps) := by
  have path : path? (frame :: outer) = some steps := by
    rw [sets, path_of_selections, List.reverse_reverse]
  obtain ⟨step, rfl⟩ : ∃ step, frame = .selection step := by
    have member : frame ∈ steps.reverse.map Frame.selection := sets ▸ List.mem_cons_self
    obtain ⟨step, _, same⟩ := List.mem_map.mp member
    exact ⟨step, same.symm⟩
  rw [OpenDocument.contextOn]
  cases document.arguments with
  | none =>
    obtain ⟨around, found, rfl⟩ := Option.map_eq_some_iff.mp path
    simp [context?, inside.known.frames, found]
  | some list =>
    have frames := inside.openArguments list
    simp [context?, frames, argumentFrame, path]

/-- The context behind the lexemes of an open document is on the path of the steps that are
found, if one is at every level. -/
theorem Outside.found_context (outside : tracker.Outside) (document : OpenDocument) :
    (tracker.reads document.lexemes).context? =
      (document.levels.mapM Level.found?).map fun steps =>
        document.contextOn (document.header.found :: steps) := by
  have opened := (outside.definitions document.before).header document.header
  obtain ⟨frame, outer, inside, sets, value⟩ := opened.levels document.levels
  have last := inside.selections document.last
  have split : document.lexemes = document.before.flatMap QueryDefinition.lexemes ++
      ((document.header.lexemes ++ [.sign .openBrace]) ++
        (document.levels.flatMap Level.lexemes ++ (Selection.setLexemes document.last ++
          document.arguments.elim [] OpenArguments.lexemes))) := by
    simp [OpenDocument.lexemes]
  rw [split, reads_append, reads_append, reads_append, reads_append]
  cases found : document.levels.mapM Level.found? with
  | none =>
    obtain rfl := value found
    exact last.no_context document.arguments
  | some steps =>
    have path : frame :: outer = (document.header.found :: steps).reverse.map .selection := by
      simpa using sets steps found
    exact last.context path document

/-- At the brace of a header that makes a step of its own, that step is found unless there is an
object in the header. -/
private theorem found_levels_of_typed {levels : List Level}
    (typed : ∀ level ∈ levels, level.header.step?.isSome = true) :
    levels.mapM Level.found? = if ∀ level ∈ levels, level.header.hasObject = false then
      some (levels.filterMap (·.header.step?)) else none := by
  induction levels with
  | nil => rfl
  | cons level rest ih =>
    obtain ⟨step, own⟩ := Option.isSome_iff_exists.mp (typed level (by simp))
    rw [found_steps_cons, ih fun other member => typed other (by simp [member]), Level.found?,
      Header.found?, own]
    cases object : level.header.hasObject with
    | true => simp [object]
    | false =>
      simp only [Bool.false_eq_true, if_false, Option.some_or, Option.bind_some,
        List.forall_mem_cons, object, true_and]
      split <;> simp [own]

private theorem contextOn_inj (document : OpenDocument) {first second : List Step} :
    document.contextOn first = document.contextOn second ↔ first = second := by
  rw [OpenDocument.contextOn, OpenDocument.contextOn]
  cases document.arguments <;> simp

/-- Where each level makes a step of its own, the context is that of the document unless there is
an object in the header of one or the names of the definition mislead. -/
theorem Outside.context (outside : tracker.Outside) (document : OpenDocument)
    (typed : ∀ level ∈ document.levels, level.header.step?.isSome = true) :
    (tracker.reads document.lexemes).context? = some document.context ↔
      document.header.IsPlain ∧ ∀ level ∈ document.levels, level.header.hasObject = false := by
  rw [outside.found_context document, found_levels_of_typed typed]
  by_cases objects : ∀ level ∈ document.levels, level.header.hasObject = false
  · rw [if_pos objects, Option.map_some, Option.some_inj, OpenDocument.context, contextOn_inj,
      OpenDocument.path, ← document.header.found_eq_step_iff]
    simpa using fun _ => objects
  · simp [objects]

end Tracker

/-! ## Texts -/

theorem upToByte_of_length (chars : List Char) :
    Text.upToByte (Text.byteLength chars) chars = chars :=
  Text.upToByte_of_prefix List.prefix_rfl

/-- **The context is the path of the open selection sets.** At the end of an open document,
however it is spelled, what is asked for is what the document says, exactly where the names
in the header of the definition are plain and no header between two open sets has an object
in its arguments. -/
theorem context_of_open_document (document : OpenDocument) (text : String)
    (spells : Spells text.toList document.lexemes)
    (through : ∀ lexeme ∈ document.lexemes, lexeme.IsReadThrough)
    (typed : ∀ level ∈ document.levels, level.header.step?.isSome = true) :
    contextAt? text (Text.byteLength text.toList) = some document.context ↔
      document.header.IsPlain ∧ ∀ level ∈ document.levels, level.header.hasObject = false := by
  have outside : Tracker.initial.Outside :=
    ⟨⟨rfl, rfl, rfl, rfl, rfl, rfl⟩, by simp [Tracker.Calm, Tracker.initial]⟩
  rw [← outside.context document typed, contextAt?, upToByte_of_length, contextAfter?,
    tokens_of_spells spells through, Tracker.reads]

/-- A name of one letter. -/
def letter (c : Char) (isAlpha : c.isAlpha = true) : Name :=
  .ofChars c [] (by simp [isAlpha]) rfl

/-- A single space. -/
def space : Gap := [.blank ' ' rfl]

/-- The number one. -/
def one : Number := ⟨false, ⟨'1', [], by simp⟩, none, none⟩

/-- A document with a complete fragment, a variable, an alias, directives, a comment and a
fragment in place in front of its end. -/
private def sample : OpenDocument where
  before := [⟨.fragment ⟨letter 'F' rfl, by decide⟩ (letter 'T' rfl) [],
    [.leaf ⟨none, letter 'n' rfl, [], []⟩]⟩]
  header := .operation .mutation none
    [⟨[], letter 'v' rfl, .nonNull (.named (letter 'I' rfl)), none, []⟩] []
  levels :=
    [⟨[.spread ⟨letter 'F' rfl, by decide⟩ []],
        .field ⟨some (letter 'x' rfl), letter 'a' rfl,
          [⟨letter 'p' rfl, .parameter [] (letter 'v' rfl)⟩], []⟩⟩,
      ⟨[], .fragment (some (letter 'U' rfl)) [⟨letter 'd' rfl, []⟩]⟩]
  last := []
  arguments := some ⟨none, letter 'b' rfl, [], some (letter 'q' rfl)⟩

private def sampleWriting : Writing :=
  [(.name fragmentWord, space), (.name (letter 'F' rfl), space), (.name onWord, space),
    (.name (letter 'T' rfl), space), (.sign .openBrace, []), (.name (letter 'n' rfl), []),
    (.sign .closeBrace, space), (.name Keyword.mutation.name, []), (.sign .openParenthesis, []),
    (.dollar [] (letter 'v' rfl), []), (.sign .colon, []), (.name (letter 'I' rfl), []),
    (.sign .bang, []), (.sign .closeParenthesis, space), (.sign .openBrace, []),
    (.spread, []), (.name (letter 'F' rfl), [.comment [' ', '{'] (by decide)]),
    (.name (letter 'x' rfl), []), (.sign .colon, []), (.name (letter 'a' rfl), []),
    (.sign .openParenthesis, []), (.name (letter 'p' rfl), []), (.sign .colon, []),
    (.dollar [] (letter 'v' rfl), []), (.sign .closeParenthesis, []), (.sign .openBrace, []),
    (.spread, []), (.name onWord, space), (.name (letter 'U' rfl), space), (.sign .atSign, []),
    (.name (letter 'd' rfl), []), (.sign .openBrace, []), (.name (letter 'b' rfl), []),
    (.sign .openParenthesis, []), (.name (letter 'q' rfl), []), (.sign .colon, [])]

private def sampleText : String :=
  "fragment F on T \x7bn\x7d mutation($v:I!) \x7b...F# \x7b\nx:a(p:$v)\x7b...on U @d\x7bb(q:"

theorem context_of_sample :
    (Spells sampleText.toList sample.lexemes ∧
      (∀ lexeme ∈ sample.lexemes, lexeme.IsReadThrough) ∧
      ∀ level ∈ sample.levels, level.header.step?.isSome = true) ∧
    contextAt? sampleText (Text.byteLength sampleText.toList) =
      some (.arguments [.operation "mutation", .field "a", .typeCondition "U"] "b") := by
  have spells : Spells sampleText.toList sample.lexemes :=
    ⟨[], sampleWriting, rfl, by decide, rfl⟩
  have through : ∀ lexeme ∈ sample.lexemes, lexeme.IsReadThrough := by decide
  have typed : ∀ level ∈ sample.levels, level.header.step?.isSome = true := by decide
  have plain : sample.header.IsPlain := by simp [sample, DefinitionHeader.IsPlain]
  exact ⟨⟨spells, through, typed⟩,
    (context_of_open_document sample sampleText spells through typed).mpr ⟨plain, by decide⟩⟩

/-! ### Other contexts -/

/-- An operation that is named like a keyword. -/
private def misnamed : OpenDocument where
  before := []
  header := .operation .mutation (some Keyword.query.name) [] []
  levels := []
  last := []
  arguments := none

/-- A selection set behind a field with that argument. -/
private def behind (value : Value) : OpenDocument where
  before := []
  header := .shorthand
  levels := [⟨[], .field ⟨none, letter 'a' rfl, [⟨letter 'b' rfl, value⟩], []⟩⟩]
  last := []
  arguments := none

private def writingBehind (value : Writing) : Writing :=
  [(.sign .openBrace, space), (.name (letter 'a' rfl), []), (.sign .openParenthesis, []),
    (.name (letter 'b' rfl), []), (.sign .colon, space)] ++ value ++
  [(.sign .closeParenthesis, space), (.sign .openBrace, space)]

private def objectWriting : Writing :=
  [(.sign .openBrace, []), (.name (letter 'c' rfl), []), (.sign .colon, space),
    (.number one, []), (.sign .closeBrace, [])]

private theorem escaped_mark :
    BlockContent ['\\', '\\', '\x22', '\x22', '\x22', ' ', '{'] :=
  .plain (by decide) (by decide) (.escape (.plain (by decide) (by decide)
    (.plain (by decide) (by decide) .nil)))

/-- The text of a block string with an escaped mark behind a backslash. -/
private def markedText : String :=
  "\x7b a(b: \x22\x22\x22\\\\\x22\x22\x22 \x7b\x22\x22\x22) \x7b "

/-- The conditions are needed: an operation named like a keyword, an object in the arguments
of an open field, and a block string with a backslash in front of an escaped mark all lead to
another context than that of the document, or to none. -/
theorem context_of_other_documents :
    (∃ document : OpenDocument, Spells "mutation query \x7b ".toList document.lexemes ∧
      document.context = .selection [.operation "mutation"] ∧
      contextAt? "mutation query \x7b " 17 = some (.selection [.operation "query"])) ∧
    (∃ document : OpenDocument, Spells "\x7b a(b: \x7bc: 1\x7d) \x7b ".toList document.lexemes ∧
      document.context = .selection [.operation "query", .field "a"] ∧
      contextAt? "\x7b a(b: \x7bc: 1\x7d) \x7b " 18 = none) ∧
    ∃ document : OpenDocument, Spells markedText.toList document.lexemes ∧
      document.context = .selection [.operation "query", .field "a"] ∧
      contextAt? markedText 24 = none := by
  have named : Spells "mutation query \x7b ".toList misnamed.lexemes :=
    ⟨[], [(.name Keyword.mutation.name, space), (.name Keyword.query.name, space),
      (.sign .openBrace, space)], rfl, by decide, rfl⟩
  have object : Spells "\x7b a(b: \x7bc: 1\x7d) \x7b ".toList
      (behind (.object [(letter 'c' rfl, .number one)])).lexemes :=
    ⟨[], writingBehind objectWriting, rfl, by decide, rfl⟩
  have marked : Spells markedText.toList (behind (.block _ escaped_mark)).lexemes :=
    ⟨[], writingBehind [(.block _ escaped_mark, [])], rfl, by decide, rfl⟩
  exact ⟨⟨_, named, rfl, by decide⟩, ⟨_, object, rfl, by decide⟩, _, marked, rfl, by decide⟩

end SchemaGuide.Query
