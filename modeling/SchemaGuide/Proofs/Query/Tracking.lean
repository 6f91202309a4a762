import SchemaGuide.Proofs.Query.Lexing
import SchemaGuide.Proofs.Query.Syntax

/-! The tracker on the parts of a document. Arguments, directives and values come and go
inside brackets of their own, so the tracker is behind them what it was in front, apart from
what a closing brace makes it forget: an object value ends with one. Complete selections leave
the open brackets as they are, and a header with its brace opens exactly one more. Which one
that is depends on the header alone, unless it is that of a fragment without a condition:
then the field counts that was selected last. -/
namespace SchemaGuide.Query

/-! ## What is remembered -/

/-- Whether there is an object in the arguments of a field or of its directives. -/
def FieldHead.hasObject (head : FieldHead) : Bool :=
  head.arguments.hasObject || head.directives.hasObject

/-- The field that is remembered behind a complete selection. -/
def Selection.remembered? : Selection → Option String
  | .leaf head => if head.hasObject then none else some head.name.text
  | .spread _ _ | .nested _ _ => none

/-- The step that is found at the brace behind a header, if that field is remembered in front
of the header. A fragment without a condition leaves it remembered, and an object does not. -/
def Header.found? (header : Header) (remembered : Option String) : Option Step :=
  if header.hasObject then none else header.step?.or (remembered.map .field)

/-- The step that is found at the brace of a level. -/
def Level.found? (level : Level) : Option Step :=
  level.header.found? (level.before.getLast?.bind Selection.remembered?)

/-- What is remembered behind selections is the last of them, if it is a field without selections
and without objects. -/
theorem remembered_behind_iff (before : List Selection) (field : String) :
    before.getLast?.bind Selection.remembered? = some field ↔
      ∃ head, before.getLast? = some (.leaf head) ∧ head.hasObject = false ∧
        head.name.text = field := by
  cases before.getLast? with
  | none => simp
  | some last =>
    cases last with
    | leaf head => cases object : head.hasObject <;> simp [Selection.remembered?, object]
    | spread fragment directives | nested header set => simp [Selection.remembered?]

theorem found_steps_cons (level : Level) (rest : List Level) :
    (level :: rest).mapM Level.found? =
      level.found?.bind fun step => (rest.mapM Level.found?).map (step :: ·) := by
  rw [List.mapM_cons]
  cases level.found? <;> cases rest.mapM Level.found? <;> rfl

namespace Tracker

/-- The tracker after lexemes. -/
def reads (tracker : Tracker) (lexemes : List Lexeme) : Tracker :=
  (lexemes.flatMap Lexeme.tokens).foldl step tracker

@[simp] theorem reads_nil (tracker : Tracker) : tracker.reads [] = tracker := rfl

theorem reads_cons (tracker : Tracker) (lexeme : Lexeme) (rest : List Lexeme) :
    tracker.reads (lexeme :: rest) = (lexeme.tokens.foldl step tracker).reads rest := by
  simp [reads]

theorem reads_append (tracker : Tracker) (first second : List Lexeme) :
    tracker.reads (first ++ second) = (tracker.reads first).reads second := by
  simp [reads]

/-- The last token neither announces a directive nor a fragment. -/
def Calm (tracker : Tracker) : Prop :=
  tracker.previous ≠ some (.punctuator '@') ∧ tracker.previous ≠ some .spread

/-- What the tracker knows after a closing brace, if there was one. -/
def afterBrace (brace : Bool) (tracker : Tracker) : Tracker :=
  if brace then { tracker with field := none, typeCondition := none, expectsType := false }
  else tracker

/-- Between two places of the same brackets nothing is learned. What is known is kept, unless
a brace was closed in between; whether parentheses belong to a directive may change. -/
def Passes (before after : Tracker) (brace : Bool) : Prop :=
  after.Calm ∧ ∃ previous inDirective,
    after = { before.afterBrace brace with previous := previous, inDirective := inDirective }

namespace Passes

variable {first second third : Tracker} {brace other : Bool}

theorem of_calm (calm : first.Calm) : first.Passes first false :=
  ⟨calm, first.previous, first.inDirective, rfl⟩

theorem trans (one : first.Passes second brace) (two : second.Passes third other) :
    first.Passes third (brace || other) := by
  obtain ⟨_, previous, inDirective, rfl⟩ := one
  obtain ⟨calm, later, laterDirective, rfl⟩ := two
  refine ⟨calm, later, laterDirective, ?_⟩
  cases brace <;> cases other <;> rfl

theorem frames (passes : first.Passes second brace) : second.frames = first.frames := by
  obtain ⟨_, previous, inDirective, rfl⟩ := passes
  cases brace <;> rfl

end Passes

/-- The innermost bracket is none of a selection set, and there is one. -/
def InValue (tracker : Tracker) : Prop :=
  ∃ frame rest, tracker.frames = frame :: rest ∧ ∀ step, frame ≠ .selection step

namespace InValue

variable {tracker : Tracker}

theorem not_inSelection (inside : tracker.InValue) : tracker.inSelection = false := by
  obtain ⟨frame, rest, frames, other⟩ := inside
  cases frame with
  | selection step => exact absurd rfl (other step)
  | arguments field => simp [inSelection, frames]
  | value => simp [inSelection, frames]

theorem frames_ne_nil (inside : tracker.InValue) : tracker.frames ≠ [] := by
  obtain ⟨frame, rest, frames, other⟩ := inside
  simp [frames]

theorem of_passes {after : Tracker} {brace : Bool} (inside : tracker.InValue)
    (passes : tracker.Passes after brace) : after.InValue := by
  obtain ⟨frame, rest, frames, other⟩ := inside
  exact ⟨frame, rest, passes.frames.trans frames, other⟩

end InValue

/-! ## Values -/

/-- Inside of a value, a name says nothing. -/
theorem passes_name {tracker : Tracker} (inside : tracker.InValue) (calm : tracker.Calm)
    (word : String) : tracker.Passes (tracker.step (.name word)) false := by
  have skipped : tracker.readName word = tracker := by
    simp [readName, calm.1, inside.frames_ne_nil, inside.not_inSelection]
  refine ⟨by simp [Calm, step], some (.name word), tracker.inDirective, ?_⟩
  simp [step, skipped, afterBrace]

theorem passes_colon (tracker : Tracker) :
    tracker.Passes (tracker.step (.punctuator ':')) false :=
  ⟨by simp [Calm, step], some (.punctuator ':'), tracker.inDirective, rfl⟩

/-- A bracket that is opened, passed and closed again is gone. -/
theorem passes_brackets {tracker inner : Tracker} {brace : Bool}
    (passes : (tracker.step (.punctuator '[')).Passes inner brace) :
    tracker.Passes (inner.step (.punctuator ']')) brace := by
  obtain ⟨_, previous, inDirective, rfl⟩ := passes
  refine ⟨by simp [Calm, step], some (.punctuator ']'), inDirective, ?_⟩
  cases brace <;> rfl

theorem passes_parentheses {tracker inner : Tracker} {brace : Bool}
    (passes : (tracker.step (.punctuator '(')).Passes inner brace) :
    tracker.Passes (inner.step (.punctuator ')')) brace := by
  obtain ⟨_, previous, inDirective, rfl⟩ := passes
  refine ⟨by simp [Calm, step], some (.punctuator ')'), false, ?_⟩
  cases brace <;> rfl

/-- Whatever an object holds, its closing brace is forgotten with. -/
theorem passes_object {tracker inner : Tracker} {brace : Bool} (inside : tracker.InValue)
    (passes : (tracker.step (.punctuator '{')).Passes inner brace) :
    tracker.Passes (inner.step (.punctuator '}')) true := by
  have opened : tracker.step (.punctuator '{') =
      { tracker with
        frames := .value :: tracker.frames, expectsType := false, inDirective := false
        previous := some (.punctuator '{') } := by
    simp [step, readPunctuator, openBrace, inside.frames_ne_nil, inside.not_inSelection]
  obtain ⟨_, previous, inDirective, rfl⟩ := passes
  refine ⟨by simp [Calm, step], some (.punctuator '}'), false, ?_⟩
  rw [opened]
  cases brace <;> rfl

theorem inValue_of_bracket (tracker : Tracker) :
    (tracker.step (.punctuator '[')).InValue ∧ (tracker.step (.punctuator '[')).Calm :=
  ⟨⟨.value, tracker.frames, rfl, by simp⟩, by simp [Calm, step]⟩

theorem inValue_of_parenthesis (tracker : Tracker) :
    (tracker.step (.punctuator '(')).InValue ∧ (tracker.step (.punctuator '(')).Calm :=
  ⟨⟨_, tracker.frames, rfl, by simp⟩, by simp [Calm, step]⟩

private theorem inValue_of_brace {tracker : Tracker} (inside : tracker.InValue) :
    (tracker.step (.punctuator '{')).InValue ∧ (tracker.step (.punctuator '{')).Calm := by
  refine ⟨⟨.value, tracker.frames, ?_, by simp⟩, by simp [Calm, step]⟩
  simp [step, readPunctuator, openBrace, inside.frames_ne_nil, inside.not_inSelection]

private theorem passes_exponent {tracker : Tracker} (inside : tracker.InValue)
    (calm : tracker.Calm) (number : Number) :
    tracker.Passes ((Lexer.numberTokens number).foldl step tracker) false := by
  rw [Lexer.numberTokens]
  cases number.exponent with
  | none => exact .of_calm calm
  | some exponent => exact passes_name inside calm _

theorem passes_parameter {tracker : Tracker} (inside : tracker.InValue)
    (calm : tracker.Calm) (gap : Gap) (name : Name) :
    tracker.Passes (tracker.reads [.dollar gap name]) false := by
  cases gap with
  | nil => exact .of_calm calm
  | cons piece rest => exact passes_name inside calm name.text

mutual

/-- A value passes. Only an object in it closes a brace. -/
theorem passes_value {tracker : Tracker} (inside : tracker.InValue) (calm : tracker.Calm) :
    ∀ value : Value, tracker.Passes (tracker.reads value.lexemes) value.hasObject
  | .parameter gap name => passes_parameter inside calm gap name
  | .number number => by
    rw [Value.lexemes, reads_cons]
    exact passes_exponent inside calm number
  | .string pieces => .of_calm calm
  | .block content isContent => .of_calm calm
  | .word name => passes_name inside calm name.text
  | .list items => by
    have opened := inValue_of_bracket tracker
    rw [Value.lexemes, Value.hasObject, List.cons_append, reads_cons, reads_append]
    exact passes_brackets (passes_items opened.1 opened.2 items)
  | .object fields => by
    have opened := inValue_of_brace inside
    obtain ⟨brace, passes⟩ := passes_fields opened.1 opened.2 fields
    rw [Value.lexemes, Value.hasObject, List.cons_append, reads_cons, reads_append]
    exact passes_object inside passes

theorem passes_items {tracker : Tracker} (inside : tracker.InValue) (calm : tracker.Calm) :
    ∀ items : List Value,
      tracker.Passes (tracker.reads (Value.itemLexemes items)) (Value.itemsHaveObject items)
  | [] => .of_calm calm
  | item :: rest => by
    have first := passes_value inside calm item
    rw [Value.itemLexemes, Value.itemsHaveObject, reads_append]
    exact first.trans (passes_items (inside.of_passes first) first.1 rest)

/-- The fields of an object pass; whether they close braces does not matter any more. -/
theorem passes_fields {tracker : Tracker} (inside : tracker.InValue) (calm : tracker.Calm) :
    ∀ fields : List (Name × Value),
      ∃ brace, tracker.Passes (tracker.reads (Value.fieldLexemes fields)) brace
  | [] => ⟨false, .of_calm calm⟩
  | (name, value) :: rest => by
    have named := (passes_name inside calm name.text).trans (passes_colon _)
    have valued := named.trans (passes_value (inside.of_passes named) named.1 value)
    obtain ⟨brace, others⟩ := passes_fields (inside.of_passes valued) valued.1 rest
    rw [Value.fieldLexemes, List.cons_append, List.cons_append, reads_cons, reads_cons,
      reads_append]
    exact ⟨_, valued.trans others⟩

end

/-! ## Arguments and directives -/

theorem passes_argument {tracker : Tracker} (inside : tracker.InValue) (calm : tracker.Calm)
    (argument : Argument) :
    tracker.Passes (tracker.reads argument.lexemes) argument.value.hasObject := by
  have named := (passes_name inside calm argument.name.text).trans (passes_colon _)
  rw [Argument.lexemes, reads_cons, reads_cons]
  exact named.trans (passes_value (inside.of_passes named) named.1 argument.value)

/-- Parts that pass one by one pass in a row. -/
theorem passes_all {Part : Type} {lexemes : Part → List Lexeme} {brace : Part → Bool}
    (each : ∀ {tracker : Tracker}, tracker.InValue → tracker.Calm → ∀ part,
      tracker.Passes (tracker.reads (lexemes part)) (brace part))
    {tracker : Tracker} (inside : tracker.InValue) (calm : tracker.Calm) (parts : List Part) :
    tracker.Passes (tracker.reads (parts.flatMap lexemes)) (parts.any brace) := by
  induction parts generalizing tracker with
  | nil => exact .of_calm calm
  | cons part rest ih =>
    have first := each inside calm part
    rw [List.flatMap_cons, List.any_cons, reads_append]
    exact first.trans (ih (inside.of_passes first) first.1)

/-- Arguments of whatever owner pass. -/
theorem passes_arguments {tracker : Tracker} (calm : tracker.Calm) (arguments : Arguments) :
    tracker.Passes (tracker.reads arguments.lexemes) arguments.hasObject := by
  cases arguments with
  | nil => exact .of_calm calm
  | cons argument rest =>
    have opened := inValue_of_parenthesis tracker
    have passed := passes_all passes_argument opened.1 opened.2 (argument :: rest)
    rw [Arguments.lexemes, if_neg (by simp), List.cons_append, reads_cons, reads_append]
    exact passes_parentheses passed

theorem passes_directive (tracker : Tracker) (directive : Directive) :
    tracker.Passes (tracker.reads directive.lexemes) directive.arguments.hasObject := by
  obtain ⟨name, arguments⟩ := directive
  rw [Directive.lexemes, reads_cons, reads_cons]
  have named : tracker.Passes (((Lexeme.sign .atSign).tokens ++ (Lexeme.name name).tokens).foldl
      step tracker) false :=
    ⟨by simp [Calm, step, Lexeme.tokens], some (.name name.text), true, rfl⟩
  rw [List.foldl_append] at named
  exact named.trans (passes_arguments named.1 arguments)

/-- Directives pass. Behind the first of them the tracker is calm in any case. -/
theorem passes_directives {tracker : Tracker} (calm : tracker.Calm) (directives : Directives) :
    tracker.Passes (tracker.reads directives.lexemes) directives.hasObject := by
  induction directives generalizing tracker with
  | nil => exact .of_calm calm
  | cons directive rest ih =>
    have first := passes_directive tracker directive
    rw [Directives.lexemes, List.flatMap_cons, Directives.hasObject, List.any_cons, reads_append]
    exact first.trans (ih first.1)

/-! ## Selections -/

/-- What a tracker knows at a place of a selection set: the open brackets, and the field or
type condition that a brace would belong to. -/
structure At (tracker : Tracker) (frames : List Frame) (field typeCondition : Option String) :
    Prop where
  frames : tracker.frames = frames
  field : tracker.field = field
  typeCondition : tracker.typeCondition = typeCondition
  operation : tracker.operation = none
  fragmentType : tracker.fragmentType = none
  expectsType : tracker.expectsType = false

/-- The bracket of a selection set with the field that may be remembered in it. A set that
is taken for a value remembers none. -/
inductive Remembers : Frame → Option String → Prop where
  | selection (step : Step) (field : Option String) : Remembers (.selection step) field
  | value : Remembers .value none

/-- The tracker stands between two selections of a set and remembers that field. -/
structure Inside (tracker : Tracker) (frame : Frame) (outer : List Frame)
    (field : Option String) : Prop where
  remembers : Remembers frame field
  known : tracker.At (frame :: outer) field none
  calm : tracker.Calm

variable {tracker after : Tracker} {frames outer : List Frame} {frame : Frame} {owner : Step}
  {field typeCondition : Option String}

theorem Passes.at {brace : Bool} (passes : tracker.Passes after brace)
    (known : tracker.At frames field typeCondition) :
    after.At frames (if brace then none else field) (if brace then none else typeCondition) := by
  obtain ⟨_, previous, inDirective, rfl⟩ := passes
  cases brace
  · exact ⟨known.frames, known.field, known.typeCondition, known.operation, known.fragmentType,
      known.expectsType⟩
  · exact ⟨known.frames, rfl, rfl, known.operation, known.fragmentType, rfl⟩

theorem At.spread (known : tracker.At frames field typeCondition) :
    (tracker.step .spread).At frames field typeCondition :=
  ⟨known.frames, known.field, known.typeCondition, known.operation, known.fragmentType,
    known.expectsType⟩

/-- Directives keep what is known, whatever stands in front of them. -/
theorem At.directives (known : tracker.At frames field typeCondition) (directives : Directives) :
    (tracker.reads directives.lexemes).At frames (if directives.hasObject then none else field)
      (if directives.hasObject then none else typeCondition) := by
  cases directives with
  | nil => exact known
  | cons directive rest =>
    have first := passes_directive tracker directive
    have all := first.trans (passes_directives first.1 rest)
    rw [Directives.lexemes, List.flatMap_cons, reads_append]
    exact all.at known

theorem At.inValue (known : tracker.At (.value :: outer) field typeCondition) :
    tracker.InValue :=
  ⟨.value, outer, known.frames, by simp⟩

/-- A closing brace leads back to the brackets around it. -/
theorem At.closeBrace (known : tracker.At (frame :: outer) field typeCondition) :
    (tracker.step (.punctuator '}')).At outer none none ∧
      (tracker.step (.punctuator '}')).Calm := by
  refine ⟨⟨?_, rfl, rfl, known.operation, known.fragmentType, rfl⟩, by simp [Calm, step]⟩
  simp [step, readPunctuator, Tracker.closeBrace, known.frames]

section InSelection

variable (known : tracker.At (.selection owner :: outer) field typeCondition) (calm : tracker.Calm)
include known

private theorem inSelection_eq_true : tracker.inSelection = true := by
  simp [inSelection, known.frames]

include calm

/-- A name in a selection set is that of a field. -/
theorem At.fieldName (word : String) :
    (tracker.step (.name word)).At (.selection owner :: outer) (some word) none ∧
      (tracker.step (.name word)).Calm ∧ (tracker.step (.name word)).inDirective = false := by
  have read : tracker.readName word =
      { tracker with field := some word, typeCondition := none, inDirective := false } := by
    simp [readName, selectionName, calm.1, calm.2, known.frames, inSelection_eq_true known,
      known.expectsType]
  refine ⟨⟨?_, ?_, ?_, ?_, ?_, ?_⟩, by simp [Calm, step], by simp [step, read]⟩ <;>
    simp [step, read, known.frames, known.operation, known.fragmentType, known.expectsType]

/-- The name behind an alias is the one that counts. -/
theorem At.aliased (label : Option Name) (name : Name) :
    (tracker.reads (aliasedLexemes label name)).At (.selection owner :: outer)
        (some name.text) none ∧
      (tracker.reads (aliasedLexemes label name)).Calm ∧
      (tracker.reads (aliasedLexemes label name)).inDirective = false := by
  cases label with
  | none => exact known.fieldName calm name.text
  | some word =>
    have first := known.fieldName calm word.text
    have colon := (passes_colon _).at first.1
    exact colon.fieldName (passes_colon _).1 name.text

end InSelection

/-- The type behind a spread is that of the fragment. -/
theorem At.conditioned (known : tracker.At (.selection owner :: outer) field typeCondition)
    (type : Name) :
    (tracker.reads [.spread, .name onWord, .name type]).At (.selection owner :: outer) none
      (some type.text) := by
  have on : onWord.text = "on" := rfl
  have read : tracker.reads [.spread, .name onWord, .name type] =
      { tracker with
        field := none, typeCondition := some type.text, expectsType := false
        previous := some (.name type.text) } := by
    simp [reads, Lexeme.tokens, step, readName, selectionName, inSelection, known.frames, on]
  rw [read]
  exact ⟨known.frames, rfl, rfl, known.operation, known.fragmentType, rfl⟩

/-- What opens inside of a set where that step is found. Without one it is taken for a value,
and so is every set inside of such a one. -/
def opens (frame : Frame) (found : Option Step) : Frame :=
  match frame, found with
  | .selection _, some step => .selection step
  | _, _ => .value

/-- What is remembered of a field in a set. -/
def keeps (frame : Frame) (field : Option String) : Option String :=
  match frame with
  | .selection _ => field
  | _ => none

theorem Remembers.forget (remembers : Remembers frame field) : Remembers frame none := by
  cases remembers with
  | selection step => exact .selection step none
  | value => exact .value

/-- Inside of a set that is taken for a value, an alias and a name say nothing. -/
theorem passes_aliased {tracker : Tracker} (inside : tracker.InValue) (calm : tracker.Calm)
    (label : Option Name) (name : Name) :
    tracker.Passes (tracker.reads (aliasedLexemes label name)) false := by
  cases label with
  | none => exact passes_name inside calm name.text
  | some word =>
    have labelled := (passes_name inside calm word.text).trans (passes_colon _)
    exact labelled.trans (passes_name (inside.of_passes labelled) labelled.1 name.text)

/-- Nor does the head of a field. -/
private theorem passes_fieldHead {tracker : Tracker} (inside : tracker.InValue)
    (calm : tracker.Calm) (head : FieldHead) :
    ∃ brace, tracker.Passes (tracker.reads head.lexemes) brace := by
  have aliased := passes_aliased inside calm head.label head.name
  have argued := aliased.trans (passes_arguments aliased.1 head.arguments)
  rw [FieldHead.lexemes, reads_append, reads_append]
  exact ⟨_, argued.trans (passes_directives argued.1 head.directives)⟩

/-- The same for a spread with the names behind it. -/
private theorem At.spread_inValue (known : tracker.At (.value :: outer) field typeCondition)
    (condition : Option Name) :
    (tracker.reads (.spread :: condition.elim [] fun type => [.name onWord, .name type])).At
      (.value :: outer) field typeCondition := by
  cases condition with
  | none => exact known.spread
  | some type =>
    have read : tracker.reads [.spread, .name onWord, .name type] =
        { tracker with previous := some (.name type.text) } := by
      simp [reads, Lexeme.tokens, step, readName, inSelection, known.frames]
    exact read ▸ ⟨known.frames, known.field, known.typeCondition, known.operation,
      known.fragmentType, known.expectsType⟩

/-- What a brace in a selection set belongs to. -/
def frameOf (field typeCondition : Option String) : Frame :=
  match typeCondition, field with
  | some type, _ => .selection (.typeCondition type)
  | none, some name => .selection (.field name)
  | none, none => .value

/-- A brace in a selection set opens what was known in front of it. -/
private theorem At.openBrace_inSelection
    (known : tracker.At (.selection owner :: outer) field typeCondition) :
    (tracker.step (.punctuator '{')).Inside (frameOf field typeCondition)
      (.selection owner :: outer) none := by
  have same : tracker.selectionFrame = frameOf tracker.field tracker.typeCondition := rfl
  have opened : tracker.step (.punctuator '{') =
      { tracker with
        frames := frameOf tracker.field tracker.typeCondition :: tracker.frames, field := none
        typeCondition := none, expectsType := false, inDirective := false
        previous := some (.punctuator '{') } := by
    simp [step, readPunctuator, openBrace, inSelection, known.frames, same]
  have remembers : Remembers (frameOf field typeCondition) none := by
    rcases typeCondition with _ | type
    · rcases field with _ | name
      · exact .value
      · exact .selection _ _
    · exact .selection _ _
  refine ⟨remembers, ?_, by simp [Calm, step]⟩
  rw [opened, known.frames, known.field, known.typeCondition]
  exact ⟨rfl, rfl, rfl, known.operation, known.fragmentType, rfl⟩

private theorem At.openBrace_inValue (known : tracker.At (.value :: outer) none none) :
    (tracker.step (.punctuator '{')).Inside .value (.value :: outer) none := by
  have opened : tracker.step (.punctuator '{') =
      { tracker with
        frames := .value :: tracker.frames, expectsType := false, inDirective := false
        previous := some (.punctuator '{') } := by
    simp [step, readPunctuator, openBrace, inSelection, known.frames]
  refine ⟨.value, ?_, by simp [Calm, step]⟩
  rw [opened, known.frames]
  exact ⟨rfl, known.field, known.typeCondition, known.operation, known.fragmentType, rfl⟩

/-- Behind a header in a selection set, the tracker knows of it what is found at its brace. -/
private theorem Inside.headed (inside : tracker.Inside (.selection owner) outer field)
    (header : Header) :
    ∃ next condition,
      (tracker.reads header.lexemes).At (.selection owner :: outer) next condition ∧
      frameOf next condition = opens (.selection owner) (header.found? field) := by
  obtain ⟨_, known, calm⟩ := inside
  cases header with
  | field head =>
    obtain ⟨named, calmNamed, _⟩ := known.aliased calm head.label head.name
    have argued := passes_arguments calmNamed head.arguments
    have headed := (argued.trans (passes_directives argued.1 head.directives)).at named
    rw [Header.lexemes, FieldHead.lexemes, reads_append, reads_append]
    refine ⟨_, _, headed, ?_⟩
    rw [Header.found?, Header.hasObject]
    split <;> rfl
  | fragment condition directives =>
    rw [Header.lexemes, reads_append, Header.found?, Header.hasObject]
    cases condition with
    | none =>
      refine ⟨_, _, known.spread.directives directives, ?_⟩
      cases directives.hasObject <;> cases field <;> rfl
    | some type =>
      refine ⟨_, _, (known.conditioned type).directives directives, ?_⟩
      split <;> rfl

/-- Behind one in a set that is taken for a value, it knows nothing. -/
private theorem Inside.headed_inValue (inside : tracker.Inside .value outer field)
    (header : Header) : (tracker.reads header.lexemes).At (.value :: outer) none none := by
  obtain ⟨remembers, known, calm⟩ := inside
  cases remembers
  cases header with
  | field head =>
    obtain ⟨brace, passes⟩ := passes_fieldHead known.inValue calm head
    rw [Header.lexemes]
    simpa using passes.at known
  | fragment condition directives =>
    have spread := known.spread_inValue condition
    rw [Header.lexemes, reads_append]
    simpa using spread.directives directives

/-- A header with its brace opens one more bracket. -/
theorem Inside.header (inside : tracker.Inside frame outer field) (header : Header) :
    (tracker.reads (header.lexemes ++ [.sign .openBrace])).Inside
      (opens frame (header.found? field)) (frame :: outer) none := by
  rw [reads_append]
  cases inside.remembers with
  | value => exact (inside.headed_inValue header).openBrace_inValue
  | selection owner =>
    obtain ⟨_, _, known, same⟩ := inside.headed header
    exact same ▸ known.openBrace_inSelection

/-- A complete field is remembered in its set. -/
private theorem Inside.leaf (inside : tracker.Inside frame outer field) (head : FieldHead) :
    (tracker.reads head.lexemes).Inside frame outer
      (keeps frame (Selection.leaf head).remembered?) := by
  obtain ⟨remembers, known, calm⟩ := inside
  cases remembers with
  | value =>
    obtain ⟨brace, passes⟩ := passes_fieldHead known.inValue calm head
    exact ⟨.value, by simpa [keeps] using passes.at known, passes.1⟩
  | selection owner =>
    obtain ⟨named, calmNamed, _⟩ := known.aliased calm head.label head.name
    have argued := passes_arguments calmNamed head.arguments
    have headed := argued.trans (passes_directives argued.1 head.directives)
    rw [FieldHead.lexemes, reads_append, reads_append]
    refine ⟨.selection _ _, ?_, headed.1⟩
    simpa [keeps, Selection.remembered?, FieldHead.hasObject] using headed.at named

/-- The name behind a spread selects no field. -/
private theorem Inside.spread (inside : tracker.Inside frame outer field) (name : FragmentName)
    (directives : Directives) :
    (tracker.reads (.spread :: .name name.name :: directives.lexemes)).Inside frame outer none := by
  obtain ⟨remembers, known, calm⟩ := inside
  obtain ⟨name, notOn⟩ := name
  have other : name.text ≠ "on" := notOn
  change (tracker.reads ([.spread, .name name] ++ directives.lexemes)).Inside frame outer none
  rw [reads_append]
  cases remembers with
  | value =>
    have read : tracker.reads [.spread, .name name] =
        { tracker with previous := some (.name name.text) } := by
      simp [reads, Lexeme.tokens, step, readName, inSelection, known.frames]
    have spread : (tracker.reads [.spread, .name name]).At (.value :: outer) none none :=
      read ▸ ⟨known.frames, known.field, known.typeCondition, known.operation,
        known.fragmentType, known.expectsType⟩
    have calmed : (tracker.reads [.spread, .name name]).Calm := by simp [read, Calm]
    have passes := passes_directives calmed directives
    exact ⟨.value, by simpa using passes.at spread, passes.1⟩
  | selection owner =>
    have read : tracker.reads [.spread, .name name] =
        { tracker with
          field := none, typeCondition := none, previous := some (.name name.text) } := by
      simp [reads, Lexeme.tokens, step, readName, selectionName, inSelection, known.frames, other]
    have spread : (tracker.reads [.spread, .name name]).At (.selection owner :: outer) none none :=
      read ▸ ⟨known.frames, rfl, rfl, known.operation, known.fragmentType, known.expectsType⟩
    have calmed : (tracker.reads [.spread, .name name]).Calm := by simp [read, Calm]
    have passes := passes_directives calmed directives
    exact ⟨.selection _ _, by simpa using passes.at spread, passes.1⟩

/-- The closing brace of a set leads back into the set around it, where nothing is remembered. -/
theorem Inside.close {opened : Frame} {last : Option String} (around : Remembers frame field)
    (inside : tracker.Inside opened (frame :: outer) last) :
    (tracker.reads [.sign .closeBrace]).Inside frame outer none :=
  ⟨around.forget, inside.known.closeBrace.1, inside.known.closeBrace.2⟩

mutual

/-- A complete selection leaves the tracker in its set. -/
theorem Inside.selection {tracker : Tracker} {frame : Frame} {outer : List Frame}
    {field : Option String} (inside : tracker.Inside frame outer field) :
    ∀ selection : Selection,
      (tracker.reads selection.lexemes).Inside frame outer (keeps frame selection.remembered?)
  | .leaf head => inside.leaf head
  | .spread fragment directives => by
    have spread := inside.spread fragment directives
    cases frame <;> exact spread
  | .nested header set => by
    have closed := ((inside.header header).selections set).close inside.remembers
    have same : keeps frame (Selection.nested header set).remembered? = none := by
      cases frame <;> rfl
    rw [same]
    simpa [Selection.lexemes, reads_append, reads_cons] using closed

/-- So do selections in a row. The last of them is the one that counts. -/
theorem Inside.selections {tracker : Tracker} {frame : Frame} {outer : List Frame}
    {field : Option String} (inside : tracker.Inside frame outer field) :
    ∀ set : List Selection,
      (tracker.reads (Selection.setLexemes set)).Inside frame outer
        ((set.getLast?.map fun selection => keeps frame selection.remembered?).getD field)
  | [] => inside
  | selection :: rest => by
    have others := (inside.selection selection).selections rest
    rw [Selection.setLexemes, reads_append, List.getLast?_cons]
    simpa [Option.getD_map] using others

end

/-- The selections of a level and its header with the brace. -/
theorem Inside.level (inside : tracker.Inside frame outer none) (level : Level) :
    (tracker.reads level.lexemes).Inside (opens frame level.found?) (frame :: outer) none := by
  have headed := (inside.selections level.before).header level.header
  rw [Level.lexemes, List.append_assoc, reads_append]
  cases frame with
  | selection owner =>
    have same : ((level.before.getLast?.map fun selection =>
        keeps (.selection owner) selection.remembered?).getD none) =
        level.before.getLast?.bind Selection.remembered? := by
      cases level.before.getLast? <;> rfl
    rwa [same] at headed
  | arguments owner | value => exact headed

end Tracker
end SchemaGuide.Query
