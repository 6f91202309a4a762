import SchemaGuide.Query.Context

/-! Brackets of any text. A text that is being typed closes brackets that it never opened and
leaves others open, and what it closes need not be of the kind that is open. However that
goes, the open selection sets stay outside of all other brackets: a set is opened only
directly in a set or outside of everything, and a closing sign takes the innermost bracket
away, whatever it is. So a path never starts at a field and never meets an operation on its
way, and an argument list that belongs to a field stands in a set. -/
namespace SchemaGuide.Query

/-- Where a path can start: at an operation, or at a fragment. -/
def Step.IsOutermost : Step → Prop
  | .operation keyword => keyword ∈ ["query", "mutation", "subscription"]
  | .typeCondition _ => True
  | .field _ => False

/-- How a path can go on: into a field, or into a fragment. -/
def Step.IsInner : Step → Prop
  | .operation _ => False
  | .typeCondition _ | .field _ => True

/-- A path with a start, each step behind it one inwards. -/
def IsRooted : List Step → Prop
  | [] => False
  | first :: inner => first.IsOutermost ∧ ∀ step ∈ inner, step.IsInner

/-- The selection sets around what is asked for. -/
def Context.path : Context → List Step
  | .selection path | .arguments path _ => path

/-- The brackets that are open, innermost first, are selection sets that make a path, if any,
and inside of them brackets of arguments and values. -/
def SetsOutside (frames : List Frame) : Prop :=
  ∃ steps values, frames.reverse = steps.map .selection ++ values ∧
    (steps = [] ∨ IsRooted steps) ∧ ∀ frame ∈ values, ∀ step, frame ≠ .selection step

/-- Brackets that may be open behind some tokens. -/
structure WellNested (frames : List Frame) : Prop where
  sets : SetsOutside frames
  /-- The arguments of a field stand directly in a selection set. -/
  owned : ∀ inner field outer, frames = inner ++ .arguments (some field) :: outer →
    ∃ step rest, outer = .selection step :: rest

namespace Tracker

/-! ## How brackets are opened and closed -/

/-- Open brackets as they come about, one inside the other. -/
inductive Nested : List Frame → Prop where
  | nil : Nested []
  | outermost {step : Step} (starts : step.IsOutermost) : Nested [.selection step]
  | set {step last : Step} {rest : List Frame} (inner : step.IsInner)
    (outer : Nested (.selection last :: rest)) : Nested (.selection step :: .selection last :: rest)
  | owned {field : String} {last : Step} {rest : List Frame}
    (outer : Nested (.selection last :: rest)) :
    Nested (.arguments (some field) :: .selection last :: rest)
  | unowned {rest : List Frame} (outer : Nested rest) : Nested (.arguments none :: rest)
  | value {rest : List Frame} (outer : Nested rest) : Nested (.value :: rest)

namespace Nested

variable {frames : List Frame}

/-- Without the innermost bracket the others are as they were. -/
theorem tail (nested : Nested frames) : Nested frames.tail := by
  cases nested with
  | nil | outermost starts => exact .nil
  | set inner outer | owned outer | unowned outer | value outer => exact outer

/-- Around a selection set there are only sets, and the steps to them make a path. -/
theorem rooted {step : Step} {outer : List Frame} (nested : Nested (.selection step :: outer)) :
    ∃ steps, outer.reverse = steps.map .selection ∧ path? outer = some steps ∧
      IsRooted (steps ++ [step]) := by
  induction outer generalizing step with
  | nil =>
    cases nested with
    | outermost starts => exact ⟨[], rfl, rfl, starts, by simp⟩
  | cons frame rest ih =>
    cases nested with
    | @set _ last _ inner outer =>
      obtain ⟨steps, sets, path, rooted⟩ := ih outer
      refine ⟨steps ++ [last], by simp [sets], by simp [path?, path], ?_⟩
      cases steps with
      | nil => exact ⟨rooted.1, by simpa using inner⟩
      | cons first others =>
        refine ⟨rooted.1, fun step member => ?_⟩
        rcases List.mem_append.mp member with earlier | new
        · exact rooted.2 step earlier
        · obtain rfl := List.mem_singleton.mp new
          exact inner

/-- A bracket of another kind inside of all others leaves the sets outside. -/
private theorem setsOutside_cons {frame : Frame} (isValue : ∀ step, frame ≠ .selection step)
    (sets : SetsOutside frames) : SetsOutside (frame :: frames) := by
  obtain ⟨steps, values, runs, path, others⟩ := sets
  refine ⟨steps, values ++ [frame], by simp [runs], path, fun other member => ?_⟩
  rcases List.mem_append.mp member with earlier | new
  · exact others other earlier
  · obtain rfl := List.mem_singleton.mp new
    exact isValue

theorem setsOutside (nested : Nested frames) : SetsOutside frames := by
  have onlySets {step : Step} {outer : List Frame} (nested : Nested (.selection step :: outer)) :
      SetsOutside (.selection step :: outer) := by
    obtain ⟨steps, sets, _, rooted⟩ := nested.rooted
    exact ⟨steps ++ [step], [], by simp [sets], .inr rooted, by simp⟩
  induction nested with
  | nil => exact ⟨[], [], rfl, .inl rfl, by simp⟩
  | outermost starts => exact onlySets (.outermost starts)
  | set inner outer => exact onlySets (.set inner outer)
  | owned _ ih | unowned _ ih | value _ ih => exact setsOutside_cons (by simp) ih

theorem wellNested (nested : Nested frames) : WellNested frames := by
  refine ⟨nested.setsOutside, fun inner field outer split => ?_⟩
  induction inner generalizing frames with
  | nil =>
    subst split
    cases nested with
    | owned outer => exact ⟨_, _, rfl⟩
  | cons frame inner ih => exact ih nested.tail (by rw [split]; rfl)

end Nested

/-! ## Trackers -/

/-- What holds of a tracker behind any tokens. -/
structure Sound (tracker : Tracker) : Prop where
  nested : Nested tracker.frames
  /-- Only the keyword of an operation is remembered as one. -/
  operation : ∀ keyword ∈ tracker.operation, keyword ∈ ["query", "mutation", "subscription"]

namespace Sound

variable {tracker : Tracker}

theorem initial : Sound initial := ⟨.nil, by simp [Tracker.initial]⟩

/-- Only the brackets and the remembered operation matter. -/
theorem congr {after : Tracker} (sound : tracker.Sound) (frames : after.frames = tracker.frames)
    (operation : after.operation = tracker.operation) : after.Sound :=
  ⟨frames ▸ sound.nested, operation ▸ sound.operation⟩

theorem definitionName (sound : tracker.Sound) (word : String) :
    (tracker.definitionName word).Sound := by
  unfold Tracker.definitionName
  split
  · rename_i keyword
    refine ⟨sound.nested, fun other member => ?_⟩
    obtain rfl := Option.some.inj member
    simpa [isOperation, or_assoc] using keyword
  · split
    · exact ⟨sound.nested, by simp⟩
    · split
      · exact sound.congr rfl rfl
      · split <;> exact sound.congr rfl rfl

theorem selectionName (sound : tracker.Sound) (word : String) :
    (tracker.selectionName word).Sound := by
  unfold Tracker.selectionName
  split
  · split <;> exact sound.congr rfl rfl
  · split <;> exact sound.congr rfl rfl

theorem name (sound : tracker.Sound) (word : String) : (tracker.readName word).Sound := by
  unfold readName
  split
  · exact sound.congr rfl rfl
  · split
    · exact sound.definitionName word
    · split
      · exact sound.selectionName word
      · exact sound

theorem definitionStep (sound : tracker.Sound) : tracker.definitionStep.IsOutermost := by
  unfold Tracker.definitionStep
  split
  · trivial
  · rename_i keyword _ known
    exact sound.operation keyword known
  · simp [Step.IsOutermost]

theorem openBrace (sound : tracker.Sound) : tracker.openBrace.Sound := by
  unfold Tracker.openBrace
  split
  · exact ⟨.outermost sound.definitionStep, by simp⟩
  · split
    · rename_i inside
      obtain ⟨step, outer, frames⟩ : ∃ step outer, tracker.frames = .selection step :: outer := by
        unfold inSelection at inside
        split at inside
        · exact ⟨_, _, ‹_›⟩
        · cases inside
      have nested := sound.nested
      rw [frames] at nested
      refine ⟨?_, sound.operation⟩
      change Nested (tracker.selectionFrame :: tracker.frames)
      rw [frames]
      unfold selectionFrame
      split
      · exact .set trivial nested
      · exact .set trivial nested
      · exact .value nested
    · exact ⟨.value sound.nested, sound.operation⟩

theorem openParenthesis (sound : tracker.Sound) : tracker.openParenthesis.Sound := by
  refine ⟨?_, sound.operation⟩
  change Nested (.arguments (if tracker.inSelection && !tracker.inDirective then tracker.field
    else none) :: tracker.frames)
  split
  · rename_i inside
    have nested := sound.nested
    cases tracker.field with
    | none => exact .unowned nested
    | some field =>
      unfold inSelection at inside
      cases frames : tracker.frames with
      | nil => simp [frames] at inside
      | cons frame rest =>
        rw [frames] at nested
        cases frame with
        | selection step => exact .owned nested
        | arguments owner | value => simp [frames] at inside
  · exact .unowned sound.nested

theorem punctuator (sound : tracker.Sound) (sign : Char) : (tracker.readPunctuator sign).Sound := by
  unfold readPunctuator
  split
  · exact sound.openBrace
  split
  · exact ⟨sound.nested.tail, sound.operation⟩
  split
  · exact sound.openParenthesis
  split
  · exact ⟨sound.nested.tail, sound.operation⟩
  split
  · exact ⟨.value sound.nested, sound.operation⟩
  split
  · exact ⟨sound.nested.tail, sound.operation⟩
  · exact sound

/-- Each token keeps it. -/
theorem step (sound : tracker.Sound) (token : Token) : (tracker.step token).Sound := by
  cases token with
  | name word => exact (sound.name word).congr rfl rfl
  | punctuator sign => exact (sound.punctuator sign).congr rfl rfl
  | spread => exact sound.congr rfl rfl

/-- It holds behind any tokens. -/
theorem reads (sound : tracker.Sound) (tokens : List Token) :
    (tokens.foldl Tracker.step tracker).Sound := by
  induction tokens generalizing tracker with
  | nil => exact sound
  | cons token rest ih => exact ih (sound.step token)

/-- What is asked for lies on a path. -/
theorem context {asked : Context} (sound : tracker.Sound) (found : tracker.context? = some asked) :
    IsRooted asked.path := by
  have nested := sound.nested
  unfold context? at found
  split at found
  · cases found
  · rename_i step outer frames
    rw [frames] at nested
    obtain ⟨steps, _, path, rooted⟩ := nested.rooted
    rw [path] at found
    cases found
    exact rooted
  · rename_i field outer frames
    rw [frames] at nested
    cases nested with
    | owned outer =>
      obtain ⟨steps, _, path, rooted⟩ := outer.rooted
      simp only [path?, path, Option.map_some] at found
      cases found
      exact rooted
  · cases found
  · cases found

end Sound
end Tracker

/-- **Contexts are well formed.** Behind any tokens, the open brackets are well nested, and at
any byte of any text, what is asked for lies on a path that starts at an operation or a
fragment and goes on through fields and fragments alone. -/
theorem contexts_are_rooted :
    (∀ read : List Token, WellNested (read.foldl Tracker.step .initial).frames) ∧
      ∀ (text : String) (offset : Nat) (context : Context),
        contextAt? text offset = some context → IsRooted context.path :=
  ⟨fun read => (Tracker.Sound.initial.reads read).nested.wellNested,
    fun text offset _ found =>
      (Tracker.Sound.initial.reads (tokens (Text.upToByte offset text.toList))).context found⟩

/-- A text whose brackets do not match. -/
private def unbalanced : String :=
  "] \x7d on T \x7b a(b: [) \x7d ) mutation \x7b c \x7b ) ... on U \x7b d(e: [1\x7d , "

/-- A text that closes what it never opened and closes brackets by others still asks for an
argument on a path. -/
theorem unbalanced_context_is_rooted :
    contextAt? unbalanced 60 = some (.arguments [.operation "mutation", .typeCondition "U"] "d") ∧
      IsRooted [.operation "mutation", .typeCondition "U"] := by
  have found : contextAt? unbalanced 60 =
      some (.arguments [.operation "mutation", .typeCondition "U"] "d") := by decide
  exact ⟨found, contexts_are_rooted.2 _ _ _ found⟩

end SchemaGuide.Query
