import SchemaGuide.Proofs.Query.SelectionPath

/-! Documents that are cut off at any place of a selection set or of the arguments of a field.
The selection at that place need not be complete, fragments may go without a condition, and the
text may end within a comment. What is asked for there only depends on the open brackets, so
an unfinished selection changes nothing, and the path is that of the steps that are found at
the braces of the levels. -/
namespace SchemaGuide.Query

/-! ## Places in a document -/

/-- The start of a selection, as far as it is not a complete one itself. -/
inductive Unfinished where
  /-- An alias with its colon. -/
  | label (name : Name)
  /-- A fragment in place with the word in front of its condition. -/
  | on
  /-- What stands in front of the selections of a fragment in place. -/
  | fragment (condition : Option Name) (directives : Directives)
  /-- The sign of a directive, behind a complete selection or the front of a fragment. -/
  | directive (front : Option (Option Name × Directives))

/-- The lexemes of the start of a selection. -/
def Unfinished.lexemes : Unfinished → List Lexeme
  | .label name => [.name name, .sign .colon]
  | .on => [.spread, .name onWord]
  | .fragment condition directives => (Header.fragment condition directives).lexemes
  | .directive front =>
    (front.elim [] fun (condition, directives) =>
      (Header.fragment condition directives).lexemes) ++ [.sign .atSign]

/-- Where in the innermost selection set a document is cut off. -/
inductive Ending where
  /-- Between two selections, or behind the start of one. -/
  | selection (start : Option Unfinished)
  /-- In the arguments of a field. -/
  | arguments (list : OpenArguments)

namespace Ending

/-- The lexemes behind the complete selections. -/
def lexemes : Ending → List Lexeme
  | .selection start => start.elim [] Unfinished.lexemes
  | .arguments list => list.lexemes

/-- What is asked for there, on a path. -/
def context (path : List Step) : Ending → Context
  | .selection _ => .selection path
  | .arguments list => .arguments path list.field.text

end Ending

/-- A document up to a place. -/
structure Draft where
  /-- The complete definitions. -/
  before : List QueryDefinition
  header : DefinitionHeader
  /-- The open selection sets that hold another one, the outermost first. -/
  levels : List Level
  /-- The complete selections of the innermost set. -/
  last : List Selection
  ending : Ending

namespace Draft

/-- The lexemes of a draft. -/
def lexemes (draft : Draft) : List Lexeme :=
  draft.before.flatMap QueryDefinition.lexemes ++ draft.header.lexemes ++
    .sign .openBrace :: draft.levels.flatMap Level.lexemes ++
    Selection.setLexemes draft.last ++ draft.ending.lexemes

/-- The text up to a byte is written as the draft says, and its strings are read to their end. -/
structure ReachesTo (draft : Draft) (text : String) (offset : Nat) : Prop where
  spells : SpellsUpTo (Text.upToByte offset text.toList) draft.lexemes
  through : ∀ lexeme ∈ draft.lexemes, lexeme.IsReadThrough

end Draft

namespace Tracker

variable {tracker other : Tracker}

/-! ## The start of a selection -/

theorem readName_frames (tracker : Tracker) (word : String) :
    (tracker.readName word).frames = tracker.frames := by
  unfold readName
  split
  · rfl
  · split
    · exact (definitionName_keeps tracker word).1
    · split
      · unfold selectionName
        repeat' split
        all_goals rfl
      · rfl

theorem directives_frames (tracker : Tracker) (directives : Directives) :
    (tracker.reads directives.lexemes).frames = tracker.frames := by
  cases directives with
  | nil => rfl
  | cons directive rest =>
    have first := passes_directive tracker directive
    have all := first.trans (passes_directives first.1 rest)
    rw [Directives.lexemes, List.flatMap_cons, reads_append]
    exact all.frames

private theorem fragment_frames (tracker : Tracker) (condition : Option Name)
    (directives : Directives) :
    (tracker.reads (Header.fragment condition directives).lexemes).frames = tracker.frames := by
  rw [Header.lexemes, reads_append, directives_frames]
  cases condition with
  | none => rfl
  | some type => exact (readName_frames _ _).trans (readName_frames _ _)

/-- The start of a selection opens and closes no bracket. -/
theorem unfinished_frames (tracker : Tracker) (start : Unfinished) :
    (tracker.reads start.lexemes).frames = tracker.frames := by
  cases start with
  | label name => exact readName_frames tracker name.text
  | on => exact readName_frames (tracker.step .spread) onWord.text
  | fragment condition directives => exact fragment_frames tracker condition directives
  | directive front =>
    cases front with
    | none => rfl
    | some front =>
      rw [Unfinished.lexemes, reads_append]
      exact fragment_frames tracker front.1 front.2

theorem context_of_frames (same : tracker.frames = other.frames) :
    tracker.context? = other.context? := by
  unfold context?
  rw [same]

/-! ## Contexts -/

/-- The context behind the lexemes of a draft is on the path of the steps that are found, if one
is at every level. -/
theorem Outside.draft_context (outside : tracker.Outside) (draft : Draft) :
    (tracker.reads draft.lexemes).context? =
      (draft.levels.mapM Level.found?).map fun steps =>
        draft.ending.context (draft.header.found :: steps) := by
  obtain ⟨before, header, levels, last, ending⟩ := draft
  cases ending with
  | arguments list =>
    exact outside.found_context ⟨before, header, levels, last, some list⟩
  | selection start =>
    have complete := outside.found_context ⟨before, header, levels, last, none⟩
    cases start with
    | none => exact complete
    | some start =>
      have split : (Draft.lexemes ⟨before, header, levels, last, .selection (some start)⟩) =
          OpenDocument.lexemes ⟨before, header, levels, last, none⟩ ++ start.lexemes := by
        simp [Draft.lexemes, OpenDocument.lexemes, Ending.lexemes]
      rw [split, reads_append, context_of_frames (unfinished_frames _ start), complete]
      rfl

end Tracker

/-- **What is asked for in a draft.** At the end of a draft, the context is on the path of the
steps that are found at the braces of its levels; where none is found at one of them, nothing
is asked for. -/
theorem context_of_draft {draft : Draft} {text : String} {offset : Nat}
    (reaches : draft.ReachesTo text offset) :
    contextAt? text offset = (draft.levels.mapM Level.found?).map fun steps =>
      draft.ending.context (draft.header.found :: steps) := by
  have outside : Tracker.initial.Outside :=
    ⟨⟨rfl, rfl, rfl, rfl, rfl, rfl⟩, by simp [Tracker.Calm, Tracker.initial]⟩
  rw [← outside.draft_context draft, contextAt?, contextAfter?,
    tokens_of_spellsUpTo reaches.spells reaches.through, Tracker.reads]

end SchemaGuide.Query
