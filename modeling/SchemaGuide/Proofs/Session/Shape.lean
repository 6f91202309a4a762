import Mathlib.Data.List.Induction
import SchemaGuide.Proofs.Session.Following

/-! The shape of a session. Whatever a session went through, its history stands on the entry
for the whole schema, and each entry above was made for something that a reader opened in the
schema of then. Nothing is loaded beside errors, and searches are limited as the settings
say. So a step to a member is always answered with a panel about that member, and no panel is
about nothing. -/
namespace SchemaGuide

open Explorer

/-! ## Histories -/

namespace Explorer

/-- An entry for one of these definitions, up to its search term. -/
def Entry.IsMade (made : Definition → Prop) (entry : Entry) : Prop :=
  ∃ definition search, made definition ∧ entry = { Entry.ofDefinition definition with search }

/-- The entry for the whole schema, up to its search term. -/
def Entry.IsRoot (entry : Entry) : Prop :=
  ∃ search, entry = { Entry.root with search }

/-- A history on top of the entry for the whole schema, with an entry for one of these
definitions at each step above. -/
def History.Grounded (made : Definition → Prop) (history : History) : Prop :=
  ∃ lowest above, history.entries = lowest :: above ∧ lowest.IsRoot ∧
    ∀ entry ∈ above, entry.IsMade made

/-- The same of a current entry and the entries below, nearest first. -/
def Stands (made : Definition → Prop) : Entry → List Entry → Prop
  | lowest, [] => lowest.IsRoot
  | entry, next :: below => entry.IsMade made ∧ Stands made next below

variable {made later : Definition → Prop}

theorem Entry.IsMade.mono {entry : Entry} (kept : ∀ definition, made definition → later definition)
    (known : entry.IsMade made) : entry.IsMade later := by
  obtain ⟨definition, search, known, rfl⟩ := known
  exact ⟨definition, search, kept definition known, rfl⟩

theorem Stands.mono (kept : ∀ definition, made definition → later definition) {current : Entry}
    {below : List Entry} (stands : Stands made current below) : Stands later current below := by
  induction below generalizing current with
  | nil => exact stands
  | cons next rest ih => exact ⟨stands.1.mono kept, ih stands.2⟩

theorem Stands.grounded {history : History} (stands : Stands made history.current history.below) :
    history.Grounded made := by
  obtain ⟨current, below, revision⟩ := history
  change Stands made current below at stands
  change ∃ lowest above, below.reverse ++ [current] = lowest :: above ∧ _
  induction below generalizing current with
  | nil => exact ⟨current, [], rfl, stands, by simp⟩
  | cons next rest ih =>
    obtain ⟨lowest, above, entries, root, others⟩ := ih next stands.2
    refine ⟨lowest, above ++ [current], by simp [entries], root, fun entry member => ?_⟩
    rcases List.mem_append.1 member with earlier | new
    · exact others entry earlier
    · obtain rfl := List.mem_singleton.1 new
      exact stands.1

namespace History

variable {history : History}

theorem stands_initial : Stands made initial.current initial.below := ⟨none, rfl⟩

theorem stands_push (stands : Stands made history.current history.below) {definition : Definition}
    (known : made definition) :
    Stands made (history.push (.ofDefinition definition)).current
      (history.push (.ofDefinition definition)).below :=
  ⟨⟨definition, none, known, rfl⟩, stands⟩

theorem stands_pop (stands : Stands made history.current history.below) :
    Stands made history.pop.2.current history.pop.2.below := by
  obtain ⟨current, below, revision⟩ := history
  cases below with
  | nil => exact stands
  | cons next rest => exact stands.2

theorem stands_setSearch (stands : Stands made history.current history.below) (term : String) :
    Stands made (history.setSearch term).current (history.setSearch term).below := by
  obtain ⟨current, below, revision⟩ := history
  cases below with
  | nil =>
    obtain ⟨search, rfl⟩ := stands
    exact ⟨_, rfl⟩
  | cons next rest =>
    obtain ⟨⟨definition, search, known, rfl⟩, below⟩ := stands
    exact ⟨⟨definition, _, known, rfl⟩, below⟩

theorem stands_reset : Stands made history.reset.current history.reset.below := ⟨none, rfl⟩

/-- An action keeps it, if what is opened is among the definitions. -/
theorem stands_act {explorer acted : DocExplorer} {source : Source} {action : Action}
    (stands : Stands made explorer.history.current explorer.history.below)
    (opened : ∀ loaded ∈ source.schema?, ∀ definition, Opens loaded.value action definition →
      made definition)
    (done : explorer.act source action = (.ok (), acted)) :
    Stands made acted.history.current acted.history.below := by
  have moves := moves_of_act done
  generalize acted.history = after at moves ⊢
  cases moves with
  | kept => exact stands
  | reset => exact stands_reset
  | popped => exact stands_pop stands
  | searched term => exact stands_setSearch stands term
  | opened given opens => exact stands_push stands (opened _ given _ opens)

end History
end Explorer

/-! ## Runs -/

/-- The definition was opened in a run: an action was done that names it in the schema of
then. -/
def Run.Opened (options : LaunchOptions) (calls : List Call) (definition : Definition) : Prop :=
  ∃ earlier call later action schema panel, calls = earlier ++ call :: later ∧
    (Run.of options earlier).session.schema? = some schema ∧
    action.target? schema = some definition ∧
    (Run.of options earlier).session.explore action =
      (.ok panel, (Run.of options (earlier ++ [call])).session)

/-- How the parts of a session go together. -/
structure Session.Sound (session : Session) (made : Definition → Prop) : Prop where
  history : Stands made session.explorer.history.current session.explorer.history.below
  source : ∀ loaded, session.source.schema? = some loaded → session.source.errors = none
  limit : session.explorer.searchLimit = session.settings.searchLimit

namespace Session

variable {made later : Definition → Prop}

theorem sound_start (options : LaunchOptions) : (start options).Sound made :=
  ⟨History.stands_initial, fun _ given => (nomatch given), rfl⟩

/-- A change keeps it, if all that was made stays and what is opened is made. -/
theorem Sound.change {before after : Session} {panel : Option Panel} (sound : before.Sound made)
    (change : before.Change after panel) (kept : ∀ definition, made definition → later definition)
    (opened : ∀ action, before.explore action = (.ok panel, after) →
      ∀ loaded ∈ before.source.schema?, ∀ definition, Opens loaded.value action definition →
        later definition) : after.Sound later := by
  have stands := sound.history.mono kept
  cases change with
  | kept settings source loads explorer =>
    refine ⟨?_, ?_, ?_⟩
    · rw [explorer]
      exact stands
    · rw [source]
      exact sound.source
    · rw [explorer, settings]
      exact sound.limit
  | loaded outcome source loads explorer =>
    refine ⟨?_, ?_, ?_⟩
    · rw [explorer]
      exact stands
    · rw [source]
      cases outcome with
      | notNamed => exact fun _ given => nomatch given
      | loaded path schema => exact fun _ _ => rfl
      | failed error => exact fun _ given => nomatch given
    · rw [explorer]
  | explored action done =>
    have made := opened action done
    obtain ⟨acted, moved, rfl, rfl⟩ := explore_cases done
    obtain ⟨history, same, _⟩ := DocExplorer.history_of_act moved
    have moved := History.stands_act stands made moved
    subst same
    exact ⟨moved, sound.source, sound.limit⟩

end Session

/-- In every run, the session has its shape. -/
theorem Run.sound (options : LaunchOptions) (calls : List Call) :
    (of options calls).session.Sound (Opened options calls) := by
  induction calls using List.reverseRecOn with
  | nil => exact Session.sound_start options
  | append_singleton calls call ih =>
    have next : (of options (calls ++ [call])).session =
        call.session (of options calls).session := by
      rw [of_concat]
      rfl
    have change := (of options calls).session.change_of_call call
    rw [← next] at change
    refine ih.change change (fun definition known => ?_)
      fun action done loaded given definition opens => ?_
    · obtain ⟨earlier, other, later, action, schema, panel, rfl, known⟩ := known
      exact ⟨earlier, other, later ++ [call], action, schema, panel, by simp, known⟩
    · exact ⟨calls, call, [], action, loaded.value, _, rfl,
        Option.map_eq_some_iff.2 ⟨loaded, given, rfl⟩, opens.target, done⟩

/-! ## Panels -/

namespace Explorer

/-- The panel is about a member of that name, and leads back to what was there before. -/
structure Panel.Introduces (panel : Panel) (mode name back : String) : Prop where
  mode : panel.mode = mode
  title : panel.title = name
  backLabel : panel.backLabel = some back

/-- What is shown of a definition. -/
def Mode.ofDefinition : Definition → Mode
  | .type declared => .typeDetail declared
  | other => .memberDetail (some other)

/-- A new entry shows its definition. -/
theorem mode_of_push (schema : Schema) (history : History) (definition : Definition) :
    (View.of (.ready schema) (history.push (.ofDefinition definition))).mode =
      .ofDefinition definition := by
  have above : (history.push (.ofDefinition definition)).depth ≠ 1 := by
    simp [History.depth, History.push]
  simp only [View.of, modeAt, above]
  cases definition <;> rfl

/-- No view of a grounded history is of a member that is not there. -/
theorem mode_ne_nothing {made : Definition → Prop} {history : History}
    (stands : Stands made history.current history.below) (availability : Availability) :
    (View.of availability history).mode ≠ .memberDetail none := by
  obtain ⟨current, below, revision⟩ := history
  cases availability with
  | loading | errored messages | unavailable => simp [View.of, modeAt]
  | ready schema =>
    cases below with
    | nil =>
      simp only [View.of, modeAt, History.depth]
      split <;> simp
    | cons next rest =>
      obtain ⟨⟨definition, search, _, rfl⟩, _⟩ := stands
      simp only [View.of, modeAt, History.depth]
      split
      · simp
      · cases definition <;> simp [Entry.ofDefinition]

/-- Where nothing is loaded beside errors, what is loaded is offered. -/
theorem Source.availability_of_schema {source : Source} {loaded : Stamped Schema}
    (given : source.schema? = some loaded) (errors : source.errors = none) :
    source.availability = .ready loaded.value := by
  obtain ⟨slot, errors⟩ := source
  cases slot with
  | pending | absent => cases given
  | loaded schema =>
    cases given
    cases errors
    rfl

end Explorer

/-- What an action shows is the panel as it is then. -/
theorem shown_of_explore {session after : Session} {action : Action} {shown : Panel}
    (done : session.explore action = (.ok (some shown), after)) :
    shown = after.explorer.renderNow after.source := by
  obtain ⟨acted, _, panel, rfl⟩ := Session.explore_cases done
  rcases acted.render_cases session.source with ⟨_, skipped⟩ | rendered
  · rw [skipped] at panel
    cases panel
  · rw [rendered] at panel ⊢
    exact Option.some.inj panel

/-- In every run, a step to a member is answered with a panel about it. -/
theorem introduces_of_explore (options : LaunchOptions) (calls : List Call) {action : Action}
    {name : String} {panel : Option Panel} {after : Session} (named : action.member? = some name)
    (done : (Run.of options calls).session.explore action = (.ok panel, after)) :
    ∃ schema definition shown, Opens schema action definition ∧ panel = some shown ∧
      shown.Introduces (Mode.ofDefinition definition).name name
        (Run.of options calls).session.explorer.history.current.name := by
  have sound := Run.sound options calls
  have answered {loaded : Stamped Schema} {definition : Definition}
      (given : (Run.of options calls).session.source.schema? = some loaded)
      (opens : Opens loaded.value action definition) :=
    explore_of_opens options calls (Option.map_eq_some_iff.2 ⟨loaded, given, rfl⟩) opens
  generalize (Run.of options calls).session = session at *
  obtain ⟨acted, moved, _, rfl⟩ := Session.explore_cases done
  have moves := moves_of_act moved
  generalize pushed : acted.history = history at moves
  cases moves with
  | kept | reset | popped | searched term => cases named
  | @opened loaded _ definition given opens =>
    obtain ⟨shown, _, shows⟩ := answered given opens
    obtain ⟨same, rfl⟩ := Prod.mk.inj (done.symm.trans shows)
    obtain rfl := Except.ok.inj same
    have available := Source.availability_of_schema given (sound.source loaded given)
    have view : shown = (View.of (.ready loaded.value)
        (session.explorer.history.push (.ofDefinition definition))).panel
          (acted.presentation session.source) := by
      rw [← available, ← pushed]
      exact shown_of_explore shows
    have label : definition.name = name := Option.some.inj (opens.name.symm.trans named)
    exact ⟨loaded.value, definition, shown, opens, rfl,
      ⟨by rw [view, ← mode_of_push]; rfl, by rw [view, ← label]; rfl, by rw [view]; rfl⟩⟩

/-- How the parts of a session go together, with all that a reader opened in it. -/
structure Session.WellShaped (session : Session) (opened : Definition → Prop) : Prop where
  history : session.explorer.history.Grounded opened
  /-- Nothing is loaded beside errors. -/
  source : ∀ loaded, session.source.schema? = some loaded → session.source.errors = none
  limit : session.explorer.searchLimit = session.settings.searchLimit
  /-- A step to a type that is done is answered with a panel about the type. -/
  openType : ∀ name panel after, session.explore (.openType name) = (.ok panel, after) →
    ∃ shown, panel = some shown ∧
      shown.Introduces "type" name session.explorer.history.current.name
  openField : ∀ owner field panel after,
    session.explore (.openField owner field) = (.ok panel, after) →
    ∃ shown, panel = some shown ∧
      shown.Introduces "field" field session.explorer.history.current.name
  openArgument : ∀ owner field argument panel after,
    session.explore (.openArgument owner field argument) = (.ok panel, after) →
    ∃ shown, panel = some shown ∧
      shown.Introduces "field" argument session.explorer.history.current.name
  /-- What is shown is the view of then, and that is not of a member that is not there. -/
  shown : ∀ action shown after, session.explore action = (.ok (some shown), after) →
    shown = after.explorer.renderNow after.source ∧
      (View.of after.source.availability after.explorer.history).mode ≠ .memberDetail none

/-- **Sessions are well shaped.** In every run, the history stands on the entry for the whole
schema and has above it entries for definitions that were opened in the schema of then, the
limit of searches is the one of the settings, and each step to a member that is done is
answered with a panel about that member. -/
theorem sessions_are_well_shaped (options : LaunchOptions) (calls : List Call) :
    (Run.of options calls).session.WellShaped (Run.Opened options calls) := by
  have sound := Run.sound options calls
  constructor
  case history => exact sound.history.grounded
  case source => exact sound.source
  case limit => exact sound.limit
  case openType =>
    intro name panel after done
    obtain ⟨schema, definition, shown, opens, given, introduces⟩ :=
      introduces_of_explore options calls rfl done
    cases opens
    exact ⟨shown, given, introduces⟩
  case openField =>
    intro owner field panel after done
    obtain ⟨schema, definition, shown, opens, given, introduces⟩ :=
      introduces_of_explore options calls rfl done
    cases opens
    exact ⟨shown, given, introduces⟩
  case openArgument =>
    intro owner field argument panel after done
    obtain ⟨schema, definition, shown, opens, given, introduces⟩ :=
      introduces_of_explore options calls rfl done
    cases opens
    exact ⟨shown, given, introduces⟩
  case shown =>
    intro action shown after done
    have later : after.Sound fun _ => True :=
      sound.change (.explored action done) (fun _ _ => trivial) fun _ _ _ _ _ _ => trivial
    exact ⟨shown_of_explore done, mode_ne_nothing later.history _⟩

end SchemaGuide
