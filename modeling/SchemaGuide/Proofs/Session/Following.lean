import Mathlib.Data.List.Induction
import SchemaGuide.Proofs.Explorer.Resolving
import SchemaGuide.Proofs.Session.Shown

/-! Links that are followed. As long as a session has seen no schema but one that is closed,
everything that its reader visited is from that schema, so each link that was shown leads
somewhere; and a step to somewhere is always answered with a panel, because no guard has seen
the history that it makes. -/
namespace SchemaGuide

open Explorer

/-! ## Steps that are answered -/

/-- Where an action opens something, the explorer goes there. -/
theorem act_of_opens (explorer : DocExplorer) {source : Source} {loaded : Stamped Schema}
    {action : Action} {definition : Definition} (given : source.schema? = some loaded)
    (opens : Opens loaded.value action definition) :
    explorer.act source action =
      (.ok (), { explorer with history := explorer.history.push (.ofDefinition definition) }) := by
  have found := opens.target
  have opened : explorer.openTarget source action =
      (.ok (), { explorer with history := explorer.history.push (.ofDefinition definition) }) := by
    rw [DocExplorer.openTarget, given]
    simp only [found]
  cases opens <;> exact opened

/-- In every run, a step to something that the schema has is answered with its panel. -/
theorem explore_of_opens (options : LaunchOptions) (calls : List Call) {schema : Schema}
    {action : Action} {definition : Definition}
    (loaded : (Run.of options calls).session.schema? = some schema)
    (opens : Opens schema action definition) :
    ∃ panel after, (Run.of options calls).session.explore action = (.ok (some panel), after) := by
  have faithful := Run.faithful options calls
  generalize Run.of options calls = run at loaded faithful
  obtain ⟨stamped, given, rfl⟩ := Option.map_eq_some_iff.1 loaded
  have acted := act_of_opens run.session.explorer given opens
  rw [Session.explore, acted]
  rcases DocExplorer.render_cases
    { run.session.explorer with
      history := run.session.explorer.history.push (.ofDefinition definition) }
    run.session.source with ⟨held, _⟩ | rendered
  · -- What a guard holds is not later than the history of now, which the step is later than.
    obtain ⟨past, source, number, made, _, follows⟩ := faithful.guarded _ held
    have revision : run.session.explorer.history.revision + 1 = past.history.revision :=
      congrArg Snapshot.revision made
    rcases follows.history with same | lower
    · rw [same] at revision
      exact absurd revision (Nat.succ_ne_self _)
    · rw [← revision] at lower
      exact absurd lower (Nat.not_lt_of_lt (Nat.lt_succ_self _))
  · simp only [rendered]
    exact ⟨_, _, rfl⟩

/-! ## Visits to one schema -/

/-- The session has no other schema. -/
def Session.HasAtMost (session : Session) (schema : Schema) : Prop :=
  ∀ loaded ∈ session.source.schema?, loaded.value = schema

/-- Everything that was visited is from the schema, and so are the links of the panel that was
shown last. -/
structure Run.Linked (schema : Schema) (run : Run) : Prop where
  visited : run.session.explorer.history.Covered (resolving schema)
  shown : ∀ panel ∈ run.shown, ∀ link ∈ panel.links, Resolves schema link

namespace Run

variable {schema : Schema}

theorem linked_start (options : LaunchOptions) : Linked schema ⟨.start options, none⟩ :=
  ⟨.initial, fun _ shown => nomatch shown⟩

/-- A change keeps it, if no other schema is there before the change. -/
theorem Linked.change (closed : schema.Closed) {before after : Session} {shown panel : Option Panel}
    (linked : Linked schema ⟨before, shown⟩) (only : before.HasAtMost schema)
    (change : before.Change after panel) : Linked schema ⟨after, panel.or shown⟩ := by
  cases change with
  | kept _ _ _ explorer =>
    refine ⟨?_, linked.shown⟩
    rw [explorer]
    exact linked.visited
  | loaded _ _ _ explorer =>
    refine ⟨?_, linked.shown⟩
    rw [explorer]
    exact linked.visited
  | explored action done =>
    obtain ⟨acted, moved, rfl, rfl⟩ := Session.explore_cases done
    have visited : acted.history.Covered (resolving schema) := by
      refine linked.visited.act (fun loaded given definition opens => ?_) moved
      rw [only loaded given] at opens
      exact opens.covers closed
    rcases acted.render_cases before.source with ⟨_, skipped⟩ | rendered
    · rw [skipped]
      exact ⟨visited, linked.shown⟩
    · rw [rendered]
      refine ⟨visited, fun panel shown => ?_⟩
      obtain rfl := Option.some.inj shown
      exact resolves_of_render closed only visited

/-- The run with more calls. -/
theorem of_concat (options : LaunchOptions) (calls : List Call) (call : Call) :
    of options (calls ++ [call]) = (of options calls).step call := by
  simp [of]

/-- In a run with no other schema, everything that was visited is from the schema. -/
theorem linked (closed : schema.Closed) (options : LaunchOptions) {calls : List Call}
    (only : ∀ earlier, earlier <+: calls → (of options earlier).session.HasAtMost schema) :
    (of options calls).Linked schema := by
  induction calls using List.reverseRecOn with
  | nil => exact linked_start options
  | append_singleton calls call ih =>
    rw [of_concat]
    have before := ih fun earlier inside =>
      only earlier (inside.trans (List.prefix_append calls [call]))
    exact before.change closed (only calls (List.prefix_append calls [call]))
      (Session.change_of_call _ call)

end Run

/-- **Links can be followed.** Let a session have seen no schema but one that has every type it
refers to. Then each link of a panel that was shown names something that the schema has, under
that name, and following it is answered with a panel, now and whenever later. -/
theorem links_can_be_followed {schema : Schema} (closed : schema.Closed) (options : LaunchOptions)
    (calls later : List Call)
    (only : ∀ earlier, earlier <+: calls ++ later →
      (Run.of options earlier).session.HasAtMost schema)
    (loaded : (Run.of options (calls ++ later)).session.schema? = some schema) {panel : Panel}
    (shown : (Run.of options calls).shown = some panel) {link : Action}
    (member : link ∈ panel.links) :
    ∃ definition answer after, link.target? schema = some definition ∧
      link.member? = some definition.name ∧
      (Run.of options (calls ++ later)).session.explore link = (.ok (some answer), after) := by
  have linked := Run.linked closed options fun earlier inside =>
    only earlier (inside.trans (List.prefix_append calls later))
  obtain ⟨definition, opens⟩ := linked.shown panel shown link member
  obtain ⟨answer, after, answered⟩ := explore_of_opens options (calls ++ later) loaded opens
  exact ⟨definition, answer, after, opens.target, opens.name, answered⟩

/-! ## One schema, seen in a session -/

/-- A file is loaded as the schema that its text describes. -/
theorem outcome_of_text {files : FileSystem} {path : FilePath} {text : String} {schema : Schema}
    (held : files path = .ok (.file text.toUTF8))
    (describes : Introspection.parse text = .ok schema) :
    SchemaOutcome.of files (some path) = .loaded path schema := by
  simp [SchemaOutcome.of, readSchema, FileSystem.readText_of_file held, describes]

/-- A session that is told where its schema is, and has no settings to find, loads the schema of
that file under the standard settings. -/
theorem load_of_text {session : Session} {files : FileSystem} {path : FilePath} {text : String}
    {schema : Schema} (settingsFile : session.settingsFile = none)
    (workspace : session.workspace = none) (named : session.schemaOverride = some path)
    (held : files path = .ok (.file text.toUTF8))
    (describes : Introspection.parse text = .ok schema) :
    (session.load files ⟨none, none⟩).1 =
      { session with
        settings := .standard
        source := ⟨.loaded ⟨session.loads, schema⟩, none⟩
        loads := session.loads + 1
        explorer := { session.explorer with searchLimit := Settings.standard.searchLimit } } := by
  have settings : Session.settingsAfter (session.loadSettings files ⟨none, none⟩) = .standard := by
    simp only [Session.loadSettings, settingsFile, workspace]
    rfl
  have path : session.schemaPath .standard = some path := by
    rw [Session.schemaPath, named, Option.some_or]
  simp only [Session.load, settings, path, outcome_of_text held describes, SchemaOutcome.source]

/-- A type whose field leads back to it. -/
private def pointText : String :=
  "\x7b\"__schema\":\x7b\"types\":[\x7b\"kind\":\"OBJECT\",\"name\":\"Point\"," ++
    "\"fields\":[\x7b\"name\":\"next\",\"type\":" ++
    "\x7b\"kind\":\"OBJECT\",\"name\":\"Point\"\x7d\x7d]\x7d]\x7d\x7d"

private def pointType : NamedType where
  name := "Point"
  kind := .object
  description := none
  fields := [{
    name := "next", type := .named "Point", description := none, deprecation := none, args := [] }]
  inputFields := []
  enumValues := []
  interfaces := []
  possibleTypes := []

private def pointSchema : Schema := ⟨none, none, none, none, .ofList [pointType]⟩

private theorem pointText_describes : Introspection.parse pointText = .ok pointSchema := by
  decide +kernel

private def pointFiles : FileSystem := fun _ => .ok (.file pointText.toUTF8)

private def pointOptions : LaunchOptions := ⟨none, some ⟨"schema.json"⟩⟩

/-- The schema is loaded. -/
private def pointLoaded : Session :=
  { Session.greeted pointOptions with source := ⟨.loaded ⟨0, pointSchema⟩, none⟩, loads := 1 }

private theorem load_eq_pointLoaded :
    ((Session.greeted pointOptions).load pointFiles ⟨none, none⟩).1 = pointLoaded :=
  load_of_text rfl rfl rfl rfl pointText_describes

/-- The type is opened. -/
private def pointOpened : Call where
  files := pointFiles
  environment := ⟨none, none⟩
  method := .explore
  params := .object [(some "action", .array [.ofText "openType", .ofText "Point"])]

private def pointCalls : List Call :=
  [.greet pointFiles ⟨none, none⟩, .ready pointFiles ⟨none, none⟩, pointOpened]

private def pointPanel : Panel :=
  { pointLoaded.explorer with
    history := pointLoaded.explorer.history.push (.ofDefinition (.type pointType)) }.renderNow
      pointLoaded.source

private theorem point_run : Run.of pointOptions pointCalls =
    Run.step ⟨pointLoaded, none⟩ pointOpened := by
  rw [pointCalls, Run.of_begun, load_eq_pointLoaded]
  rfl

private theorem point_shown : (Run.of pointOptions pointCalls).shown = some pointPanel := by
  rw [point_run]
  rfl

private theorem point_source : (Run.of pointOptions pointCalls).session.source =
    pointLoaded.source := by
  rw [point_run]
  rfl

private theorem point_only (earlier : List Call) (inside : earlier <+: pointCalls) :
    (Run.of pointOptions earlier).session.HasAtMost pointSchema := by
  have source : (Run.of pointOptions earlier).session.source = .initial ∨
      (Run.of pointOptions earlier).session.source = pointLoaded.source := by
    rcases List.prefix_cons_iff.1 inside with rfl | ⟨rest, rfl, tail⟩
    · exact .inl rfl
    · rcases List.prefix_cons_iff.1 tail with rfl | ⟨more, rfl, behind⟩
      · exact .inl rfl
      · rcases List.prefix_cons_iff.1 behind with rfl | ⟨last, rfl, final⟩
        · rw [Run.of_begun, load_eq_pointLoaded]
          exact .inr rfl
        · obtain rfl := List.prefix_nil.1 final
          exact .inr point_source
  intro loaded given
  rcases source with none | held
  · rw [none] at given
    cases given
  · rw [held] at given
    cases given
    rfl

/-- The link to the field is followed from the panel of its type. -/
theorem field_of_point_followed :
    pointSchema.Closed ∧ .openField "Point" "next" ∈ pointPanel.links ∧
      ∃ definition answer after,
        (Action.openField "Point" "next").target? pointSchema = some definition ∧
        definition.name = "next" ∧
        (Run.of pointOptions pointCalls).session.explore (.openField "Point" "next") =
          (.ok (some answer), after) := by
  have closed : pointSchema.Closed := by decide
  have link : .openField "Point" "next" ∈ pointPanel.links := by decide +kernel
  have loaded : (Run.of pointOptions (pointCalls ++ [])).session.schema? = some pointSchema := by
    rw [List.append_nil, Session.schema?, point_source]
    rfl
  obtain ⟨definition, answer, after, found, name, answered⟩ :=
    links_can_be_followed closed pointOptions pointCalls []
      (fun earlier inside => point_only earlier (by simpa using inside)) loaded point_shown link
  refine ⟨closed, link, definition, answer, after, found, (Option.some.inj name).symm, ?_⟩
  simpa using answered

end SchemaGuide
