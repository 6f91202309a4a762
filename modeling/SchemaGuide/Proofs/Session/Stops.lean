import SchemaGuide.Proofs.Session.Refusal
import SchemaGuide.Proofs.Session.Shape

/-! What a reader is shown of a member once another schema is loaded. A step to a member makes an
entry that holds the member as the schema of then defines it, and loading leaves the history as
it is. So the panel at that entry is made from the schema of then: it is the one for the
member of now as long as no other schema was loaded, or if the member is still defined the same
way, but not in general. -/
namespace SchemaGuide

open Explorer

/-! ## Stops of a reader -/

/-- A stop of a reader at a member of the schema of then. -/
structure Stop where
  action : Action
  schema : Stamped Schema
  definition : Definition
  found : action.target? schema.value = some definition

/-- The stop that an action makes, if it leads somewhere in the schema. -/
def Stop.of? (action : Action) (schema : Stamped Schema) : Option Stop :=
  match found : action.target? schema.value with
  | some definition => some ⟨action, schema, definition, found⟩
  | none => none

theorem Stop.of_target {action : Action} {schema : Stamped Schema} {definition : Definition}
    (found : action.target? schema.value = some definition) :
    Stop.of? action schema = some ⟨action, schema, definition, found⟩ := by
  rw [Stop.of?]
  split
  · rename_i other same
    obtain rfl := Option.some.inj (found.symm.trans same)
    rfl
  · rename_i missing
    cases found.symm.trans missing

/-- The stops from which a reader did not go back, last first, after one more action. The schema
is that of then, if there is one. -/
def Explorer.Action.stops (action : Action) (schema : Option (Stamped Schema))
    (stops : List Stop) : List Stop :=
  match action with
  | .refresh | .search _ => stops
  | .reset => []
  | .pop => stops.tail
  | .openType _ | .openField _ _ | .openArgument _ _ _ =>
    (schema.bind (Stop.of? action)).toList ++ stops

/-- The same after a call. -/
def Call.stops (call : Call) (before : Session) (stops : List Stop) : List Stop :=
  match before.phase.accept call.method call.params with
  | .ok (.explore action) => action.stops before.source.schema? stops
  | _ => stops

/-- The stops from which the reader of a run did not go back, last first. -/
def Run.stops (options : LaunchOptions) (calls : List Call) : List Stop :=
  (calls.foldl (fun now call => (call.session now.1, call.stops now.1 now.2))
    (Session.start options, [])).2

theorem Run.stops_concat (options : LaunchOptions) (calls : List Call) (call : Call) :
    Run.stops options (calls ++ [call]) =
      call.stops (Run.of options calls).session (Run.stops options calls) := by
  have sessions : ∀ (calls : List Call) (now : Session × List Stop),
      (calls.foldl (fun now call => (call.session now.1, call.stops now.1 now.2)) now).1 =
        calls.foldl (fun now call => call.session now) now.1 := by
    intro calls
    induction calls with
    | nil => exact fun _ => rfl
    | cons call rest ih => exact fun now => ih _
  rw [Run.session_of, ← sessions calls (Session.start options, [])]
  simp only [Run.stops, List.foldl_append, List.foldl_cons, List.foldl_nil]

/-! ## Entries of the stops -/

namespace Explorer

/-- The entry without its search. -/
def Entry.plain (entry : Entry) : Entry := { entry with search := none }

/-- All entries without their searches, the current one first. -/
def History.trail (history : History) : List Entry :=
  (history.current :: history.below).map Entry.plain

/-- The history went by these stops from the entry for the whole schema. -/
def History.Went (history : History) (stops : List Stop) : Prop :=
  history.trail = stops.map (Entry.ofDefinition ·.definition) ++ [Entry.root]

namespace History

variable {history : History} {stops : List Stop}

theorem Went.push (went : history.Went stops) (stop : Stop) :
    (history.push (.ofDefinition stop.definition)).Went (stop :: stops) :=
  congrArg (Entry.ofDefinition stop.definition :: ·) went

theorem Went.pop (went : history.Went stops) : history.pop.2.Went stops.tail := by
  obtain ⟨current, below, revision⟩ := history
  cases stops with
  | nil =>
    cases below with
    | nil => exact went
    | cons next rest => cases (List.cons.inj went).2
  | cons stop stops =>
    cases below with
    | nil => cases stops <;> cases (List.cons.inj went).2
    | cons next rest => exact (List.cons.inj went).2

/-- An action that is done adds the stop that it makes, and takes away the one that it leaves. -/
theorem Went.act {source : Source} {action : Action} {after : History}
    (went : history.Went stops) (moves : Moves source history action after) :
    after.Went (action.stops source.schema? stops) := by
  cases moves with
  | kept => exact went
  | reset => exact rfl
  | popped => exact went.pop
  | searched term => exact went
  | @opened loaded _ definition given opens =>
    have added : action.stops source.schema? stops =
        ⟨action, loaded, definition, opens.target⟩ :: stops := by
      cases opens <;> simp only [Action.stops, given, Option.bind_some] <;>
        rw [Stop.of_target] <;> rfl
    rw [added]
    exact went.push ⟨action, loaded, definition, opens.target⟩

end History
end Explorer

/-- An action that is refused makes no stop. -/
theorem Explorer.stops_of_refuses {source : Option (Stamped Schema)} {action : Action}
    {error : ActionError} (refuses : Refuses (source.map (·.value)) action error)
    (stops : List Stop) : action.stops source stops = stops := by
  have nowhere : source.bind (Stop.of? action) = none := by
    cases source with
    | none => rfl
    | some schema =>
      cases refuses with
      | unknownMember lacks =>
        have missing := (lacks_iff.mp lacks).2
        rw [Option.bind_some, Stop.of?]
        split
        · rename_i definition found
          cases missing.symm.trans found
        · rfl
  cases action with
  | refresh | reset | pop | search term => cases step_of_refuses refuses
  | openType name => rw [Action.stops, nowhere]; rfl
  | openField owner name => rw [Action.stops, nowhere]; rfl
  | openArgument owner field name => rw [Action.stops, nowhere]; rfl

/-! ## Runs -/

/-- The reader of the session went by these stops, each in the schema of one loading. -/
structure Session.Visited (session : Session) (stops : List Stop) : Prop where
  went : session.explorer.history.Went stops
  loaded : ∀ now ∈ session.source.schema?, now.stamp < session.loads
  earlier : ∀ stop ∈ stops, stop.schema.stamp < session.loads
  same : ∀ stop ∈ stops, ∀ now ∈ session.source.schema?, stop.schema.stamp = now.stamp →
    stop.schema = now

namespace Session

variable {before : Session} {stops : List Stop}

theorem visited_start (options : LaunchOptions) : (start options).Visited [] :=
  ⟨rfl, fun _ given => (nomatch given), fun _ member => (nomatch member),
    fun _ member => (nomatch member)⟩

/-- It stays with what an explorer works with. -/
theorem Visited.keep (visited : before.Visited stops) {after : Session}
    (source : after.source = before.source) (loads : after.loads = before.loads)
    (explorer : after.explorer = before.explorer) : after.Visited stops := by
  refine ⟨explorer ▸ visited.went, ?_, loads ▸ visited.earlier, source ▸ visited.same⟩
  rw [source, loads]
  exact visited.loaded

/-- What is loaded has a stamp that no stop has seen. -/
theorem Visited.load (visited : before.Visited stops) (files : FileSystem)
    (environment : Settings.Environment) : (before.load files environment).1.Visited stops := by
  have stamp : ∀ now ∈ (before.load files environment).1.source.schema?,
      now.stamp = before.loads := by
    intro now given
    simp only [Session.load] at given
    generalize SchemaOutcome.of files _ = outcome at given
    cases outcome with
    | notNamed => cases given
    | loaded path schema => cases given; rfl
    | failed error => cases given
  refine ⟨visited.went, fun now given => ?_, fun stop member => ?_,
    fun stop member now given same => ?_⟩
  · rw [stamp now given]
    exact Nat.lt_succ_self _
  · exact Nat.lt_succ_of_lt (visited.earlier stop member)
  · rw [stamp now given] at same
    exact absurd same (Nat.ne_of_lt (visited.earlier stop member))

/-- A new stop is in the schema of then. -/
theorem mem_stops {source : Option (Stamped Schema)} {action : Action} {stop : Stop}
    (member : stop ∈ action.stops source stops) :
    stop ∈ stops ∨ source = some stop.schema := by
  have opened (member : stop ∈ (source.bind (Stop.of? action)).toList ++ stops) :
      stop ∈ stops ∨ source = some stop.schema := by
    rcases List.mem_append.mp member with new | old
    · obtain ⟨schema, given, made⟩ := Option.bind_eq_some_iff.mp (Option.mem_toList.mp new)
      rw [Stop.of?] at made
      split at made
      · cases made
        exact .inr given
      · cases made
    · exact .inl old
  cases action with
  | refresh => exact .inl member
  | search term => exact .inl member
  | reset => cases member
  | pop => exact .inl (List.mem_of_mem_tail member)
  | openType name => exact opened member
  | openField owner name => exact opened member
  | openArgument owner field name => exact opened member

theorem Visited.explore (visited : before.Visited stops) {action : Action}
    {panel : Option Panel} {after : Session} (done : before.explore action = (.ok panel, after)) :
    after.Visited (action.stops before.source.schema? stops) := by
  obtain ⟨acted, moved, _, rfl⟩ := explore_cases done
  have went := visited.went.act (moves_of_act moved)
  refine ⟨went, visited.loaded, fun stop member => ?_,
    fun stop member now given same => ?_⟩
  · rcases mem_stops member with old | new
    · exact visited.earlier stop old
    · exact visited.loaded stop.schema new
  · rcases mem_stops member with old | new
    · exact visited.same stop old now given same
    · exact Option.some.inj (new.symm.trans given)

/-- Every call keeps it, with the stops of then. -/
theorem Visited.call (visited : before.Visited stops) (call : Call) :
    (call.session before).Visited (call.stops before stops) := by
  rw [Call.session, Call.stops, Session.call]
  cases before.phase.accept call.method call.params with
  | error error => exact visited
  | ok message =>
    cases message with
    | greeting workspace schema => exact visited.keep rfl rfl rfl
    | ready => exact visited.load call.files call.environment
    | opened address text => exact visited.keep rfl rfl rfl
    | changed address text => cases text <;> exact visited.keep rfl rfl rfl
    | closed address => exact visited.keep rfl rfl rfl
    | complete address line column => exact visited
    | resolve item => exact visited
    | shutdown bare => exact visited.keep rfl rfl rfl
    | explore action =>
      rcases done : before.explore action with ⟨error | panel, after⟩
      · have refuses := explore_eq_error_iff.mp (congrArg Prod.fst done)
        have same := session_of_refused done
        simpa only [receive, done, same, stops_of_refuses refuses] using visited
      · simpa only [receive, done] using visited.explore done

end Session

/-- In every run, the reader is where the stops lead. -/
theorem Run.visited (options : LaunchOptions) (calls : List Call) :
    (of options calls).session.Visited (stops options calls) := by
  induction calls using List.reverseRecOn with
  | nil => exact Session.visited_start options
  | append_singleton calls call ih =>
    rw [stops_concat, of_concat]
    exact ih.call call

/-! ## Panels of the stops -/

/-- The panel for a definition at the place of the reader. -/
def Session.memberPanel (session : Session) (definition : Definition) : Panel :=
  let history := { session.explorer.history with current := .ofDefinition definition }
  { session.explorer with history }.renderNow session.source

/-- At an entry without a search, the view is the one for its definition. -/
theorem view_of_plain {history : History} {definition : Definition}
    (entry : history.current.plain = .ofDefinition definition)
    (unsearched : history.current.searchTerm? = none) (availability : Availability) :
    View.of availability history =
      View.of availability { history with current := .ofDefinition definition } := by
  have name : history.current.name = definition.name := congrArg Entry.name entry
  have title : history.current.title = none := congrArg Entry.title entry
  have visited : history.current.definition = some definition := congrArg Entry.definition entry
  have new : (Entry.ofDefinition definition).searchTerm? = none := rfl
  simp only [View.of, modeAt, showsSearchAt, Entry.displayTitle, unsearched, new, name, title,
    visited]
  rfl

/-- What a call shows is the panel of the session after it. -/
theorem shown_of_call {before : Session} {call : Call} {panel : Panel}
    (answered : call.panel? before = some panel) :
    panel = (call.session before).explorer.renderNow (call.session before).source := by
  have change := before.change_of_call call
  rw [answered] at change
  cases change with
  | explored action done => exact shown_of_explore done

/-- At the entry of a stop without a search, its definition is shown. -/
theorem mode_of_went {history : History} {stop : Stop} {stops : List Stop}
    (went : history.Went (stop :: stops)) (unsearched : history.current.searchTerm? = none)
    (schema : Schema) :
    (View.of (.ready schema) history).mode = .ofDefinition stop.definition := by
  rw [view_of_plain (List.cons.inj went).1 unsearched]
  obtain ⟨current, below, revision⟩ := history
  cases below with
  | nil => cases stops <;> cases (List.cons.inj went).2
  | cons next rest => exact mode_of_push schema ⟨next, rest, revision⟩ stop.definition

theorem Explorer.Mode.ofDefinition_inj {first second : Definition} :
    Mode.ofDefinition first = Mode.ofDefinition second ↔ first = second := by
  cases first <;> cases second <;> simp [Mode.ofDefinition]

/-- **A panel shows a member as it was visited.** In every run, the panel at the entry of a stop
is the one for the member in the schema of the stop. So it shows the member of now exactly if that
is defined the same way, which it is as long as no other schema was loaded. -/
theorem panel_shows_member_as_visited (options : LaunchOptions) (before : List Call) (last : Call)
    {panel : Panel} (answered : last.panel? (Run.of options before).session = some panel)
    {stop : Stop} (stands : (Run.stops options (before ++ [last])).head? = some stop)
    {now : Stamped Schema}
    (loaded : (Run.of options (before ++ [last])).session.source.schema? = some now)
    (unsearched :
      (Run.of options (before ++ [last])).session.explorer.history.current.searchTerm? = none) :
    let session := (Run.of options (before ++ [last])).session
    panel = session.memberPanel stop.definition ∧
      ∀ definition, stop.action.target? now.value = some definition →
        ((View.of session.source.availability session.explorer.history).mode =
          .ofDefinition definition ↔ stop.definition = definition) ∧
        (stop.schema.stamp = now.stamp → panel = session.memberPanel definition) := by
  intro session
  have visited := Run.visited options (before ++ [last])
  have sound := Run.sound options (before ++ [last])
  obtain ⟨earlier, split⟩ := List.head?_eq_some_iff.mp stands
  have went := visited.went
  rw [split] at went
  have shown : panel = session.memberPanel stop.definition := by
    have here : session = last.session (Run.of options before).session :=
      congrArg Run.session (Run.of_concat options before last)
    rw [shown_of_call answered, ← here]
    exact congrArg (View.panel (session.explorer.presentation session.source))
      (view_of_plain (List.cons.inj went).1 unsearched session.source.availability)
  refine ⟨shown, fun definition member => ⟨?_, fun same => ?_⟩⟩
  · rw [Source.availability_of_schema loaded (sound.source now loaded),
      mode_of_went went unsearched, Mode.ofDefinition_inj]
  · have schema : stop.schema = now :=
      visited.same stop (List.mem_of_head? stands) now loaded same
    have found := stop.found
    rw [schema, member] at found
    rw [shown, Option.some.inj found]

/-! ## A scalar that is described anew -/

private def undescribedText : String :=
  "\x7b\"__schema\":\x7b\"types\":[\x7b\"kind\":\"SCALAR\",\"name\":\"Date\"\x7d]\x7d\x7d"

private def describedText : String :=
  "\x7b\"__schema\":\x7b\"types\":[\x7b\"kind\":\"SCALAR\",\"name\":\"Date\"," ++
    "\"description\":\"A day.\"\x7d]\x7d\x7d"

private def dayType (description : Option String) : NamedType :=
  ⟨"Date", .scalar, description, [], [], [], [], []⟩

private def daySchema (description : Option String) : Schema :=
  ⟨none, none, none, none, .ofList [dayType description]⟩

private theorem undescribedText_describes :
    Introspection.parse undescribedText = .ok (daySchema none) := by
  decide +kernel

private theorem describedText_describes :
    Introspection.parse describedText = .ok (daySchema (some "A day.")) := by
  decide +kernel

private def dayOptions : LaunchOptions := ⟨none, some ⟨"schema.json"⟩⟩

/-- Files that all have that text. -/
private def dayFiles (text : String) : FileSystem := fun _ => .ok (.file text.toUTF8)

/-- The session with that schema loaded. -/
private def daySession (session : Session) (description : Option String) : Session :=
  { session with
    settings := .standard
    source := ⟨.loaded ⟨session.loads, daySchema description⟩, none⟩
    loads := session.loads + 1
    explorer := { session.explorer with searchLimit := Settings.standard.searchLimit } }

private theorem day_loaded {session : Session} {text : String} {description : Option String}
    (settingsFile : session.settingsFile = none) (workspace : session.workspace = none)
    (named : session.schemaOverride = some ⟨"schema.json"⟩)
    (describes : Introspection.parse text = .ok (daySchema description)) :
    (session.load (dayFiles text) ⟨none, none⟩).1 = daySession session description :=
  load_of_text settingsFile workspace named rfl describes

/-- An action while the file of the schema has that text. -/
private def dayExplore (text : String) (action : List Json) : Call :=
  ⟨dayFiles text, ⟨none, none⟩, .explore, .object [(some "action", .array action)]⟩

private def dayBegins : List Call :=
  [.greet (dayFiles undescribedText) ⟨none, none⟩, .ready (dayFiles undescribedText) ⟨none, none⟩]

private def dayOpened : Call := dayExplore undescribedText [.ofText "openType", .ofText "Date"]

private def dayReloaded : Call := .ready (dayFiles describedText) ⟨none, none⟩

/-- The session is greeted and the schema is loaded, the scalar is opened, and then the schema is
loaded from the same file again, which now has a description of the scalar. -/
private def dayCalls : List Call := dayBegins ++ [dayOpened, dayReloaded]

private def dayRefresh : Call := dayExplore describedText [.ofText "refresh"]

private def dayStop : Stop := ⟨.openType "Date", ⟨0, daySchema none⟩, .type (dayType none), rfl⟩

private theorem day_begun :
    (Run.of dayOptions dayBegins).session = daySession (.greeted dayOptions) none := by
  rw [dayBegins, Run.of_begun]
  exact day_loaded rfl rfl rfl undescribedText_describes

/-- The session where the new description is loaded. -/
private def dayNow : Session :=
  daySession (dayOpened.session (daySession (.greeted dayOptions) none)) (some "A day.")

private theorem session_eq_dayNow : (Run.of dayOptions dayCalls).session = dayNow := by
  have begun := day_begun
  rw [Run.session_of] at begun
  rw [Run.session_of, dayCalls, List.foldl_append, begun]
  exact (Session.session_of_ready rfl ..).trans (day_loaded rfl rfl rfl describedText_describes)

private theorem day_refreshed :
    (Run.of dayOptions (dayCalls ++ [dayRefresh])).session = dayRefresh.session dayNow := by
  rw [Run.of_concat, ← session_eq_dayNow]
  rfl

private theorem day_stops :
    (Run.stops dayOptions (dayCalls ++ [dayRefresh])).head? = some dayStop := by
  have opened : Run.stops dayOptions (dayBegins ++ [dayOpened]) = [dayStop] := by
    rw [Run.stops_concat, day_begun]
    rfl
  have loaded : Run.stops dayOptions dayCalls = [dayStop] := by
    rw [← opened]
    exact Run.stops_concat dayOptions (dayBegins ++ [dayOpened]) dayReloaded
  rw [Run.stops_concat, loaded]
  rfl

private theorem day_source :
    (Run.of dayOptions (dayCalls ++ [dayRefresh])).session.source.schema? =
      some ⟨1, daySchema (some "A day.")⟩ := by
  rw [day_refreshed]
  rfl

private theorem day_unsearched : (Run.of dayOptions
    (dayCalls ++ [dayRefresh])).session.explorer.history.current.searchTerm? = none := by
  rw [day_refreshed]
  rfl

/-- The panel that the scalar has without a description. -/
private def dayPanel : Panel := dayNow.memberPanel (.type (dayType none))

private theorem day_answered :
    dayRefresh.panel? (Run.of dayOptions dayCalls).session = some dayPanel := by
  rw [session_eq_dayNow]
  rfl

theorem panel_shows_scalar_as_visited :
    let session := (Run.of dayOptions (dayCalls ++ [dayRefresh])).session
    dayRefresh.panel? (Run.of dayOptions dayCalls).session = some dayPanel ∧
      dayPanel = session.memberPanel (.type (dayType none)) ∧
      (View.of session.source.availability session.explorer.history).mode ≠
        .typeDetail (dayType (some "A day.")) := by
  intro session
  obtain ⟨shown, others⟩ := panel_shows_member_as_visited dayOptions dayCalls dayRefresh
    day_answered day_stops day_source day_unsearched
  obtain ⟨current, _⟩ := others (.type (dayType (some "A day."))) rfl
  exact ⟨day_answered, shown, fun same => nomatch current.mp same⟩

/-- The schema of now has the scalar with its description, which the panel does not show. -/
theorem replaced_scalar_is_shown :
    let session := (Run.of dayOptions (dayCalls ++ [dayRefresh])).session
    dayRefresh.panel? (Run.of dayOptions dayCalls).session = some dayPanel ∧
      (Run.stops dayOptions (dayCalls ++ [dayRefresh])).head? = some dayStop ∧
      session.source.schema? = some ⟨1, daySchema (some "A day.")⟩ ∧
      session.explorer.history.current.searchTerm? = none ∧
      (Action.openType "Date").target? (daySchema (some "A day.")) =
        some (.type (dayType (some "A day."))) ∧
      dayPanel ≠ session.memberPanel (.type (dayType (some "A day."))) := by
  intro session
  refine ⟨day_answered, day_stops, day_source, day_unsearched, rfl, fun same => ?_⟩
  have lines := congrArg (·.body.length) same
  have here : session = dayRefresh.session dayNow := day_refreshed
  rw [here] at lines
  exact absurd lines (Nat.ne_of_lt (Nat.lt_succ_self 1))

end SchemaGuide
