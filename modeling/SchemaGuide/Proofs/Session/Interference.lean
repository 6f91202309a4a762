import SchemaGuide.Proofs.Session.Refusal

/-! What the answers of a session depend on. A call that is taken does at most one thing to a
session: it greets it or stops it, it loads, it gives or takes the text of a document, or it moves
the explorer. Completion in a document looks at what was loaded and at the text of that document,
and exploring looks at what was loaded and at the explorer, so neither notices the other, nor what
goes on in other documents. Stated for two runs with one launch: they may differ in everything that
is not told to be the same. -/
namespace SchemaGuide

open Explorer

/-! ## Events -/

/-- What a call does to a session. -/
inductive Event where
  | greeted (workspace schema : Option FilePath)
  /-- Settings and schema are loaded from the files as they are then. -/
  | loaded (files : FileSystem) (environment : Settings.Environment)
  /-- From now on the document has that text, or none if it is closed. -/
  | wrote (address : String) (text : Option String)
  | explored (action : Action)
  /-- From now on nothing is taken. -/
  | stopped

namespace Event

/-- Whether the event decides what is loaded, or whether calls are taken. -/
def isSetup : Event → Bool
  | .greeted _ _ | .loaded _ _ | .stopped => true
  | .wrote _ _ | .explored _ => false

/-- Whether the event is one of those, or is about the document. -/
def concerns (address : String) : Event → Bool
  | .wrote other _ => other = address
  | event => event.isSetup

/-- Whether the event is one of those, or an action of the reader. -/
def isForReader : Event → Bool
  | .explored _ => true
  | event => event.isSetup

/-- The text that the event leaves the document with, if it is about the document. -/
def textFor? (address : String) : Event → Option (Option String)
  | .wrote other text => if other = address then some text else none
  | _ => none

end Event

/-- What a message does to a session, with the files as they are then. A change that brings no
text does nothing, and neither do requests other than those of the explorer. -/
def Message.event? (files : FileSystem) (environment : Settings.Environment) :
    Message → Option Event
  | .greeting workspace schema => some (.greeted workspace schema)
  | .ready => some (.loaded files environment)
  | .opened address text => some (.wrote address (some text))
  | .changed address (some text) => some (.wrote address (some text))
  | .closed address => some (.wrote address none)
  | .explore action => some (.explored action)
  | .shutdown _ => some .stopped
  | .changed _ none | .complete _ _ _ | .resolve _ => none

/-- What a call does to a session in that phase. -/
def Call.event? (call : Call) (phase : Phase) : Option Event :=
  (phase.accept call.method call.params).toOption.bind (·.event? call.files call.environment)

/-- What calls do to a session, one after the other. -/
def Session.events (session : Session) : List Call → List Event
  | [] => []
  | call :: rest => (call.event? session.phase).toList ++ (call.session session).events rest

/-- What the calls of a run do. -/
def eventsOf (options : LaunchOptions) (calls : List Call) : List Event :=
  (Session.start options).events calls

/-- The text that the last event about a document leaves it with: the one of the last opening or
change, and none if it was closed since. -/
def latestText (address : String) (events : List Event) : Option String :=
  (events.filterMap (·.textFor? address)).getLast?.join

namespace Session

/-- The session after an event. -/
def after (session : Session) : Event → Session
  | .greeted workspace schema => session.configure workspace schema
  | .loaded files environment => (session.load files environment).1
  | .wrote address (some text) => session.setDocument address text
  | .wrote address none => session.closeDocument address
  | .explored action => (session.explore action).2
  | .stopped => { session with phase := .stopped }

/-- A call does to a session what its event does, and nothing if it has none. -/
theorem session_of_event (call : Call) (session : Session) :
    call.session session = ((call.event? session.phase).map session.after).getD session := by
  rw [Call.session, Session.call, Call.event?]
  cases session.phase.accept call.method call.params with
  | error error => rfl
  | ok message =>
    cases message with
    | changed address text => cases text <;> rfl
    | greeting workspace schema | ready | opened address text | closed address
    | complete address line column | resolve item | explore action | shutdown bare => rfl

theorem session_of_run (options : LaunchOptions) (calls : List Call) :
    (Run.of options calls).session = (eventsOf options calls).foldl after (.start options) := by
  rw [Run.session_of, eventsOf]
  generalize Session.start options = session
  induction calls generalizing session with
  | nil => rfl
  | cons call rest ih =>
    rw [List.foldl_cons, ih, events, List.foldl_append, session_of_event]
    cases call.event? session.phase <;> rfl

/-! ## Views -/

/-- What loading works with and what it brought, without documents and without an explorer. -/
def setup (session : Session) : Session :=
  { session with documents := [], explorer := .ofHistory .initial }

/-- What exploring works with. -/
def reading (session : Session) : Session := { session with documents := [] }

/-- Events that do not matter to a view can be left out, whichever they are, if the others do to a
view what they do whatever else is in the session. -/
theorem view_of_filter {View : Type} {view : Session → View} {matters : Event → Bool}
    (kept : ∀ session event, matters event = false → view (session.after event) = view session)
    (moved : ∀ first second event, matters event = true → view first = view second →
      view (first.after event) = view (second.after event))
    (session : Session) (events : List Event) :
    view (events.foldl after session) = view ((events.filter matters).foldl after session) := by
  induction events using List.reverseRecOn with
  | nil => rfl
  | append_singleton earlier event ih =>
    rw [List.foldl_append, List.filter_append, List.foldl_append]
    by_cases known : matters event = true
    · rw [List.filter_cons_of_pos known]
      exact moved _ _ event known ih
    · rw [List.filter_cons_of_neg known]
      exact (kept _ event (Bool.eq_false_iff.mpr known)).trans ih

/-- An action changes nothing but the explorer. -/
theorem after_explored (session : Session) (action : Action) :
    ∃ explorer, session.after (.explored action) = { session with explorer } := by
  rw [after, explore]
  rcases session.explorer.act session.source action with ⟨_ | _, explorer⟩
  · exact ⟨explorer, rfl⟩
  · exact ⟨(explorer.render session.source).2, rfl⟩

theorem setup_after_traffic (session : Session) (event : Event) (traffic : event.isSetup = false) :
    (session.after event).setup = session.setup := by
  cases event with
  | greeted workspace schema | loaded files environment | stopped => cases traffic
  | wrote address text => cases text <;> rfl
  | explored action =>
    obtain ⟨explorer, same⟩ := session.after_explored action
    rw [same]
    rfl

theorem setup_after_congr (first second : Session) (event : Event) (isSetup : event.isSetup = true)
    (same : first.setup = second.setup) :
    (first.after event).setup = (second.after event).setup := by
  have through (session : Session) :
      (session.after event).setup = (session.setup.after event).setup := by
    cases event with
    | greeted workspace schema | loaded files environment | stopped => rfl
    | wrote address text | explored action => cases isSetup
  rw [through first, same, ← through second]

theorem reading_after_other (session : Session) (event : Event)
    (other : event.isForReader = false) : (session.after event).reading = session.reading := by
  cases event with
  | greeted workspace schema | loaded files environment | explored action | stopped => cases other
  | wrote address text => cases text <;> rfl

/-- Documents have no part in exploring. -/
theorem explore_of_reading (session : Session) (action : Action) :
    session.reading.explore action =
      ((session.explore action).1, (session.explore action).2.reading) := by
  rw [explore, explore, reading]
  rcases session.explorer.act session.source action with ⟨_ | _, explorer⟩ <;> rfl

theorem reading_after_congr (first second : Session) (event : Event)
    (isForReader : event.isForReader = true) (same : first.reading = second.reading) :
    (first.after event).reading = (second.after event).reading := by
  have through (session : Session) :
      (session.after event).reading = session.reading.after event := by
    cases event with
    | greeted workspace schema | loaded files environment | stopped => rfl
    | wrote address text => cases isForReader
    | explored action => rw [after, after, explore_of_reading]
  rw [through first, same, ← through second]

/-! ## Documents -/

theorem document_of_close (session : Session) (address other : String) :
    (session.closeDocument address).document? other =
      if address = other then none else session.document? other := by
  rw [document?, closeDocument, List.find?_filter]
  by_cases same : address = other
  · subst same
    simp
  · have kept : (fun entry : String × String =>
        decide ((entry.1 != address) = true ∧ (entry.1 == other) = true)) =
        (·.1 == other) := by
      funext entry
      by_cases found : entry.1 = other
      · simp [found, Ne.symm same]
      · simp [found]
    rw [if_neg same, document?, kept]

theorem document_of_set (session : Session) (address text other : String) :
    (session.setDocument address text).document? other =
      if address = other then some text else session.document? other := by
  by_cases same : address = other
  · simp [setDocument, document?, same]
  · have closed := document_of_close session address other
    rw [if_neg same] at closed
    rw [if_neg same, ← closed]
    simp [setDocument, document?, same]

/-- An event leaves a document with the text that it tells, and as it was if it tells none. -/
theorem document_of_after (session : Session) (address : String) (event : Event) :
    (session.after event).document? address =
      (event.textFor? address).getD (session.document? address) := by
  cases event with
  | greeted workspace schema | loaded files environment | stopped => rfl
  | wrote other text =>
    cases text with
    | none =>
      rw [after, document_of_close, Event.textFor?]
      split <;> rfl
    | some text =>
      rw [after, document_of_set, Event.textFor?]
      split <;> rfl
  | explored action =>
    obtain ⟨explorer, same⟩ := session.after_explored action
    rw [same]
    rfl

/-- The text of a document is that of the last event about it. -/
theorem document_of_run (options : LaunchOptions) (calls : List Call) (address : String) :
    (Run.of options calls).session.document? address =
      latestText address (eventsOf options calls) := by
  rw [session_of_run]
  induction eventsOf options calls using List.reverseRecOn with
  | nil => rfl
  | append_singleton earlier event ih =>
    rw [List.foldl_append, List.foldl_cons, List.foldl_nil, document_of_after, ih, latestText,
      latestText, List.filterMap_append]
    cases told : event.textFor? address with
    | none => simp [told]
    | some text => simp [told]

/-- What is loaded, and whether calls are taken, is decided by the events of the setup alone. -/
theorem setup_of_run (options : LaunchOptions) (calls : List Call) :
    (Run.of options calls).session.setup =
      (((eventsOf options calls).filter Event.isSetup).foldl after (.start options)).setup := by
  rw [session_of_run]
  exact view_of_filter setup_after_traffic setup_after_congr (.start options) _

/-- What exploring works with is decided by those and by the actions of the reader. -/
theorem reading_of_run (options : LaunchOptions) (calls : List Call) :
    (Run.of options calls).session.reading =
      (((eventsOf options calls).filter Event.isForReader).foldl after
        (.start options)).reading := by
  rw [session_of_run]
  exact view_of_filter reading_after_other reading_after_congr (.start options) _

theorem schema_of_run (options : LaunchOptions) (calls : List Call) :
    (Run.of options calls).session.schema? =
      (((eventsOf options calls).filter Event.isSetup).foldl after (.start options)).schema? := by
  change (setup _).schema? = (setup _).schema?
  rw [setup_of_run]

theorem phase_of_run (options : LaunchOptions) (calls : List Call) :
    (Run.of options calls).session.phase =
      (((eventsOf options calls).filter Event.isSetup).foldl after (.start options)).phase := by
  change (setup _).phase = (setup _).phase
  rw [setup_of_run]

end Session

/-! ## What events matter -/

/-- Events about a document are all that its text depends on. -/
theorem latestText_of_concerns (address : String) (events : List Event) :
    latestText address (events.filter (·.concerns address)) = latestText address events := by
  have told : ∀ event : Event,
      (if event.concerns address then event.textFor? address else none) =
        event.textFor? address := by
    intro event
    cases event with
    | greeted workspace schema | loaded files environment | explored action | stopped => rfl
    | wrote other text =>
      by_cases same : other = address
      · simp [Event.concerns, same]
      · simp [Event.concerns, Event.textFor?, same]
  simp only [latestText, List.filterMap_filter, told]

/-- The events of the setup are among those that concern a document. -/
theorem setup_of_concerns (address : String) (events : List Event) :
    (events.filter (·.concerns address)).filter Event.isSetup = events.filter Event.isSetup := by
  rw [List.filter_filter]
  refine List.filter_congr ?_
  intro event _
  cases event with
  | greeted workspace schema | loaded files environment | explored action | stopped => rfl
  | wrote other text => simp [Event.isSetup]

/-! ## Answers -/

/-- What is offered at a place of a document with a schema and a text, where both are there. -/
def offersAt (schema : Option Schema) (text : Option String) (line column : Nat) :
    List Completion.Item :=
  match text, schema with
  | some text, some schema =>
    Completion.offerAt schema text (Text.positionOffset column line text.toList)
  | _, _ => []

namespace Session

/-- A completion is answered from what is loaded and from the text of the document, if it is
taken. -/
theorem answer_of_complete {asked : Call} {address : String} {line column : Nat}
    (asks : Message.read? asked.method asked.params = some (.complete address line column))
    (session : Session) :
    asked.answer session = (session.phase.objection? .complete).elim
      (.ofResult (completionJson
        (offersAt session.schema? (session.document? address) line column))) .ofError := by
  rw [Call.answer, call_of_read asks, Message.method]
  cases session.phase.objection? .complete <;> rfl

/-- An action is answered from what comes of it, if it is taken. -/
theorem answer_of_explore {asked : Call} {action : Action}
    (asks : Message.read? asked.method asked.params = some (.explore action))
    (session : Session) :
    asked.answer session = (session.phase.objection? .explore).elim
      (.ofExplored (session.explore action).1) .ofError := by
  rw [Call.answer, call_of_read asks, Message.method]
  cases session.phase.objection? .explore <;> rfl

/-- What comes of an action is the same for sessions that differ in documents only. -/
theorem outcome_of_reading {first second : Session} (same : first.reading = second.reading)
    (action : Action) : (first.explore action).1 = (second.explore action).1 := by
  have forget (session : Session) :
      (session.explore action).1 = (session.reading.explore action).1 := by
    rw [explore_of_reading]
  rw [forget first, same, ← forget second]

end Session

/-- **Completion and exploring are apart.** A completion that is taken is answered from the text
that the last opening or change left its document with, and from what greetings and loadings
brought. So in two runs in which greetings, loadings and calls to shut down, and the events about
the document, come in the same order, completions in the document are answered alike, whatever else
comes between; and in two runs in which greetings, loadings, calls to shut down and the actions of
the reader come in the same order, so are actions. -/
theorem completion_and_exploring_are_apart (options : LaunchOptions) :
    (∀ (calls : List Call) (asked : Call) (address : String) (line column : Nat),
      Message.read? asked.method asked.params = some (.complete address line column) →
      (Run.of options calls).session.phase = .greeted →
      asked.answer (Run.of options calls).session = .ofResult (Session.completionJson
        (offersAt
          (((eventsOf options calls).filter Event.isSetup).foldl Session.after
            (.start options)).schema?
          (latestText address (eventsOf options calls)) line column))) ∧
    (∀ (first second : List Call) (address : String),
      (eventsOf options first).filter (·.concerns address) =
        (eventsOf options second).filter (·.concerns address) →
      ∀ (asked again : Call) (line column : Nat),
        Message.read? asked.method asked.params = some (.complete address line column) →
        Message.read? again.method again.params = some (.complete address line column) →
        asked.answer (Run.of options first).session =
          again.answer (Run.of options second).session) ∧
    ∀ first second : List Call,
      (eventsOf options first).filter Event.isForReader =
        (eventsOf options second).filter Event.isForReader →
      ∀ (asked again : Call) (action : Action),
        Message.read? asked.method asked.params = some (.explore action) →
        Message.read? again.method again.params = some (.explore action) →
        asked.answer (Run.of options first).session =
          again.answer (Run.of options second).session := by
  refine ⟨?_, ?_, ?_⟩
  · intro calls asked address line column asks greeted
    rw [Session.answer_of_complete asks, greeted, ← Session.schema_of_run,
      ← Session.document_of_run]
    rfl
  · intro first second address agree asked again line column asks asksAgain
    have setup : (eventsOf options first).filter Event.isSetup =
        (eventsOf options second).filter Event.isSetup := by
      rw [← setup_of_concerns address, agree, setup_of_concerns]
    have phase : (Run.of options first).session.phase = (Run.of options second).session.phase := by
      rw [Session.phase_of_run, setup, ← Session.phase_of_run]
    have schema : (Run.of options first).session.schema? =
        (Run.of options second).session.schema? := by
      rw [Session.schema_of_run, setup, ← Session.schema_of_run]
    have text : (Run.of options first).session.document? address =
        (Run.of options second).session.document? address := by
      rw [Session.document_of_run, ← latestText_of_concerns, agree, latestText_of_concerns,
        ← Session.document_of_run]
    rw [Session.answer_of_complete asks, Session.answer_of_complete asksAgain, phase, schema, text]
  · intro first second agree asked again action asks asksAgain
    have same : (Run.of options first).session.reading =
        (Run.of options second).session.reading := by
      rw [Session.reading_of_run, agree, ← Session.reading_of_run]
    have phase : (Run.of options first).session.phase = (Run.of options second).session.phase := by
      change (Session.reading _).phase = (Session.reading _).phase
      rw [same]
    rw [Session.answer_of_explore asks, Session.answer_of_explore asksAgain, phase,
      Session.outcome_of_reading same]

/-! ## Two runs with other traffic -/

private def queryText : String :=
  "\x7b\"__schema\":\x7b\"queryType\":\x7b\"name\":\"Q\"\x7d," ++
    "\"types\":[\x7b\"kind\":\"OBJECT\",\"name\":\"Q\"\x7d]\x7d\x7d"

private def queryType : NamedType := ⟨"Q", .object, none, [], [], [], [], []⟩

private def querySchema : Schema := ⟨none, some "Q", none, none, .ofList [queryType]⟩

private theorem queryText_describes : Introspection.parse queryText = .ok querySchema := by
  decide +kernel

private def queryOptions : LaunchOptions := ⟨none, some ⟨"schema.json"⟩⟩

private def queryFiles : FileSystem := fun _ => .ok (.file queryText.toUTF8)

private def queryCall (method : Method) (params : Json) : Call :=
  ⟨queryFiles, ⟨none, none⟩, method, params⟩

private def greeting : Call := .greet queryFiles ⟨none, none⟩

private def loading : Call := .ready queryFiles ⟨none, none⟩

/-- The record of a document that is opened. -/
private def documentRecord (address text : String) : Json :=
  .ofMembers [("uri", some (.ofText address)), ("languageId", some (.ofText "graphql")),
    ("version", some (.ofInt 1)), ("text", some (.ofText text))]

private def opening (address text : String) : Call :=
  queryCall .didOpen (.ofMembers [("textDocument", some (documentRecord address text))])

/-- A completion behind the first two characters of a document. -/
private def asking : Call := queryCall .complete (.ofMembers [
  ("textDocument", some (.ofMembers [("uri", some (.ofText "a:b"))])),
  ("position", some (.ofMembers [("line", some (.ofInt 0)), ("character", some (.ofInt 2))]))])

private def lookingAround : Call :=
  queryCall .explore (.object [(some "action", .object [(some "kind", .ofText "reset")])])

open String in
/-- A single digit is read as the number that it is. -/
private theorem int_of_digit (c : Char) (digit : c.isDigit = true) :
    (Json.number (String.singleton c)).int? = some (Int.ofNat (c.toNat - '0'.toNat)) := by
  have other : c ≠ '_' := by rintro rfl; exact absurd digit (by decide)
  have positive : c ≠ '-' := by rintro rfl; exact absurd digit (by decide)
  have plain : (String.singleton c).toSlice.dropPrefix? '-' = none := by
    rw [Slice.dropPrefix?_eq_none_iff, Slice.startsWith_char_eq_head?]
    simp [positive]
  simp [Json.int?, String.toInt?, Slice.toInt?, plain, Slice.toNat?, Slice.isNat,
    Slice.forIn_eq_forIn_toList, Slice.foldl_eq_foldl_toList, other, digit]

private theorem position_of {first second line column : Json}
    (isLine : Completion.unsigned first = some line)
    (isColumn : Completion.unsigned second = some column) :
    Completion.position (.ofMembers [("line", some first), ("character", some second)]) =
      some (.ofMembers [("line", some line), ("character", some column)]) := by
  simp [Completion.position, Json.Shape.recordOf, Json.ofMembers, Json.record?,
    Json.Record.required, Json.Record.get?, isLine, isColumn]

private theorem document_of_record (address text : String) :
    Message.document (documentRecord address text) = some (documentRecord address text) := by
  have one : (Json.ofInt 1).int? = some 1 := int_of_digit '1' rfl
  have version : Completion.signed (.ofInt 1) = some (.ofInt 1) := by
    simp [Completion.signed, Json.Shape.integer, one]
  simp [Message.document, documentRecord, Json.Shape.recordOf, Json.ofMembers, Json.record?,
    Json.Record.required, Json.Record.get?, Json.Shape.text, Json.text?, Json.ofText, version]

private theorem event_of_opening {address : String} (text : String)
    (normal : (Message.uri? (.ofText address)).map (·.text) = some address) :
    (opening address text).event? .greeted = some (.wrote address (some text)) := by
  have spelled : Message.address? (documentRecord address text) = some address := by
    obtain ⟨uri, read, rfl⟩ := Option.map_eq_some_iff.mp normal
    change (Message.uri? _).bind _ = _
    rw [read]
    rfl
  have read : Message.read? (opening address text).method (opening address text).params =
      some (.opened address text) := by
    change (Message.document _).bind _ = _
    rw [document_of_record, Option.bind_some, spelled]
    rfl
  rw [Call.event?, Phase.accept_of_read read]
  rfl

private theorem asking_asks :
    Message.read? asking.method asking.params = some (.complete "a:b" 0 2) := by
  have document : (asking.params.member? "textDocument").bind Message.identifier =
      some (.ofMembers [("uri", some (.ofText "a:b"))]) := rfl
  have zero : (Json.ofInt 0).int? = some 0 := int_of_digit '0' rfl
  have two : (Json.ofInt 2).int? = some 2 := int_of_digit '2' rfl
  have line : Completion.unsigned (.ofInt 0) = some (.ofInt 0) := by
    simp [Completion.unsigned, Json.Shape.integer, zero]
  have column : Completion.unsigned (.ofInt 2) = some (.ofInt 2) := by
    simp [Completion.unsigned, Json.Shape.integer, two]
  have given : asking.params.member? "position" =
      some (.ofMembers [("line", some (.ofInt 0)), ("character", some (.ofInt 2))]) := rfl
  have address : Message.address? (.ofMembers [("uri", some (.ofText "a:b"))]) = some "a:b" := by
    decide +kernel
  change Message.complete? _ = _
  simp only [Message.complete?, Option.bind_eq_bind, ← Option.bind_assoc, document, given,
    Option.bind_some, position_of line column, address]
  simp [Json.member?, Json.members, Json.ofMembers, zero, two]

private theorem looking_asks :
    Message.read? lookingAround.method lookingAround.params = some (.explore .reset) := rfl

/-- Calls that are taken do what they do one by one, as long as none of them stops the session. -/
private theorem events_of_taken {calls : List Call} {events : List Event}
    (taken : List.Forall₂ (fun call event => call.event? .greeted = some event ∧ event ≠ .stopped)
      calls events) {session : Session} (phase : session.phase = .greeted) :
    session.events calls = events := by
  induction taken generalizing session with
  | nil => rfl
  | @cons call event calls events first _ ih =>
    obtain ⟨does, goesOn⟩ := first
    have next : call.session session = session.after event := by
      rw [Session.session_of_event, phase, does]
      rfl
    have later : (session.after event).phase = .greeted := by
      cases event with
      | stopped => exact absurd rfl goesOn
      | greeted workspace schema => rfl
      | loaded files environment => exact phase
      | wrote address text => cases text <;> exact phase
      | explored action =>
        obtain ⟨explorer, same⟩ := session.after_explored action
        rw [same]
        exact phase
    rw [Session.events, phase, does, next, ih later]
    rfl

/-- A run with a second document and a look at the panel in front, and one with the look in
between and no other document. -/
theorem completion_apart_from_other_document :
    let first := [greeting, loading, opening "c:d" "", lookingAround, opening "a:b" "\x7b "]
    let second := [greeting, loading, opening "a:b" "\x7b ", lookingAround]
    ((eventsOf queryOptions first).filter (·.concerns "a:b") =
        (eventsOf queryOptions second).filter (·.concerns "a:b") ∧
      (eventsOf queryOptions first).filter Event.isForReader =
        (eventsOf queryOptions second).filter Event.isForReader) ∧
    asking.answer (Run.of queryOptions first).session =
      .ofResult (.array [(Completion.typenameItem queryType).toJson]) ∧
    asking.answer (Run.of queryOptions first).session =
      asking.answer (Run.of queryOptions second).session ∧
    lookingAround.answer (Run.of queryOptions first).session =
      lookingAround.answer (Run.of queryOptions second).session := by
  intro first second
  obtain ⟨told, alike, shown⟩ := completion_and_exploring_are_apart queryOptions
  have ready : loading.event? .greeted = some (.loaded queryFiles ⟨none, none⟩) := rfl
  have look : lookingAround.event? .greeted = some (.explored .reset) := by
    rw [Call.event?, Phase.accept_of_read looking_asks]
    rfl
  have openA : (opening "a:b" "\x7b ").event? .greeted = some (.wrote "a:b" (some "\x7b ")) :=
    event_of_opening _ (by decide +kernel)
  have openC : (opening "c:d" "").event? .greeted = some (.wrote "c:d" (some "")) :=
    event_of_opening _ (by decide +kernel)
  have begins (rest : List Call) : eventsOf queryOptions (greeting :: rest) =
      .greeted none none :: (Session.greeted queryOptions).events rest := rfl
  have firstEvents : eventsOf queryOptions first =
      [.greeted none none, .loaded queryFiles ⟨none, none⟩, .wrote "c:d" (some ""),
        .explored .reset, .wrote "a:b" (some "\x7b ")] := by
    rw [begins, events_of_taken _ rfl]
    exact .cons ⟨ready, nofun⟩ (.cons ⟨openC, nofun⟩ (.cons ⟨look, nofun⟩
      (.cons ⟨openA, nofun⟩ .nil)))
  have secondEvents : eventsOf queryOptions second =
      [.greeted none none, .loaded queryFiles ⟨none, none⟩, .wrote "a:b" (some "\x7b "),
        .explored .reset] := by
    rw [begins, events_of_taken _ rfl]
    exact .cons ⟨ready, nofun⟩ (.cons ⟨openA, nofun⟩ (.cons ⟨look, nofun⟩ .nil))
  have about : (eventsOf queryOptions first).filter (·.concerns "a:b") =
      (eventsOf queryOptions second).filter (·.concerns "a:b") := by
    rw [firstEvents, secondEvents]
    rfl
  have forReader : (eventsOf queryOptions first).filter Event.isForReader =
      (eventsOf queryOptions second).filter Event.isForReader := by
    rw [firstEvents, secondEvents]
    rfl
  have setup : (eventsOf queryOptions first).filter Event.isSetup =
      [.greeted none none, .loaded queryFiles ⟨none, none⟩] := by
    rw [firstEvents]
    rfl
  have text : latestText "a:b" (eventsOf queryOptions first) = some "\x7b " := by
    rw [firstEvents]
    rfl
  have loaded : ((Session.greeted queryOptions).load queryFiles ⟨none, none⟩).1.schema? =
      some querySchema := by
    rw [load_of_text rfl rfl rfl rfl queryText_describes]
    rfl
  have greeted : (Run.of queryOptions first).session.phase = .greeted := by
    rw [Session.phase_of_run, setup]
    rfl
  refine ⟨⟨about, forReader⟩, ?_, alike first second "a:b" about asking asking 0 2 asking_asks
    asking_asks, shown first second forReader lookingAround lookingAround .reset looking_asks
    looking_asks⟩
  rw [told first asking "a:b" 0 2 asking_asks greeted, setup, text]
  change Answer.ofResult (Session.completionJson (offersAt
    ((Session.greeted queryOptions).load queryFiles ⟨none, none⟩).1.schema? _ _ _)) = _
  rw [loaded]
  rfl

end SchemaGuide
