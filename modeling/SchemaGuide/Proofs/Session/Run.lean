import SchemaGuide.Proofs.Explorer.Guard
import SchemaGuide.Session.Answer

/-! Runs of a session: an editor calls methods in any order, with any parameters, and the
files may be others at each call. Together with the session, a run keeps the panel that the
editor was shown last. Of all that a call can do, an explorer notices three things only. -/
namespace SchemaGuide

/-- A call of an editor, with the files and the directories of the user as they are then. -/
structure Call where
  files : FileSystem
  environment : Settings.Environment
  method : Method
  params : Json

namespace Call

/-- The session after a call. -/
def session (call : Call) (before : Session) : Session :=
  (before.call call.files call.environment call.method call.params).1

/-- The panel that a call shows. -/
def panel? (call : Call) (before : Session) : Option Explorer.Panel :=
  match before.phase.accept call.method call.params with
  | .ok (.explore action) =>
    match (before.explore action).1 with
    | .ok panel => panel
    | .error _ => none
  | _ => none

end Call

/-- A session with the panel that was shown last, if there was one. -/
structure Run where
  session : Session
  shown : Option Explorer.Panel

namespace Run

/-- The run after one more call. -/
def step (run : Run) (call : Call) : Run where
  session := call.session run.session
  shown := (call.panel? run.session).or run.shown

/-- The run of a session through calls. -/
def of (options : LaunchOptions) (calls : List Call) : Run :=
  calls.foldl step ⟨.start options, none⟩

/-- What holds at the start and is kept by each call holds in every run. -/
theorem of_induction {holds : Run → Prop} (options : LaunchOptions)
    (start : holds ⟨.start options, none⟩) (step : ∀ run call, holds run → holds (run.step call))
    (calls : List Call) : holds (of options calls) := by
  rw [of]
  generalize (⟨.start options, none⟩ : Run) = run at start
  induction calls generalizing run with
  | nil => exact start
  | cons call rest ih => exact ih _ (step run call start)

end Run

namespace Session

/-- An action that is done moves the explorer and renders it. -/
theorem explore_cases {session after : Session} {action : Explorer.Action}
    {panel : Option Explorer.Panel} (done : session.explore action = (.ok panel, after)) :
    ∃ acted, session.explorer.act session.source action = (.ok (), acted) ∧
      panel = (acted.render session.source).1 ∧
      after = { session with explorer := (acted.render session.source).2 } := by
  rw [explore] at done
  split at done
  · cases done
  · rename_i acted moved
    cases done
    exact ⟨acted, moved, rfl, rfl⟩

/-- An action that is refused leaves the session as it is. -/
theorem session_of_refused {session after : Session} {action : Explorer.Action}
    {error : Explorer.ActionError} (refused : session.explore action = (.error error, after)) :
    after = session := by
  rw [explore] at refused
  split at refused
  · rename_i explorer stuck
    obtain rfl := Explorer.DocExplorer.explorer_of_refused stuck
    exact (congrArg Prod.snd refused).symm
  · cases refused

/-- After an action, the guard holds what the panel is made from. -/
theorem guard_of_explore {session after : Session} {action : Explorer.Action}
    {panel : Option Explorer.Panel} (done : session.explore action = (.ok panel, after)) :
    after.explorer.guard.last =
      some (Explorer.Snapshot.of after.source after.explorer.history) := by
  obtain ⟨acted, _, _, rfl⟩ := explore_cases done
  rfl

/-- What a call can do to what an explorer works with, and the panel that it shows. -/
inductive Change (before : Session) : Session → Option Explorer.Panel → Prop where
  /-- Explorer, schema and settings stay. -/
  | kept {after : Session} (settings : after.settings = before.settings)
      (source : after.source = before.source) (loads : after.loads = before.loads)
      (explorer : after.explorer = before.explorer) : Change before after none
  /-- Settings and schema are loaded. -/
  | loaded {after : Session} (outcome : SchemaOutcome)
      (source : after.source = outcome.source before.loads)
      (loads : after.loads = before.loads + 1)
      (explorer : after.explorer =
        { before.explorer with searchLimit := after.settings.searchLimit }) :
      Change before after none
  /-- An action is done. -/
  | explored {after : Session} {panel : Option Explorer.Panel} (action : Explorer.Action)
      (done : before.explore action = (.ok panel, after)) : Change before after panel

/-- A call changes a session in one of these ways. -/
theorem change_of_call (before : Session) (call : Call) :
    Change before (call.session before) (call.panel? before) := by
  rw [Call.session, Call.panel?, Session.call]
  cases before.phase.accept call.method call.params with
  | error error => exact .kept rfl rfl rfl rfl
  | ok message =>
    cases message with
    | greeting workspace schema => exact .kept rfl rfl rfl rfl
    | ready => exact .loaded _ rfl rfl rfl
    | opened address text => exact .kept rfl rfl rfl rfl
    | changed address text => cases text <;> exact .kept rfl rfl rfl rfl
    | closed address => exact .kept rfl rfl rfl rfl
    | complete address line column => exact .kept rfl rfl rfl rfl
    | resolve item => exact .kept rfl rfl rfl rfl
    | shutdown bare => exact .kept rfl rfl rfl rfl
    | explore action =>
      rcases done : before.explore action with ⟨error | panel, after⟩
      · have refused : before.Change after none := by
          rw [session_of_refused done]
          exact .kept rfl rfl rfl rfl
        simpa [receive, done] using refused
      · simpa [receive, done] using Change.explored action done

end Session

/-! ## Messages that are taken -/

/-- The method that a message is read from. -/
def Message.method : Message → Method
  | .greeting _ _ => .greet
  | .ready => .ready
  | .opened _ _ => .didOpen
  | .changed _ _ => .didChange
  | .closed _ => .didClose
  | .complete _ _ _ => .complete
  | .resolve _ => .resolve
  | .explore _ => .explore
  | .shutdown _ => .shutdown

/-- A message tells its method. -/
theorem Message.method_of_read {method : Method} {params : Json} {message : Message}
    (read : Message.read? method params = some message) : message.method = method := by
  cases method with
  | greet =>
    obtain ⟨capabilities, _, given⟩ := Option.bind_eq_some_iff.mp read
    cases capabilities with
    | object members =>
      obtain ⟨workspace, _, made⟩ := Option.bind_eq_some_iff.mp given
      cases made
      rfl
    | null | bool _ | number _ | string _ | array _ => cases given
  | ready =>
    obtain ⟨record, _, rfl⟩ := Option.map_eq_some_iff.mp read
    rfl
  | didOpen =>
    simp only [read?, opened?, Option.bind_eq_bind, Option.bind_eq_some_iff] at read
    grind [Message.method]
  | didChange =>
    simp only [read?, changed?, Option.bind_eq_bind, Option.bind_eq_some_iff] at read
    grind [Message.method]
  | didClose =>
    simp only [read?, closed?, Option.bind_eq_bind, Option.bind_eq_some_iff,
      Option.map_eq_some_iff] at read
    grind [Message.method]
  | complete =>
    simp only [read?, complete?, Option.bind_eq_bind, Option.bind_eq_some_iff] at read
    grind [Message.method]
  | resolve =>
    obtain ⟨item, _, rfl⟩ := Option.map_eq_some_iff.mp read
    rfl
  | explore =>
    obtain ⟨_, _, asked⟩ := Option.bind_eq_some_iff.mp read
    obtain ⟨action, _, rfl⟩ := Option.map_eq_some_iff.mp asked
    rfl
  | shutdown =>
    obtain rfl := Option.some.inj read
    cases params <;> rfl

/-- A message that can be read is taken unless its method is out of phase. -/
theorem Phase.accept_of_read {method : Method} {params : Json} {message : Message}
    (read : Message.read? method params = some message) (phase : Phase) :
    phase.accept method params = (phase.objection? message.method).elim (.ok message) .error := by
  rw [accept, Message.method_of_read read, read]
  cases phase.objection? method <;> rfl

/-- The call of such a message does what the message asks, and nothing if it is not taken. -/
theorem Session.call_of_read {call : Call} {message : Message}
    (read : Message.read? call.method call.params = some message) (session : Session) :
    session.call call.files call.environment call.method call.params =
      (session.phase.objection? message.method).elim
        (session.receive call.files call.environment message)
        fun error => (session, .ofFailure message.method error) := by
  rw [Session.call, Phase.accept_of_read read, Message.method_of_read read]
  cases session.phase.objection? call.method <;> rfl

/-! ## How a run begins -/

namespace Call

/-- The call of an editor that greets a session and tells nothing of a workspace or a schema. -/
def greet (files : FileSystem) (environment : Settings.Environment) : Call :=
  ⟨files, environment, .greet, .object [(some "capabilities", .object [])]⟩

/-- The call of an editor that is ready. -/
def ready (files : FileSystem) (environment : Settings.Environment) : Call :=
  ⟨files, environment, .ready, .object []⟩

end Call

namespace Session

/-- The session of a launch once it is greeted, if nothing is told at that. -/
def greeted (options : LaunchOptions) : Session := { start options with phase := .greeted }

/-- A greeted session loads when the editor is ready. -/
theorem session_of_ready {before : Session} (phase : before.phase = .greeted) (files : FileSystem)
    (environment : Settings.Environment) :
    (Call.ready files environment).session before = (before.load files environment).1 := by
  rw [Call.session, call, phase]
  rfl

end Session

namespace Run

/-- A run that begins with a greeting and a loading goes on from what was loaded. -/
theorem of_begun (options : LaunchOptions) (files others : FileSystem)
    (environment : Settings.Environment) (rest : List Call) :
    of options (.greet files environment :: .ready others environment :: rest) =
      rest.foldl step ⟨((Session.greeted options).load others environment).1, none⟩ := rfl

end Run
end SchemaGuide
