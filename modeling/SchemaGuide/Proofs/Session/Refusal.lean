import SchemaGuide.Proofs.Session.Following

/-! Steps that are refused. A step to a member is refused if no schema is loaded, or if the schema
of now lacks the type, the field or the argument that it names; nothing else is. A refused step
leaves the session as it is, so that no later answer, be it the panel or its absence after a look
at it, tells that there was one. -/
namespace SchemaGuide

open Explorer

namespace Explorer

/-- The schema lacks what an action names: the type, the field of it or the argument of that. -/
inductive Lacks (schema : Schema) : Action → Prop where
  | type {name : String} (missing : schema.type? name = none) : Lacks schema (.openType name)
  | fieldOwner {owner name : String} (missing : schema.type? owner = none) :
    Lacks schema (.openField owner name)
  | field {owner name : String} {type : NamedType} (found : schema.type? owner = some type)
    (missing : type.field? name = none) : Lacks schema (.openField owner name)
  | argumentOwner {owner field name : String} (missing : schema.type? owner = none) :
    Lacks schema (.openArgument owner field name)
  | argumentField {owner field name : String} {type : NamedType}
    (found : schema.type? owner = some type) (missing : type.field? field = none) :
    Lacks schema (.openArgument owner field name)
  | argument {owner field name : String} {type : NamedType} {declared : Field}
    (found : schema.type? owner = some type) (declares : type.field? field = some declared)
    (missing : declared.argument? name = none) : Lacks schema (.openArgument owner field name)

/-- Why a step to a member is refused, where that schema is loaded if any is. -/
inductive Refuses : Option Schema → Action → ActionError → Prop where
  | noSchema {action : Action} (step : action.member?.isSome) : Refuses none action .noSchema
  | unknownMember {schema : Schema} {action : Action} (lacks : Lacks schema action) :
    Refuses (some schema) action (.unknownMember action)

variable {schema : Schema} {action : Action}

/-- A step that leads nowhere is one to something that the schema lacks. -/
theorem lacks_iff : Lacks schema action ↔ action.member?.isSome ∧ action.target? schema = none := by
  constructor
  · rintro (missing | missing | ⟨found, missing⟩ | missing | ⟨found, missing⟩ |
      ⟨found, declares, missing⟩)
    · simp [Action.member?, Action.target?, Schema.type_definition, missing]
    · simp [Action.member?, Action.target?, Schema.field_definition, missing]
    · simp [Action.member?, Action.target?, Schema.field_definition, found, missing]
    · simp [Action.member?, Action.target?, Schema.argument_definition, missing]
    · simp [Action.member?, Action.target?, Schema.argument_definition, found, missing]
    · simp [Action.member?, Action.target?, Schema.argument_definition, found, declares, missing]
  · rintro ⟨step, nowhere⟩
    cases action with
    | refresh | reset | pop | search term => cases step
    | openType name =>
      rw [Action.target?, Schema.type_definition, Option.map_eq_none_iff] at nowhere
      exact .type nowhere
    | openField owner name =>
      rw [Action.target?, Schema.field_definition] at nowhere
      cases found : schema.type? owner with
      | none => exact .fieldOwner found
      | some type =>
        rw [found, Option.bind_some, Option.map_eq_none_iff] at nowhere
        exact .field found nowhere
    | openArgument owner field name =>
      rw [Action.target?, Schema.argument_definition] at nowhere
      cases found : schema.type? owner with
      | none => exact .argumentOwner found
      | some type =>
        rw [found, Option.bind_some, Option.map_eq_none_iff] at nowhere
        cases declares : type.field? field with
        | none => exact .argumentField found declares
        | some declared =>
          rw [declares, Option.bind_some] at nowhere
          exact .argument found declares nowhere

theorem openTarget_eq_error_iff {explorer : DocExplorer} {source : Source} {error : ActionError}
    (step : action.member?.isSome) :
    (explorer.openTarget source action).1 = .error error ↔
      Refuses (source.schema?.map (·.value)) action error := by
  rw [DocExplorer.openTarget]
  cases given : source.schema? with
  | none =>
    constructor
    · intro refused
      obtain rfl := Except.error.inj refused
      exact .noSchema step
    · rintro ⟨⟩
      rfl
  | some loaded =>
    cases found : action.target? loaded.value with
    | none =>
      constructor
      · intro refused
        simp only [found] at refused
        obtain rfl := Except.error.inj refused
        exact .unknownMember (lacks_iff.mpr ⟨step, found⟩)
      · rintro ⟨⟩
        simp only [found]
    | some definition =>
      constructor
      · intro refused
        simp only [found] at refused
        cases refused
      · intro refuses
        cases refuses with
        | unknownMember lacks => cases found.symm.trans (lacks_iff.mp lacks).2

/-- An action that is no step to a member is never refused. -/
theorem step_of_refuses {loaded : Option Schema} {error : ActionError}
    (refuses : Refuses loaded action error) : action.member?.isSome := by
  cases refuses with
  | noSchema step => exact step
  | unknownMember lacks => exact (lacks_iff.mp lacks).1

theorem act_eq_error_iff {explorer : DocExplorer} {source : Source} {error : ActionError} :
    (explorer.act source action).1 = .error error ↔
      Refuses (source.schema?.map (·.value)) action error := by
  cases action with
  | openType name => exact openTarget_eq_error_iff rfl
  | openField owner name => exact openTarget_eq_error_iff rfl
  | openArgument owner field name => exact openTarget_eq_error_iff rfl
  | refresh | reset | pop | search term =>
    exact ⟨nofun, fun refuses => nomatch step_of_refuses refuses⟩

end Explorer

namespace Session

/-- An action is refused exactly if it is a step to what is not there. -/
theorem explore_eq_error_iff {session : Session} {action : Action} {error : ActionError} :
    (session.explore action).1 = .error error ↔ Refuses session.schema? action error := by
  have refuses : (session.explorer.act session.source action).1 = .error error ↔
      Refuses session.schema? action error := act_eq_error_iff
  rw [← refuses, explore]
  rcases session.explorer.act session.source action with ⟨other | _, explorer⟩
  · simp
  · simp

end Session

/-! ## Answers -/

/-- What a call is answered with. -/
def Call.answer (call : Call) (before : Session) : Answer :=
  (before.call call.files call.environment call.method call.params).2

/-- What calls are answered with, one after the other. -/
def Session.answers (session : Session) : List Call → List Answer
  | [] => []
  | call :: rest => call.answer session :: (call.session session).answers rest

namespace Session

theorem answers_append (session : Session) (first second : List Call) :
    session.answers (first ++ second) =
      session.answers first ++ (first.foldl (fun now call => call.session now) session).answers
        second := by
  induction first generalizing session with
  | nil => rfl
  | cons call rest ih => exact congrArg (call.answer session :: ·) (ih _)

theorem length_answers (session : Session) (calls : List Call) :
    (session.answers calls).length = calls.length := by
  induction calls generalizing session with
  | nil => rfl
  | cons call rest ih => exact congrArg (· + 1) (ih _)

/-- A refused step leaves the session as it is, and is answered with its reason if the session takes
steps at all. -/
theorem call_of_refused {session : Session} {call : Call} {action : Action} {error : ActionError}
    (asked : Message.read? call.method call.params = some (.explore action))
    (refused : (session.explore action).1 = .error error) :
    call.session session = session ∧
      (session.phase = .greeted → call.answer session = .ofError (.refused error)) := by
  have same : session.explore action = (.error error, session) :=
    Prod.ext refused (session_of_refused (Prod.ext refused rfl))
  have received : session.receive call.files call.environment (.explore action) =
      (session, .ofError (.refused error)) := by
    rw [receive, same]
    rfl
  rw [Call.session, Call.answer, call_of_read asked, received]
  cases phase : session.phase with
  | greeted => exact ⟨rfl, fun _ => rfl⟩
  | new | stopped =>
    refine ⟨rfl, fun greeted => ?_⟩
    cases greeted

end Session

/-- The session of a run, without what is shown. -/
theorem Run.session_of (options : LaunchOptions) (calls : List Call) :
    (Run.of options calls).session =
      calls.foldl (fun now call => call.session now) (.start options) := by
  rw [Run.of]
  generalize (none : Option Panel) = shown
  generalize Session.start options = session
  induction calls generalizing session shown with
  | nil => rfl
  | cons call rest ih => exact ih _ _

/-- **A refused step leaves no trace.** In every run, an action is refused exactly if it is a step
to a member while no schema is loaded, or to a type, field or argument that the schema lacks.
Then the session stays as it is, history, revision and guard included, and whatever is called
later is answered as in the run without the refused step. -/
theorem refused_step_leaves_no_trace (options : LaunchOptions) (earlier : List Call)
    {refused : Call} {action : Action}
    (asked : Message.read? refused.method refused.params = some (.explore action)) :
    let session := (Run.of options earlier).session
    ∀ error, ((session.explore action).1 = .error error ↔ Refuses session.schema? action error) ∧
      ((session.explore action).1 = .error error →
        (session.explore action).2 = session ∧ refused.session session = session ∧
        (session.phase = .greeted → refused.answer session = .ofError (.refused error)) ∧
        ∀ later, ((Session.start options).answers (earlier ++ refused :: later)).eraseIdx
            earlier.length =
          (Session.start options).answers (earlier ++ later)) := by
  intro session error
  refine ⟨Session.explore_eq_error_iff, fun rejected => ?_⟩
  obtain ⟨stays, answer⟩ := Session.call_of_refused asked rejected
  refine ⟨Session.session_of_refused (Prod.ext rejected rfl), stays, answer, fun later => ?_⟩
  have front : (Session.start options).answers (earlier ++ refused :: later) =
      (Session.start options).answers earlier ++
        refused.answer session :: session.answers later := by
    rw [Session.answers_append, ← Run.session_of, Session.answers, stays]
  have without : (Session.start options).answers (earlier ++ later) =
      (Session.start options).answers earlier ++ session.answers later := by
    rw [Session.answers_append, ← Run.session_of]
  have place := Session.length_answers (.start options) earlier
  rw [front, without, ← place, List.eraseIdx_append_of_length_le (Nat.le_refl _), Nat.sub_self,
    List.eraseIdx_zero, List.tail_cons]

/-! ## A step from a type without fields -/

private def dateText : String :=
  "\x7b\"__schema\":\x7b\"types\":[\x7b\"kind\":\"SCALAR\",\"name\":\"Date\"\x7d]\x7d\x7d"

private def dateType : NamedType := ⟨"Date", .scalar, none, [], [], [], [], []⟩

private def dateSchema : Schema := ⟨none, none, none, none, .ofList [dateType]⟩

private theorem dateText_describes : Introspection.parse dateText = .ok dateSchema := by
  decide +kernel

private def dateOptions : LaunchOptions := ⟨none, some ⟨"schema.json"⟩⟩

private def dateFiles : FileSystem := fun _ => .ok (.file dateText.toUTF8)

/-- The session is greeted, and the schema is loaded. -/
private def dateCalls : List Call :=
  [.greet dateFiles ⟨none, none⟩, .ready dateFiles ⟨none, none⟩]

private theorem date_loaded : (Run.of dateOptions dateCalls).session =
    { Session.greeted dateOptions with source := ⟨.loaded ⟨0, dateSchema⟩, none⟩, loads := 1 } := by
  rw [dateCalls, Run.of_begun]
  exact load_of_text rfl rfl rfl rfl dateText_describes

/-- A step to an argument of a field that the type does not have. -/
private def stepToNothing : Call where
  files := dateFiles
  environment := ⟨none, none⟩
  method := .explore
  params := .object [(some "action",
    .array [.ofText "openArgument", .ofText "Date", .ofText "day", .ofText "zone"])]

theorem refused_step_to_argument_leaves_no_trace :
    let session := (Run.of dateOptions dateCalls).session
    let step : Action := .openArgument "Date" "day" "zone"
    session.explore step = (.error (.unknownMember step), session) ∧
      stepToNothing.session session = session ∧
      stepToNothing.answer session = .ofError (.refused (.unknownMember step)) ∧
      ∀ later,
        ((Session.start dateOptions).answers (dateCalls ++ stepToNothing :: later)).eraseIdx 2 =
          (Session.start dateOptions).answers (dateCalls ++ later) := by
  intro session step
  have asked : Message.read? stepToNothing.method stepToNothing.params = some (.explore step) := rfl
  obtain ⟨refuses, traceless⟩ :=
    refused_step_leaves_no_trace dateOptions dateCalls asked (.unknownMember step)
  have found : dateSchema.type? "Date" = some dateType := rfl
  have loaded : session.schema? = some dateSchema := congrArg Session.schema? date_loaded
  have refused : (session.explore step).1 = .error (.unknownMember step) :=
    refuses.mpr (loaded ▸ .unknownMember (.argumentField found rfl))
  obtain ⟨kept, stays, answer, answers⟩ := traceless refused
  have phase : session.phase = .greeted := congrArg Session.phase date_loaded
  exact ⟨Prod.ext refused kept, stays, answer phase, answers⟩

end SchemaGuide
