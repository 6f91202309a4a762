import SchemaGuide.Proofs.Overlay.Latest

/-! The end of an invocation. Of all the reports that a controller is given between two
invocations, whether true, replayed or forged, at most one tears a session down: one that names
the list of the session among the nodes removed from the watched parent. From then on the
controller rests, whatever it is called for and whatever the host does meanwhile. -/
namespace SchemaGuide.Overlay

/-! ## Operations -/

namespace ControllerOperation

/-- Whether the controller answers that the operation tore its session down. -/
def tearsDown (controller : Controller) (surface : Surface) : ControllerOperation → Bool
  | .observe removal => (controller.observe surface removal).1
  | .select _ _ | .beginInvocation => false

/-- The node that the owner of the controller is told of. -/
def told? (controller : Controller) (surface : Surface) : ControllerOperation → Option NodeId
  | .select suggestion list => (controller.select surface suggestion list).2.2
  | .observe _ | .beginInvocation => none

/-- Nothing comes of the operation. -/
structure Rests (operation : ControllerOperation) (controller : Controller) (surface : Surface) :
    Prop where
  stays : (operation.perform controller surface).1 = controller
  leaves : (operation.perform controller surface).2 = surface
  silent : operation.told? controller surface = none
  denies : operation.tearsDown controller surface = false

end ControllerOperation

variable {controller : Controller} {surface : Surface} {operation : ControllerOperation}

/-- A report tears down the session whose list it names, at the parent that the session
watches. -/
theorem observe_tearsDown_iff {removal : Removal} :
    (controller.observe surface removal).1 = true ↔
      ∃ session ∈ controller.session?,
        removal.target = session.watch.target ∧ session.container ∈ removal.removed := by
  rw [Controller.observe_eq]
  cases shown : controller.session? with
  | none => simp [Controller.ended?, shown]
  | some session =>
    have member : session ∈ controller.session? := shown
    rw [Controller.ended_of_session member]
    simp [Controller.Session.endsWith]

theorem destroyed_of_tearsDown (torn : operation.tearsDown controller surface = true) :
    (operation.perform controller surface).1.state = .destroyed := by
  cases operation with
  | select suggestion list => cases torn
  | beginInvocation => cases torn
  | observe removal =>
    have torn : (controller.observe surface removal).1 = true := torn
    rw [Controller.observe_eq] at torn
    rw [ControllerOperation.perform, Controller.observe_eq, Controller.settled, if_pos torn]

/-- After a teardown, a controller rests until an invocation begins. -/
theorem rests_of_destroyed (destroyed : controller.state = .destroyed)
    (within : operation ≠ .beginInvocation) : operation.Rests controller surface := by
  obtain ⟨setup, state⟩ := controller
  obtain rfl : state = .destroyed := destroyed
  cases operation with
  | select suggestion list => exact ⟨rfl, rfl, rfl, rfl⟩
  | observe removal => exact ⟨rfl, rfl, rfl, rfl⟩
  | beginInvocation => exact absurd rfl within

/-! ## Runs -/

namespace World

/-- The controller at the index tore its session down, and no invocation began since. -/
def Finished (world : World) (index : Nat) : Prop :=
  ∃ controller, world.controllers[index]? = some controller ∧ controller.state = .destroyed

/-- Whether the controller at the index answers that the operation tore its session down. -/
def tearsDown (world : World) (index : Nat) : Operation → Bool
  | .controller called operation =>
    called == index && world.controllers[index]?.any (operation.tearsDown · world.surface)
  | .host _ => false

/-- How often in a run the controller at the index answers that its session was torn down. -/
def teardowns (world : World) (index : Nat) : List Operation → Nat
  | [] => 0
  | operation :: rest =>
    (world.tearsDown index operation).toNat + (world.perform operation).teardowns index rest

variable {world : World} {index : Nat} {operation : Operation}

theorem after_append (world : World) (first second : List Operation) :
    world.after (first ++ second) = (world.after first).after second :=
  List.foldl_append

theorem finished_of_tearsDown (torn : world.tearsDown index operation = true) :
    (world.perform operation).Finished index := by
  cases operation with
  | host operation => cases torn
  | controller called operation =>
    rw [tearsDown, Bool.and_eq_true, beq_iff_eq] at torn
    obtain ⟨rfl, torn⟩ := torn
    obtain ⟨controller, here, torn⟩ := (Option.any_eq_true _ _).mp torn
    obtain ⟨inside, _⟩ := List.getElem?_eq_some_iff.mp here
    rw [perform_controller here]
    exact ⟨_, List.getElem?_set_self inside, destroyed_of_tearsDown torn⟩

theorem Finished.perform (finished : world.Finished index)
    (within : operation ≠ .controller index .beginInvocation) :
    (world.perform operation).Finished index := by
  obtain ⟨controller, here, destroyed⟩ := finished
  cases operation with
  | host operation => exact ⟨controller, here, destroyed⟩
  | controller called operation =>
    cases there : world.controllers[called]? with
    | none => exact ⟨controller, by simpa [World.perform, there] using here, destroyed⟩
    | some other =>
      rw [perform_controller there]
      by_cases own : called = index
      · subst own
        obtain rfl : controller = other := Option.some.inj (here.symm.trans there)
        obtain ⟨inside, _⟩ := List.getElem?_eq_some_iff.mp here
        have rests : operation.Rests controller world.surface :=
          rests_of_destroyed destroyed fun begins => within (by rw [begins])
        exact ⟨_, List.getElem?_set_self inside, by rw [rests.stays, destroyed]⟩
      · exact ⟨controller, by simpa [List.getElem?_set_ne own] using here, destroyed⟩

theorem Finished.after (finished : world.Finished index) {operations : List Operation}
    (within : .controller index .beginInvocation ∉ operations) :
    (world.after operations).Finished index := by
  induction operations generalizing world with
  | nil => exact finished
  | cons operation rest ih =>
    obtain ⟨first, others⟩ := List.ne_and_not_mem_of_not_mem_cons within
    exact ih (finished.perform (Ne.symm first)) others

theorem Finished.tearsDown_eq_false (finished : world.Finished index) :
    world.tearsDown index operation = false := by
  obtain ⟨controller, here, destroyed⟩ := finished
  cases operation with
  | host operation => rfl
  | controller called operation =>
    have none : operation.tearsDown controller world.surface = false := by
      cases operation with
      | select suggestion list => rfl
      | beginInvocation => rfl
      | observe removal =>
        have within : ControllerOperation.observe removal ≠ .beginInvocation := nofun
        exact (rests_of_destroyed destroyed within).denies
    simp [tearsDown, here, none]

theorem Finished.teardowns (finished : world.Finished index) {operations : List Operation}
    (within : .controller index .beginInvocation ∉ operations) :
    world.teardowns index operations = 0 := by
  induction operations generalizing world with
  | nil => rfl
  | cons operation rest ih =>
    obtain ⟨first, others⟩ := List.ne_and_not_mem_of_not_mem_cons within
    rw [World.teardowns, finished.tearsDown_eq_false, ih (finished.perform (Ne.symm first)) others]
    rfl

/-- Within one invocation there is at most one teardown. -/
theorem teardowns_le_one (world : World) {invocation : List Operation}
    (within : .controller index .beginInvocation ∉ invocation) :
    world.teardowns index invocation ≤ 1 := by
  induction invocation generalizing world with
  | nil => exact Nat.zero_le 1
  | cons operation rest ih =>
    obtain ⟨first, others⟩ := List.ne_and_not_mem_of_not_mem_cons within
    rw [teardowns]
    cases torn : world.tearsDown index operation with
    | false =>
      rw [Bool.toNat_false, Nat.zero_add]
      exact ih _ others
    | true =>
      have later := (finished_of_tearsDown torn).teardowns others
      exact Nat.le_of_eq (congrArg (1 + ·) later)

end World

/-- **A teardown happens once, and it is final.** Let operations of a host and of any controllers
be given, among which one controller begins no invocation. At most one report to that controller
is answered with a teardown. It names the watched parent of the session, with the list of the
session among the removed nodes. After it, nothing comes of whatever else the controller is
called for: the controller and the surface stay as they are, its owner is not told of anything,
and no other teardown is answered. -/
theorem teardown_is_final (setups : List Setup) (earlier : List Operation)
    {invocation : List Operation} {index : Nat}
    (within : .controller index .beginInvocation ∉ invocation) :
    ((World.start setups).after earlier).teardowns index invocation ≤ 1 ∧
    ∀ before removal later,
      invocation = before ++ .controller index (.observe removal) :: later →
      ∀ controller,
        ((World.start setups).after (earlier ++ before)).controllers[index]? = some controller →
        (controller.observe ((World.start setups).after (earlier ++ before)).surface removal).1 =
          true →
        (∃ session ∈ controller.session?,
          removal.target = session.watch.target ∧ session.container ∈ removal.removed) ∧
        ∀ between operation rest, later = between ++ .controller index operation :: rest →
          let world := (World.start setups).after
            (earlier ++ before ++ .controller index (.observe removal) :: between)
          ∃ final, world.controllers[index]? = some final ∧ final.state = .destroyed ∧
            operation.Rests final world.surface := by
  refine ⟨World.teardowns_le_one _ within, ?_⟩
  rintro before removal later rfl controller here torn
  refine ⟨observe_tearsDown_iff.mp torn, ?_⟩
  rintro between operation rest rfl
  have down : ((World.start setups).after (earlier ++ before)).tearsDown index
      (.controller index (.observe removal)) = true := by
    simpa [World.tearsDown, here, ControllerOperation.tearsDown] using torn
  have quiet : .controller index .beginInvocation ∉ between := fun begins =>
    within (by simp [begins])
  have goesOn : operation ≠ .beginInvocation := by
    rintro rfl
    exact within (by simp)
  rw [World.after_append, World.after, List.foldl_cons]
  obtain ⟨final, there, destroyed⟩ := (World.finished_of_tearsDown down).after quiet
  exact ⟨final, there, destroyed, rests_of_destroyed destroyed goesOn⟩

/-- The first of three overlays hears of another list, then of its own among several, and then
of its own again. After that, something is selected in the other list. -/
private def replayed : List Operation :=
  [.controller 0 (.observe ⟨0, [2]⟩), .host (.removeChild 0 1),
    .controller 0 (.observe ⟨0, [2, 1]⟩), .controller 0 (.observe ⟨0, [1]⟩),
    .host (.append 0 1), .controller 0 (.select (.ofLabel "name") 2)]

theorem teardown_is_final_when_replayed :
    .controller 0 .beginInvocation ∉ replayed ∧
    ((World.start (List.replicate 3 (.standard id))).after threeOverlays).teardowns 0 replayed
      = 1 ∧
    ∃ world final, (World.start (List.replicate 3 (.standard id))).after
        (threeOverlays ++ replayed.take 5) = world ∧
      world.controllers[0]? = some final ∧ final.state = .destroyed ∧
      (ControllerOperation.select (.ofLabel "name") 2).Rests final world.surface := by
  have within : .controller 0 .beginInvocation ∉ replayed := by simp [replayed]
  obtain ⟨once, final⟩ :=
    teardown_is_final (List.replicate 3 (.standard id)) threeOverlays within
  have torn : ∃ controller,
      ((World.start (List.replicate 3 (.standard id))).after
        (threeOverlays ++ replayed.take 2)).controllers[0]? = some controller ∧
      (controller.observe ((World.start (List.replicate 3 (.standard id))).after
        (threeOverlays ++ replayed.take 2)).surface ⟨0, [2, 1]⟩).1 = true :=
    ⟨_, rfl, by decide⟩
  obtain ⟨controller, here, torn⟩ := torn
  obtain ⟨-, rests⟩ :=
    final (replayed.take 2) ⟨0, [2, 1]⟩ (replayed.drop 3) rfl controller here torn
  obtain ⟨controller, there, destroyed, rests⟩ := rests [_, _] _ [] rfl
  have some : 0 < ((World.start (List.replicate 3 (.standard id))).after threeOverlays).teardowns 0
      replayed := by decide
  exact ⟨within, Nat.le_antisymm once some, _, controller, rfl, there, destroyed, rests⟩

end SchemaGuide.Overlay
