import Mathlib.Data.List.Perm.Basic
import Mathlib.Logic.Relation
import SchemaGuide.Overlay.Controller

/-! A host and any number of overlay controllers on one surface. The host names only what it
made itself: its nodes, whether they are still there or not, and the watches that it holds.
The controllers are called with whatever lists and reports there are, in any order. -/
namespace SchemaGuide.Overlay

/-! ## Operations -/

/-- What a host does with a surface. -/
inductive HostOperation where
  | create (className : String)
  | append (parent child : NodeId)
  | removeChild (parent child : NodeId)
  | removeNode (id : NodeId)
  | setMarkup (id : NodeId) (markup : String)
  | setVisible (id : NodeId) (visible : Bool)
  | watch (target : NodeId)
  | unwatch (watch : Watch)

namespace HostOperation

/-- The surface after an operation. -/
def perform (surface : Surface) : HostOperation → Surface
  | .create className => (surface.createNode className).2
  | .append parent child => surface.appendChild parent child
  | .removeChild parent child => (surface.removeChild parent child).2
  | .removeNode id => surface.removeNode id
  | .setMarkup id markup => surface.setMarkup id markup
  | .setVisible id visible => surface.setVisible id visible
  | .watch target => (surface.watch target).2
  | .unwatch held => surface.unwatch held.id

/-- The nodes that an operation names. -/
def names : HostOperation → List NodeId
  | .create _ | .unwatch _ => []
  | .append parent child | .removeChild parent child => [parent, child]
  | .removeNode id | .setMarkup id _ | .setVisible id _ | .watch id => [id]

/-- The watches that an operation hands back. -/
def handsBack : HostOperation → List Watch
  | .unwatch held => [held]
  | .create _ | .append _ _ | .removeChild _ _ | .removeNode _ | .setMarkup _ _
  | .setVisible _ _ | .watch _ => []

end HostOperation

/-- What a controller is called for. -/
inductive ControllerOperation where
  | select (suggestion : Suggestion) (list : NodeId)
  | observe (removal : Removal)
  | beginInvocation

/-- The controller and the surface after an operation. -/
def ControllerOperation.perform (controller : Controller) (surface : Surface) :
    ControllerOperation → Controller × Surface
  | .select suggestion list =>
    ((controller.select surface suggestion list).1, (controller.select surface suggestion list).2.1)
  | .observe removal => (controller.observe surface removal).2
  | .beginInvocation => controller.beginInvocation surface

/-! ## Worlds -/

/-- What a host knows of its own doings. -/
structure Host where
  /-- The nodes that it made. -/
  created : List NodeId
  /-- Those that it did not release yet. -/
  live : List NodeId
  /-- The watches that it holds. -/
  watches : List Watch

namespace Host

/-- A host at its start. -/
def initial : Host := ⟨[], [], []⟩

/-- What the host knows after an operation on a surface. -/
def after (host : Host) (surface : Surface) : HostOperation → Host
  | .create className =>
    let id := (surface.createNode className).1
    { host with created := id :: host.created, live := id :: host.live }
  | .removeNode id => { host with live := host.live.filter (· ≠ id) }
  | .watch target => { host with watches := (surface.watch target).1 :: host.watches }
  | .unwatch watch => { host with watches := host.watches.erase watch }
  | .append _ _ | .removeChild _ _ | .setMarkup _ _ | .setVisible _ _ => host

theorem created_grows (host : Host) (surface : Surface) (operation : HostOperation) :
    host.created ⊆ (host.after surface operation).created := by
  cases operation with
  | create className => exact List.subset_cons_self _ _
  | _ => exact List.Subset.refl _

/-- The operation names only what the host made, and hands back only a watch that it holds. -/
def Allows (host : Host) (operation : HostOperation) : Prop :=
  (∀ id ∈ operation.names, id ∈ host.created) ∧
    ∀ watch ∈ operation.handsBack, watch ∈ host.watches

instance (host : Host) (operation : HostOperation) : Decidable (host.Allows operation) :=
  inferInstanceAs (Decidable (_ ∧ _))

end Host

/-- An operation of a host or of one of the controllers. -/
inductive Operation where
  | host (operation : HostOperation)
  | controller (index : Nat) (operation : ControllerOperation)

/-- A surface with a host and controllers. -/
structure World where
  surface : Surface
  controllers : List Controller
  host : Host

namespace World

/-- Controllers beside an empty surface. -/
def start (setups : List Setup) : World :=
  ⟨.empty, setups.map .ofSetup, .initial⟩

/-- The world after an operation. -/
def perform (world : World) : Operation → World
  | .host operation =>
    { world with
      surface := operation.perform world.surface
      host := world.host.after world.surface operation }
  | .controller index operation =>
    match world.controllers[index]? with
    | none => world
    | some controller =>
      let (controller, surface) := operation.perform controller world.surface
      { world with surface, controllers := world.controllers.set index controller }

/-- The host keeps to its own; a controller may be called for anything. -/
def Allows (world : World) : Operation → Prop
  | .host operation => world.host.Allows operation
  | .controller _ _ => True

instance (world : World) : ∀ operation : Operation, Decidable (world.Allows operation)
  | .host operation => inferInstanceAs (Decidable (world.host.Allows operation))
  | .controller _ _ => .isTrue trivial

/-- The world after operations, all of which are allowed where they stand. -/
def run? (world : World) : List Operation → Option World
  | [] => some world
  | operation :: rest =>
    if world.Allows operation then (world.perform operation).run? rest else none

/-- The worlds that operations lead to. -/
inductive Reachable (setups : List Setup) : World → Prop where
  | start : Reachable setups (.start setups)
  | perform {world : World} (reachable : Reachable setups world) {operation : Operation}
      (allowed : world.Allows operation) : Reachable setups (world.perform operation)

theorem Reachable.run {setups : List Setup} {world after : World}
    (reachable : Reachable setups world) {operations : List Operation}
    (ran : world.run? operations = some after) : Reachable setups after := by
  induction operations generalizing world with
  | nil => exact Option.some.inj ran ▸ reachable
  | cons operation rest ih =>
    rw [run?] at ran
    split at ran
    next allowed => exact ih (reachable.perform allowed) ran
    next => cases ran

end World

/-! ## Sessions -/

/-- The nodes of a session. -/
def Session.nodes (session : Session) : List NodeId := [session.info, session.deprecation]

theorem Session.mem_nodes {session : Session} {id : NodeId} :
    id ∈ session.nodes ↔ id = session.info ∨ id = session.deprecation := by
  simp [nodes]

/-- The sessions of controllers. -/
def sessions (controllers : List Controller) : List Session :=
  controllers.flatMap (·.session?.toList)

/-- The nodes of sessions. -/
def overlayNodes (sessions : List Session) : List NodeId :=
  sessions.flatMap Session.nodes

theorem sessions_of_controller {controllers : List Controller} {index : Nat}
    {controller : Controller} (here : controllers[index]? = some controller) :
    (sessions controllers).Perm
      (controller.session?.toList ++ sessions (controllers.eraseIdx index)) := by
  obtain ⟨inside, rfl⟩ := List.getElem?_eq_some_iff.mp here
  exact ((List.getElem_cons_eraseIdx_perm inside).flatMap_right _).symm

theorem sessions_of_set {controllers : List Controller} {index : Nat}
    (inside : index < controllers.length) (controller : Controller) :
    (sessions (controllers.set index controller)).Perm
      (controller.session?.toList ++ sessions (controllers.eraseIdx index)) :=
  (List.set_perm_cons_eraseIdx inside controller).flatMap_right _

/-! ## Moves -/

/-- The moves that the operations of a controller are made of. -/
inductive Move : Controller × Surface → Controller × Surface → Prop where
  /-- The session is released. -/
  | release (setup : Setup) (session : Session) (surface : Surface) {next : State}
      (rests : next = .uninitialized ∨ next = .destroyed) :
      Move (⟨setup, .active session⟩, surface)
        (⟨setup, next⟩, Controller.release surface session)
  /-- Without a session there is nothing to release. -/
  | rest (setup : Setup) (surface : Surface) {state next : State}
      (idle : state = .uninitialized ∨ state = .destroyed)
      (rests : next = .uninitialized ∨ next = .destroyed) :
      Move (⟨setup, state⟩, surface) (⟨setup, next⟩, surface)
  /-- A session is opened beside a list that has a parent. -/
  | appear (setup : Setup) (surface : Surface) {parent list : NodeId}
      (attached : surface.parent? list = some parent) :
      Move (⟨setup, .uninitialized⟩, surface)
        (⟨setup, .active (Controller.openSession surface parent list).1⟩,
          (Controller.openSession surface parent list).2)
  /-- The nodes of the session are filled. -/
  | write (setup : Setup) (session : Session) (surface : Surface) (suggestion : Suggestion) :
      Move (⟨setup, .active session⟩, surface)
        (⟨setup, .active session⟩, Controller.write setup surface session suggestion)

/-- Moves one after the other. -/
abbrev Moves := Relation.ReflTransGen Move

theorem moves_close (controller : Controller) (surface : Surface) {next : State}
    (rests : next = .uninitialized ∨ next = .destroyed) :
    Moves (controller, surface) (controller.close surface next) := by
  obtain ⟨setup, state⟩ := controller
  cases state with
  | active session => exact .single (.release setup session surface rests)
  | uninitialized => exact .single (.rest setup surface (.inl rfl) rests)
  | destroyed => exact .single (.rest setup surface (.inr rfl) rests)

/-- The controller with the session beside a list, where it can have one. A session beside
another list is released first. -/
def Controller.turnTo (controller : Controller) (surface : Surface) (list : NodeId) :
    Controller × Surface :=
  let (controller, surface) :=
    if controller.session?.any (·.container != list) then
      controller.close surface .uninitialized
    else (controller, surface)
  controller.ensureSession surface list

/-- A selection turns to the list, and fills the nodes of the session that there is then. -/
theorem select_eq (controller : Controller) (surface : Surface) (suggestion : Suggestion)
    (list : NodeId) :
    controller.select surface suggestion list =
      match (controller.turnTo surface list).1.session? with
      | none => ((controller.turnTo surface list).1, (controller.turnTo surface list).2, none)
      | some session =>
        ((controller.turnTo surface list).1,
          Controller.write (controller.turnTo surface list).1.setup
            (controller.turnTo surface list).2 session suggestion,
          if (controller.turnTo surface list).1.setup.notifies then some session.info else none) :=
  rfl

/-- The surface on which a controller that turns to a list looks for its parent: a session beside
another list is released first. -/
inductive Cleared (list : NodeId) : State → Surface → Surface → Prop where
  | idle (surface : Surface) : Cleared list .uninitialized surface surface
  | released (session : Session) (surface : Surface) (elsewhere : session.container ≠ list) :
      Cleared list (.active session) surface (Controller.release surface session)

/-- What a controller does when it turns to a list. -/
inductive Turn (list : NodeId) : Controller × Surface → Controller × Surface → Prop where
  /-- After the list was removed, nothing happens. -/
  | rests (setup : Setup) (surface : Surface) :
      Turn list (⟨setup, .destroyed⟩, surface) (⟨setup, .destroyed⟩, surface)
  /-- The session is beside the list already. -/
  | stays (setup : Setup) (session : Session) (surface : Surface)
      (beside : session.container = list) :
      Turn list (⟨setup, .active session⟩, surface) (⟨setup, .active session⟩, surface)
  /-- The list has no parent. -/
  | detached (setup : Setup) {state : State} {surface cleared : Surface}
      (clears : Cleared list state surface cleared) (detached : cleared.parent? list = none) :
      Turn list (⟨setup, state⟩, surface) (⟨setup, .uninitialized⟩, cleared)
  /-- A session is opened beside the list. -/
  | opens (setup : Setup) {state : State} {surface cleared : Surface} {parent : NodeId}
      (clears : Cleared list state surface cleared)
      (attached : cleared.parent? list = some parent) :
      Turn list (⟨setup, state⟩, surface)
        (⟨setup, .active (Controller.openSession cleared parent list).1⟩,
          (Controller.openSession cleared parent list).2)

theorem turn_turnTo (controller : Controller) (surface : Surface) (list : NodeId) :
    Turn list (controller, surface) (controller.turnTo surface list) := by
  obtain ⟨setup, state⟩ := controller
  have ensured {state : State} {cleared : Surface} (clears : Cleared list state surface cleared) :
      Turn list (⟨setup, state⟩, surface)
        (Controller.ensureSession ⟨setup, .uninitialized⟩ cleared list) := by
    cases above : cleared.parent? list with
    | none => simpa [Controller.ensureSession, above] using Turn.detached setup clears above
    | some parent => simpa [Controller.ensureSession, above] using Turn.opens setup clears above
  cases state with
  | destroyed => exact .rests setup surface
  | uninitialized => exact ensured (.idle surface)
  | active session =>
    by_cases beside : session.container = list
    · have stays := Turn.stays setup session surface beside
      simpa [Controller.turnTo, Controller.session?, Controller.ensureSession, beside] using stays
    · have opens := ensured (.released session surface beside)
      simpa [Controller.turnTo, Controller.session?, Controller.close, beside] using opens

/-- A selection after which a session is there has filled its nodes. -/
theorem select_of_active {controller : Controller} {surface : Surface} {suggestion : Suggestion}
    {list : NodeId} {session : Session}
    (active : (controller.select surface suggestion list).1.state = .active session) :
    ∃ turned, Turn list (controller, surface) (⟨controller.setup, .active session⟩, turned) ∧
      (controller.select surface suggestion list).1 = ⟨controller.setup, .active session⟩ ∧
      (controller.select surface suggestion list).2.1 =
        Controller.write controller.setup turned session suggestion := by
  have turn := turn_turnTo controller surface list
  rw [select_eq] at active ⊢
  generalize controller.turnTo surface list = after at turn active ⊢
  obtain ⟨⟨setup, state⟩, turned⟩ := after
  obtain rfl : setup = controller.setup := by cases turn <;> rfl
  cases state with
  | active shown =>
    obtain rfl : shown = session := State.active.inj active
    exact ⟨turned, turn, rfl, rfl⟩
  | uninitialized => cases active
  | destroyed => cases active

/-- Turning to a list is made of moves. -/
theorem Turn.moves {list : NodeId} {before after : Controller × Surface}
    (turn : Turn list before after) : Moves before after := by
  have released (setup : Setup) (session : Session) (surface : Surface) :
      Moves (⟨setup, .active session⟩, surface)
        (⟨setup, .uninitialized⟩, Controller.release surface session) :=
    .single (.release setup session surface (.inl rfl))
  cases turn with
  | rests => exact .refl
  | stays => exact .refl
  | detached setup clears detached =>
    cases clears with
    | idle => exact .refl
    | released session _ _ => exact released setup session _
  | opens setup clears attached =>
    cases clears with
    | idle => exact .single (.appear setup _ attached)
    | released session _ _ => exact (released setup session _).tail (.appear setup _ attached)

theorem moves_select (controller : Controller) (surface : Surface) (suggestion : Suggestion)
    (list : NodeId) :
    Moves (controller, surface)
      ((controller.select surface suggestion list).1,
        (controller.select surface suggestion list).2.1) := by
  have turned := (turn_turnTo controller surface list).moves
  rw [select_eq]
  generalize controller.turnTo surface list = after at turned ⊢
  obtain ⟨⟨setup, state⟩, after⟩ := after
  cases state with
  | active session => exact turned.tail (.write setup session after suggestion)
  | uninitialized => exact turned
  | destroyed => exact turned

theorem moves_observe (controller : Controller) (surface : Surface) (removal : Removal) :
    Moves (controller, surface) (controller.observe surface removal).2 := by
  rw [Controller.observe]
  split
  · exact moves_close controller surface (.inr rfl)
  · exact .refl

/-- Whatever a controller is called for, it makes moves only. -/
theorem moves_of_operation (controller : Controller) (surface : Surface)
    (operation : ControllerOperation) :
    Moves (controller, surface) (operation.perform controller surface) := by
  cases operation with
  | select suggestion list => exact moves_select controller surface suggestion list
  | observe removal => exact moves_observe controller surface removal
  | beginInvocation => exact moves_close controller surface (.inl rfl)

/-! ## Runs -/

theorem World.run_append (world : World) (first second : List Operation) :
    world.run? (first ++ second) = (world.run? first).bind (·.run? second) := by
  induction first generalizing world with
  | nil => rfl
  | cons operation rest ih =>
    rw [List.cons_append, run?, run?]
    split
    · exact ih _
    · rfl

theorem sessions_of_setups (setups : List Setup) :
    sessions (setups.map Controller.ofSetup) = [] := by
  simp [sessions, Controller.ofSetup, Controller.session?]

theorem World.host_of_controllerOperation (world : World) (index : Nat)
    (operation : ControllerOperation) :
    (world.perform (.controller index operation)).host = world.host := by
  rw [perform]
  cases world.controllers[index]? <;> rfl

theorem World.perform_controller {world : World} {index : Nat} {controller : Controller}
    (here : world.controllers[index]? = some controller) (operation : ControllerOperation) :
    world.perform (.controller index operation) =
      { world with
        surface := (operation.perform controller world.surface).2
        controllers :=
          world.controllers.set index (operation.perform controller world.surface).1 } := by
  rw [perform, here]

/-- What each move of a controller keeps, whatever other sessions there are, is kept by every
operation of a controller. -/
theorem World.controllerOperation_keeps (holds : Surface → List Session → Prop)
    (perm : ∀ {surface shown others}, holds surface shown → shown.Perm others →
      holds surface others)
    (move : ∀ {shown before next}, Move before next →
      holds before.2 (before.1.session?.toList ++ shown) →
      holds next.2 (next.1.session?.toList ++ shown))
    {world : World} (held : holds world.surface (sessions world.controllers)) (index : Nat)
    (operation : ControllerOperation) :
    holds (world.perform (.controller index operation)).surface
      (sessions (world.perform (.controller index operation)).controllers) := by
  have moves {shown before next} (moves : Moves before next)
      (held : holds before.2 (before.1.session?.toList ++ shown)) :
      holds next.2 (next.1.session?.toList ++ shown) := by
    induction moves with
    | refl => exact held
    | tail _ last ih => exact move last ih
  rw [World.perform]
  cases here : world.controllers[index]? with
  | none => exact held
  | some controller =>
    obtain ⟨inside, _⟩ := List.getElem?_eq_some_iff.mp here
    have before := perm held (sessions_of_controller here)
    have after := moves (moves_of_operation controller world.surface operation) before
    exact perm after (sessions_of_set inside _).symm

/-- What is there at the start and is kept by the host and by each move of a controller, whatever
other sessions there are, is there in every world that can be reached. -/
theorem World.Reachable.invariant (holds : Surface → Host → List Session → Prop)
    (perm : ∀ {surface host shown others}, holds surface host shown → shown.Perm others →
      holds surface host others)
    (start : holds .empty .initial [])
    (host : ∀ {surface host shown operation}, holds surface host shown → host.Allows operation →
      holds (operation.perform surface) (host.after surface operation) shown)
    (move : ∀ {host shown before next}, Move before next →
      holds before.2 host (before.1.session?.toList ++ shown) →
      holds next.2 host (next.1.session?.toList ++ shown))
    {setups : List Setup} {world : World} (reachable : Reachable setups world) :
    holds world.surface world.host (sessions world.controllers) := by
  induction reachable with
  | start => exact sessions_of_setups setups ▸ start
  | @perform world _ operation allowed held =>
    cases operation with
    | host operation => exact host held allowed
    | controller index operation =>
      rw [world.host_of_controllerOperation]
      exact controllerOperation_keeps (holds · world.host ·) perm move held index operation

/-- A suggestion with nothing but its label. -/
def Suggestion.ofLabel (label : String) : Suggestion := ⟨label, none, none, none⟩

/-- Two lists under one parent, where two controllers show an overlay beside the first list
and one beside the second. -/
def threeOverlays : List Operation :=
  [.host (.create "root"), .host (.create "first"), .host (.create "second"),
    .host (.append 0 1), .host (.append 0 2),
    .controller 0 (.select (.ofLabel "id") 1), .controller 1 (.select (.ofLabel "id") 2),
    .controller 2 (.select (.ofLabel "name") 1)]

end SchemaGuide.Overlay
