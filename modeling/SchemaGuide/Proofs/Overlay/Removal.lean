import SchemaGuide.Proofs.Overlay.Releases

/-! The removal of a list of suggestions. Its report ends exactly the sessions that track the
list at its parent, and it does not matter in which order the controllers hear of it: the
sessions that end have nodes of their own, and those have no children. -/
namespace SchemaGuide.Overlay

namespace Controller

/-- The session that a removal ends. -/
def ended? (controller : Controller) (removal : Removal) : Option Session :=
  controller.session?.filter (Session.endsWith · removal)

/-- The controller after a removal. -/
def settled (removal : Removal) (controller : Controller) : Controller :=
  if (controller.ended? removal).isSome then { controller with state := .destroyed } else controller

/-- The session of the controller tracks a list at a parent. -/
def Tracks (controller : Controller) (parent list : NodeId) : Prop :=
  ∃ session, controller.session? = some session ∧ session.container = list ∧
    session.watch.target = parent

/-- The controller is at rest, and the nodes of its session are gone. -/
def TornDown (controller after : Controller) (final : Surface) : Prop :=
  after = { controller with state := .destroyed } ∧
    ∀ session ∈ controller.session?, ∀ id ∈ session.nodes, final.node? id = none

/-- The controller and the nodes of its session are as they were. -/
def Untouched (controller after : Controller) (before final : Surface) : Prop :=
  after = controller ∧
    ∀ session ∈ controller.session?, ∀ id ∈ session.nodes, final.node? id = before.node? id

theorem observe_eq (controller : Controller) (surface : Surface) (removal : Removal) :
    controller.observe surface removal =
      ((controller.ended? removal).isSome, controller.settled removal,
        (controller.ended? removal).toList.foldl release surface) := by
  obtain ⟨setup, state⟩ := controller
  cases state with
  | uninitialized => rfl
  | destroyed => rfl
  | active session =>
    cases ends : Session.endsWith session removal <;>
      simp [observe, settled, ended?, session?, close, Option.filter, ends]

theorem ended_of_session {controller : Controller} {session : Session}
    (shown : session ∈ controller.session?) (removal : Removal) :
    (controller.ended? removal).isSome = Session.endsWith session removal := by
  rw [ended?, Option.mem_def.mp shown, Option.isSome_filter]
  rfl

theorem tracks_iff_ended (controller : Controller) (parent list : NodeId) :
    (controller.ended? ⟨parent, [list]⟩).isSome ↔ controller.Tracks parent list := by
  cases shown : controller.session? with
  | none => simp [ended?, Tracks, shown]
  | some session =>
    have ends : (controller.ended? ⟨parent, [list]⟩).isSome ↔
        parent = session.watch.target ∧ session.container = list := by
      rw [ended_of_session shown]
      simp [Session.endsWith]
    rw [ends]
    constructor
    · rintro ⟨target, container⟩
      exact ⟨session, shown, container, target.symm⟩
    · rintro ⟨other, same, container, target⟩
      obtain rfl : session = other := Option.some.inj (shown.symm.trans same)
      exact ⟨target.symm, container⟩

end Controller

/-- Tells controllers of a removal, in an order. Returns whether it ended their sessions. -/
def deliver (removal : Removal) : List Nat → List Controller → Surface →
    List (Nat × Bool) × List Controller × Surface
  | [], controllers, surface => ([], controllers, surface)
  | index :: rest, controllers, surface =>
    match controllers[index]? with
    | none => deliver removal rest controllers surface
    | some controller =>
      let (ended, controller, surface) := controller.observe surface removal
      let (verdicts, controllers, surface) :=
        deliver removal rest (controllers.set index controller) surface
      ((index, ended) :: verdicts, controllers, surface)

/-- What became of controllers and surface when each controller of an order was told. -/
structure Delivered (removal : Removal) (order : List Nat) (controllers : List Controller)
    (surface : Surface) (result : List (Nat × Bool) × List Controller × Surface) : Prop where
  verdicts : result.1 = order.filterMap fun index =>
    controllers[index]?.map fun controller => (index, (controller.ended? removal).isSome)
  told : ∀ index, result.2.1[index]? =
    if index ∈ order then controllers[index]?.map (Controller.settled removal)
    else controllers[index]?
  released : result.2.2 = (order.filterMap fun index =>
    controllers[index]?.bind (Controller.ended? · removal)).foldl Controller.release surface

private theorem deliver_cons (removal : Removal) {index : Nat} {controllers : List Controller}
    {controller : Controller} (here : controllers[index]? = some controller) (rest : List Nat)
    (surface : Surface) :
    let told := deliver removal rest (controllers.set index (controller.settled removal))
      ((controller.ended? removal).toList.foldl Controller.release surface)
    deliver removal (index :: rest) controllers surface =
      ((index, (controller.ended? removal).isSome) :: told.1, told.2) := by
  simp only [deliver, here, Controller.observe_eq]

theorem delivered (removal : Removal) {order : List Nat} (once : order.Nodup)
    (controllers : List Controller) (surface : Surface) :
    Delivered removal order controllers surface (deliver removal order controllers surface) := by
  induction order generalizing controllers surface with
  | nil => exact ⟨rfl, fun _ => rfl, rfl⟩
  | cons index rest ih =>
    obtain ⟨absent, once⟩ := List.nodup_cons.mp once
    cases here : controllers[index]? with
    | none =>
      obtain ⟨verdicts, told, released⟩ := ih once controllers surface
      simp only [deliver, here]
      refine ⟨by simpa [here] using verdicts, fun other => ?_, by simpa [here] using released⟩
      rw [told]
      by_cases same : other = index
      · subst same
        simp [here]
      · simp [same]
    | some controller =>
      have others (other : Nat) (member : other ∈ rest) :
          (controllers.set index (controller.settled removal))[other]? = controllers[other]? :=
        List.getElem?_set_ne fun same : index = other => absent (same ▸ member)
      obtain ⟨verdicts, told, released⟩ := ih once
        (controllers.set index (controller.settled removal))
        ((controller.ended? removal).toList.foldl Controller.release surface)
      rw [deliver_cons removal here]
      refine ⟨?_, fun other => ?_, ?_⟩
      · rw [List.filterMap_cons, here]
        exact congrArg (_ :: ·) (verdicts.trans
          (List.filterMap_congr fun other member => by rw [others other member]))
      · rw [told]
        by_cases same : other = index
        · subst same
          obtain ⟨inside, rfl⟩ := List.getElem?_eq_some_iff.mp here
          simp [inside, absent]
        · simp [same, List.getElem?_set_ne (Ne.symm same)]
      · rw [released, List.filterMap_cons, here,
          List.filterMap_congr fun other member => by rw [others other member]]
        cases ended : controller.ended? removal <;> simp [ended]

/-! ## Orders -/

/-- The sessions that a removal ends. -/
def endedSessions (removal : Removal) (controllers : List Controller) : List Session :=
  (sessions controllers).filter (Controller.Session.endsWith · removal)

private theorem filterMap_range {α β : Type} (items : List α) (pick : α → Option β) :
    ((List.range items.length).filterMap fun index => items[index]?.bind pick) =
      items.filterMap pick := by
  induction items with
  | nil => rfl
  | cons item rest ih =>
    rw [List.length_cons, List.range_succ_eq_map, List.filterMap_cons, List.filterMap_map,
      List.filterMap_cons]
    simp only [Function.comp_def, List.getElem?_cons_zero, List.getElem?_cons_succ,
      Option.bind_some]
    rw [ih]

private theorem endedSessions_eq (removal : Removal) (controllers : List Controller) :
    controllers.filterMap (Controller.ended? · removal) = endedSessions removal controllers := by
  induction controllers with
  | nil => rfl
  | cons controller rest ih =>
    have split : sessions (controller :: rest) = controller.session?.toList ++ sessions rest := rfl
    rw [List.filterMap_cons, ih, endedSessions, endedSessions, split, List.filter_append,
      Controller.ended?]
    cases controller.session? with
    | none => rfl
    | some session =>
      cases ends : Controller.Session.endsWith session removal <;>
        simp [Option.filter, ends]

/-- Told in any order, all controllers are settled and all sessions that end are released. -/
theorem deliver_of_perm (removal : Removal) {order : List Nat} {controllers : List Controller}
    (all : order.Perm (List.range controllers.length)) {surface : Surface}
    (leaves : ∀ id ∈ overlayNodes (endedSessions removal controllers), surface.Leaf id) :
    (deliver removal order controllers surface).2 =
      (controllers.map (Controller.settled removal),
        (endedSessions removal controllers).foldl Controller.release surface) := by
  have once : order.Nodup := all.nodup_iff.mpr List.nodup_range
  obtain ⟨_, told, released⟩ := delivered removal once controllers surface
  have everyone : (deliver removal order controllers surface).2.1 =
      controllers.map (Controller.settled removal) := by
    refine List.ext_getElem? fun index => ?_
    rw [told, List.getElem?_map]
    by_cases inside : index < controllers.length
    · rw [if_pos (all.mem_iff.mpr (List.mem_range.mpr inside))]
    · simp [List.getElem?_eq_none (Nat.le_of_not_lt inside)]
  have same : (order.filterMap fun index =>
      controllers[index]?.bind (Controller.ended? · removal)).Perm
        (endedSessions removal controllers) := by
    rw [← endedSessions_eq, ← filterMap_range controllers]
    exact all.filterMap _
  rw [Surface.release_all_perm same fun id member => leaves id
    ((same.flatMap_right _).mem_iff.mp member)] at released
  exact Prod.ext everyone released

/-- Each controller tells whether it tracked the list. -/
theorem mem_verdicts {order : List Nat} {controllers : List Controller}
    (all : order.Perm (List.range controllers.length)) {parent list : NodeId} {surface : Surface}
    {index : Nat} {ended : Bool} :
    (index, ended) ∈ (deliver ⟨parent, [list]⟩ order controllers surface).1 ↔
      ∃ controller, controllers[index]? = some controller ∧
        (ended = true ↔ controller.Tracks parent list) := by
  have once : order.Nodup := all.nodup_iff.mpr List.nodup_range
  rw [(delivered _ once controllers surface).verdicts, List.mem_filterMap]
  constructor
  · rintro ⟨other, _, told⟩
    obtain ⟨controller, here, same⟩ := Option.map_eq_some_iff.mp told
    obtain ⟨rfl, rfl⟩ := Prod.mk.inj same
    exact ⟨controller, here, controller.tracks_iff_ended parent list⟩
  · rintro ⟨controller, here, tells⟩
    obtain ⟨inside, _⟩ := List.getElem?_eq_some_iff.mp here
    have verdict : (controller.ended? ⟨parent, [list]⟩).isSome = ended :=
      Bool.eq_iff_iff.mpr ((controller.tracks_iff_ended parent list).trans tells.symm)
    exact ⟨index, all.mem_iff.mpr (List.mem_range.mpr inside),
      by rw [here, Option.map_some, verdict]⟩

/-! ## Reachable worlds -/

theorem mem_sessions {controllers : List Controller} {controller : Controller}
    (member : controller ∈ controllers) {session : Session}
    (shown : session ∈ controller.session?) : session ∈ sessions controllers :=
  List.mem_flatMap.mpr ⟨controller, member, Option.mem_toList.mpr shown⟩

/-- What is left when the sessions that a removal ends are released. -/
def settledSurface (world : World) (parent child : NodeId) : Surface :=
  (endedSessions ⟨parent, [child]⟩ world.controllers).foldl Controller.release
    (world.surface.removeChild parent child).2

namespace World.Reachable

variable {setups : List Setup} {world : World} (reachable : Reachable setups world)
  {parent child : NodeId}
include reachable

/-- Where a session watches a parent, the removal of a child is reported. -/
theorem removal_reported (member : child ∈ world.surface.children parent)
    (watched : ∃ session ∈ sessions world.controllers, session.watch.target = parent) :
    (world.surface.removeChild parent child).1 = some ⟨parent, [child]⟩ := by
  obtain ⟨session, shown, rfl⟩ := watched
  have active := (reachable.accounted.watches.active session.watch).mpr
    (List.mem_append_right _ (List.mem_map_of_mem shown))
  have listed : world.surface.isWatched session.watch.target = true := by
    simpa [Surface.isWatched] using List.mem_of_getElem? active
  rw [Surface.removeChild_of_member member, if_pos listed]

/-- After a child is removed, the nodes of all sessions still have no children. -/
theorem leaf_of_removeChild {id : NodeId}
    (member : id ∈ overlayNodes (sessions world.controllers)) :
    (world.surface.removeChild parent child).2.Leaf id := by
  have other : id ∉ world.host.created := fun own => reachable.accounted.apart id own member
  exact fun node found => (reachable.linked.removeChild parent child).leaf other found

theorem leaf_of_ended (removal : Removal) :
    ∀ id ∈ overlayNodes (endedSessions removal world.controllers),
      (world.surface.removeChild parent child).2.Leaf id := by
  intro id member
  obtain ⟨session, ended, node⟩ := List.mem_flatMap.mp member
  exact reachable.leaf_of_removeChild
    (List.mem_flatMap.mpr ⟨session, List.mem_of_mem_filter ended, node⟩)

/-- A node belongs to one session only. -/
theorem session_of_node {first second : Session} {id : NodeId}
    (one : first ∈ sessions world.controllers) (two : second ∈ sessions world.controllers)
    (node : id ∈ first.nodes) (same : id ∈ second.nodes) : first = second := by
  by_contra other
  have front : (overlayNodes (sessions world.controllers)).Perm
      (first.nodes ++ overlayNodes ((sessions world.controllers).erase first)) :=
    (List.perm_cons_erase one).flatMap_right _
  have distinct : (overlayNodes (sessions world.controllers)).Nodup :=
    (List.nodup_append.mp reachable.accounted.nodes.distinct).2.1
  have second : second ∈ (sessions world.controllers).erase first :=
    (List.mem_erase_of_ne (Ne.symm other)).mpr two
  exact (List.nodup_append.mp (front.nodup distinct)).2.2 id node id
    (List.mem_flatMap.mpr ⟨_, second, same⟩) rfl

theorem tornDown {controller : Controller} (member : controller ∈ world.controllers)
    (tracks : controller.Tracks parent child) :
    controller.TornDown (controller.settled ⟨parent, [child]⟩)
      (settledSurface world parent child) := by
  have ends := (controller.tracks_iff_ended parent child).mpr tracks
  refine ⟨by rw [Controller.settled, if_pos ends], fun session shown id node => ?_⟩
  have ended : session ∈ endedSessions ⟨parent, [child]⟩ world.controllers :=
    List.mem_filter.mpr ⟨mem_sessions member shown,
      (Controller.ended_of_session shown _).symm.trans ends⟩
  have gone := List.mem_flatMap.mpr ⟨session, ended, node⟩
  rw [settledSurface, Surface.node_release_all (reachable.leaf_of_ended _), Surface.without]
  exact if_pos gone

theorem untouched {controller : Controller} (member : controller ∈ world.controllers)
    (other : ¬ controller.Tracks parent child) :
    controller.Untouched (controller.settled ⟨parent, [child]⟩)
      (world.surface.removeChild parent child).2 (settledSurface world parent child) := by
  have ends := mt (controller.tracks_iff_ended parent child).mp other
  refine ⟨by rw [Controller.settled, if_neg ends], fun session shown id node => ?_⟩
  have here := mem_sessions member shown
  have kept : id ∉ overlayNodes (endedSessions ⟨parent, [child]⟩ world.controllers) := by
    intro gone
    obtain ⟨second, ended, same⟩ := List.mem_flatMap.mp gone
    obtain rfl := reachable.session_of_node here (List.mem_of_mem_filter ended) node same
    exact ends ((Controller.ended_of_session shown _).trans (List.mem_filter.mp ended).2)
  rw [settledSurface, Surface.node_release_all (reachable.leaf_of_ended _)]
  exact Surface.without_of_leaf
    (reachable.leaf_of_removeChild (List.mem_flatMap.mpr ⟨session, here, node⟩)) kept

end World.Reachable

/-- **A removal ends the sessions that track the list, in any order.** Where a session watches
a parent, the removal of a child is reported. Told of it in any order, all controllers end
up the same, on the same surface, and each of them tells whether it tracked the child there.
Those that did are torn down, and all others are untouched. -/
theorem removal_settled_in_any_order {setups : List Setup} {world : World}
    (reachable : World.Reachable setups world) {parent child : NodeId}
    (member : child ∈ world.surface.children parent)
    (watched : ∃ session ∈ sessions world.controllers, session.watch.target = parent) :
    ∃ (removal : Removal) (after : Surface) (controllers : List Controller) (final : Surface),
      world.surface.removeChild parent child = (some removal, after) ∧
      (∀ order : List Nat, order.Perm (List.range world.controllers.length) → ∃ verdicts,
        deliver removal order world.controllers after = (verdicts, controllers, final) ∧
        ∀ index ended, (index, ended) ∈ verdicts ↔
          ∃ controller, world.controllers[index]? = some controller ∧
            (ended = true ↔ controller.Tracks parent child)) ∧
      ∀ (index : Nat) (controller : Controller), world.controllers[index]? = some controller →
        ∃ settled, controllers[index]? = some settled ∧
          (controller.Tracks parent child → controller.TornDown settled final) ∧
          (¬ controller.Tracks parent child → controller.Untouched settled after final) := by
  refine ⟨⟨parent, [child]⟩, (world.surface.removeChild parent child).2,
    world.controllers.map (Controller.settled ⟨parent, [child]⟩), settledSurface world parent child,
    Prod.ext (reachable.removal_reported member watched) rfl, fun order all => ?_,
    fun index controller here => ⟨controller.settled ⟨parent, [child]⟩, ?_, ?_, ?_⟩⟩
  · exact ⟨_, Prod.ext rfl (deliver_of_perm _ all (reachable.leaf_of_ended _)),
      fun index ended => mem_verdicts all⟩
  · simp [here]
  · exact reachable.tornDown (List.mem_of_getElem? here)
  · exact reachable.untouched (List.mem_of_getElem? here)

theorem removal_settled_for_three_overlays :
    ∃ world, World.Reachable (List.replicate 3 (.standard id)) world ∧
      1 ∈ world.surface.children 0 ∧
      (∃ session ∈ sessions world.controllers, session.watch.target = 0) ∧
      ∃ (removal : Removal) (after : Surface) (controllers : List Controller) (final : Surface),
        world.surface.removeChild 0 1 = (some removal, after) ∧
        ∀ order : List Nat, order.Perm (List.range 3) → ∃ verdicts,
          deliver removal order world.controllers after = (verdicts, controllers, final) ∧
          (0, true) ∈ verdicts ∧ (2, true) ∈ verdicts := by
  have ran : ∃ world,
      (World.start (List.replicate 3 (.standard id))).run? threeOverlays = some world ∧
      world.controllers.length = 3 ∧ 1 ∈ world.surface.children 0 ∧
      (∃ session ∈ sessions world.controllers, session.watch.target = 0) ∧
      (∃ first, world.controllers[0]? = some first ∧ first.Tracks 0 1) ∧
      ∃ third, world.controllers[2]? = some third ∧ third.Tracks 0 1 :=
    ⟨_, rfl, by decide, by decide, by decide, ⟨_, rfl, _, rfl, rfl, rfl⟩, _, rfl, _, rfl, rfl, rfl⟩
  obtain ⟨world, ran, three, member, watched, tracked, third, atThird, alsoTracks⟩ := ran
  obtain ⟨first, atFirst, tracks⟩ := tracked
  have reachable := World.Reachable.start.run ran
  obtain ⟨removal, after, controllers, final, removed, told, _⟩ :=
    removal_settled_in_any_order reachable member watched
  refine ⟨world, reachable, member, watched, removal, after, controllers, final, removed,
    fun order all => ?_⟩
  obtain ⟨verdicts, delivered, tells⟩ := told order (three ▸ all)
  exact ⟨verdicts, delivered, (tells 0 true).mpr ⟨first, atFirst, by simp [tracks]⟩,
    (tells 2 true).mpr ⟨third, atThird, by simp [alsoTracks]⟩⟩

end SchemaGuide.Overlay
