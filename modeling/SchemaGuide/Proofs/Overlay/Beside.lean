import SchemaGuide.Proofs.Overlay.Agreement
import SchemaGuide.Proofs.Overlay.Children
import SchemaGuide.Proofs.Overlay.Removal

/-! Where an overlay stands. Its nodes are children of the node that its session watches, as long
as that node is there, and that was the parent of the list when the session was opened. A
selection of the same list does not look at the parent again: an overlay is beside its list
unless the list was moved while the session was open. -/
namespace SchemaGuide.Overlay

/-! ## Parents of nodes in a world -/

namespace Surface.Enrolled

variable {surface : Surface}

theorem release (enrolled : surface.Enrolled) (session : Session) :
    (Controller.release surface session).Enrolled := by
  have unwatched : (surface.unwatch session.watch.id).Enrolled :=
    enrolled.sameLinks (sameLinks_of_nodes rfl)
  exact (unwatched.removeNode session.info).removeNode session.deprecation

theorem openSession (enrolled : surface.Enrolled) (parent list : NodeId) :
    (Controller.openSession surface parent list).2.Enrolled := by
  have grown : surface.withNodes.Enrolled :=
    enrolled.sameLinks ((sameLinks_createNode _ _).trans (sameLinks_createNode _ _))
  have placed : (surface.withSession parent).Enrolled :=
    (grown.appendChild parent _).appendChild parent _
  rw [openSession_eq]
  exact placed.sameLinks (sameLinks_of_nodes rfl)

theorem move {before next : Controller × Surface} (move : Move before next)
    (enrolled : before.2.Enrolled) : next.2.Enrolled := by
  cases move with
  | release setup session surface rests => exact enrolled.release session
  | rest setup surface idle rests => exact enrolled
  | @appear setup surface parent list attached => exact enrolled.openSession parent list
  | write setup session surface suggestion =>
    exact enrolled.sameLinks (sameLinks_write setup surface session suggestion)

end Surface.Enrolled

/-- In every world that can be reached, each node with a parent stands among its children. -/
theorem World.Reachable.enrolled {setups : List Setup} {world : World}
    (reachable : Reachable setups world) : world.surface.Enrolled :=
  reachable.invariant (fun surface _ _ => surface.Enrolled) (fun known _ => known)
    (Surface.enrolled_after []) (fun known _ => known.perform _) (fun move known => known.move move)

/-! ## Sessions below the watched node -/

namespace Surface

variable (surface : Surface) {parent : NodeId}

/-- The nodes of a new session are children of the node that it watches. -/
theorem parent_of_new_node (present : (surface.withNodes.node? parent).isSome) {id : NodeId}
    (new : id = surface.nodes.length ∨ id = surface.nodes.length + 1) :
    (surface.withSession parent).parent? id = some parent := by
  have live : (surface.withNodes.node? id).isSome :=
    (surface.live_withNodes id).mpr (.inl new)
  have kept := surface.withNodes.keeps_appendChild parent surface.nodes.length
  rw [withSession, parent_appendChild _ ((kept.live parent).trans present),
    parent_appendChild _ present, kept.live, live]
  rcases new with rfl | rfl <;> simp

/-- All other nodes keep their parents. -/
theorem parent_of_old_node (older : parent < surface.nodes.length) {id : NodeId}
    (below : id < surface.nodes.length) :
    (surface.withSession parent).parent? id = surface.parent? id := by
  rw [parent?, surface.node_withSession older (Nat.ne_of_lt below)
    (Nat.ne_of_lt (Nat.lt_succ_of_lt below))]
  cases found : surface.node? id <;> simp [parent?, found]

theorem live_withSession (older : parent < surface.nodes.length) {id : NodeId}
    (below : id < surface.nodes.length) :
    ((surface.withSession parent).node? id).isSome ↔ (surface.node? id).isSome := by
  rw [surface.node_withSession older (Nat.ne_of_lt below)
    (Nat.ne_of_lt (Nat.lt_succ_of_lt below))]
  simp

end Surface

/-- The session watches a node of the host, and its nodes are children of that node as long as it
is there. -/
structure Session.Attached (surface : Surface) (host : Host) (session : Session) : Prop where
  target : session.watch.target ∈ host.created
  parent : ∀ id ∈ session.nodes, (surface.node? session.watch.target).isSome →
    surface.parent? id = some session.watch.target

/-- The world is in order and all sessions are attached. -/
structure Moored (surface : Surface) (host : Host) (shown : List Session) : Prop where
  orderly : Orderly surface host shown
  attached : ∀ session ∈ shown, session.Attached surface host

namespace Session.Attached

variable {surface after : Surface} {host later : Host} {session : Session}

/-- Where the watched node is not another one and the nodes do not move, nothing changes. -/
theorem keeps (attached : session.Attached surface host) (grown : host.created ⊆ later.created)
    (target : (after.node? session.watch.target).isSome →
      (surface.node? session.watch.target).isSome)
    (parent : ∀ id ∈ session.nodes, (after.node? session.watch.target).isSome →
      surface.parent? id = some session.watch.target → after.parent? id = surface.parent? id) :
    session.Attached after later := by
  refine ⟨grown attached.target, fun id node live => ?_⟩
  have before := attached.parent id node (target live)
  exact (parent id node live before).trans before

theorem sameLinks (attached : session.Attached surface host)
    (grown : host.created ⊆ later.created) (same : surface.SameLinks after)
    (target : (after.node? session.watch.target).isSome →
      (surface.node? session.watch.target).isSome) : session.Attached after later :=
  attached.keeps grown target fun id _ _ _ => same.parent id

end Session.Attached

namespace Moored

variable {surface : Surface} {host : Host} {shown : List Session}

theorem start : Moored .empty .initial [] :=
  ⟨.start, by simp⟩

theorem perm {others : List Session} (moored : Moored surface host shown)
    (same : shown.Perm others) : Moored surface host others :=
  ⟨moored.orderly.perm same,
    fun session member => moored.attached session (same.mem_iff.mpr member)⟩

theorem hostOperation (moored : Moored surface host shown) {operation : HostOperation}
    (allowed : host.Allows operation) :
    Moored (operation.perform surface) (host.after surface operation) shown := by
  have accounted := moored.orderly.accounted
  refine ⟨moored.orderly.hostOperation allowed, fun session member => ?_⟩
  have attached := moored.attached session member
  -- What the host names is its own, and not a node of the session.
  have other {named id : NodeId} (names : named ∈ operation.names) (node : id ∈ session.nodes) :
      id ≠ named := by
    rintro rfl
    exact accounted.apart id (allowed.1 id names) (List.mem_flatMap.mpr ⟨session, member, node⟩)
  rcases surface.links_of_hostOperation operation with
    ⟨parent, child, rfl⟩ | ⟨parent, child, rfl⟩ | ⟨removed, rfl⟩ | ⟨same, kept⟩
  · have kept := surface.keeps_appendChild parent child
    refine attached.keeps (List.Subset.refl _) (fun live => kept.live _ ▸ live)
      fun id node _ _ => ?_
    cases found : surface.node? parent with
    | none => rw [HostOperation.perform, Surface.appendChild_of_absent found]
    | some above =>
      have different : id ≠ child := other (by simp [HostOperation.names]) node
      rw [HostOperation.perform, surface.parent_appendChild (by simp [found]),
        if_neg fun same => different same.1]
  · have kept := surface.keeps_removeChild parent child
    refine attached.keeps (List.Subset.refl _) (fun live => kept.live _ ▸ live)
      fun id node _ _ => ?_
    have different : id ≠ child := other (by simp [HostOperation.names]) node
    rw [HostOperation.perform, surface.parent_removeChild,
      if_neg fun same => different same.1]
  · have still (live : ((surface.removeNode removed).node? session.watch.target).isSome) :=
      (surface.live_removeNode removed _).mp live
    refine attached.keeps (List.Subset.refl _) (fun live => (still live).2)
      fun id node live above => ?_
    have different : id ≠ removed := other (by simp [HostOperation.names]) node
    have unlisted : id ∉ surface.children removed := by
      intro listed
      obtain ⟨parent, found, among⟩ := Surface.mem_children.mp listed
      obtain ⟨below, here, link⟩ := Option.bind_eq_some_iff.mp above
      have same := (moored.orderly.listed.parents found among here).symm.trans link
      exact (still live).1 (Option.some.inj same).symm
    rw [HostOperation.perform, surface.parent_removeNode, if_neg (by simp [different, unlisted])]
  · exact attached.sameLinks (host.created_grows surface operation) same
      (kept _ (accounted.places _ attached.target))

theorem release {session : Session} (moored : Moored surface host (session :: shown)) :
    Moored (Controller.release surface session) host shown := by
  refine ⟨moored.orderly.release, fun other member => ?_⟩
  have distinct : (overlayNodes (session :: shown)).Nodup :=
    (List.nodup_append.mp moored.orderly.accounted.nodes.distinct).2.1
  have apart : ∀ id ∈ other.nodes, id ∉ session.nodes := fun id node gone =>
    (List.nodup_append.mp distinct).2.2 id gone id (List.mem_flatMap.mpr ⟨other, member, node⟩) rfl
  have left := moored.orderly.node_release
  refine (moored.attached other (List.mem_cons_of_mem _ member)).keeps (List.Subset.refl _)
    (fun live => ?_) fun id node _ _ => ?_
  · rw [left, Surface.node_erase] at live
    split at live
    · cases live
    · simpa using live
  · have erased := surface.parent_erase session.nodes id
    rw [if_neg (apart id node)] at erased
    rw [Surface.parent?, left]
    exact erased

theorem openSession (moored : Moored surface host shown) {parent list : NodeId}
    (above : surface.parent? list = some parent) :
    Moored (Controller.openSession surface parent list).2 host
      ((Controller.openSession surface parent list).1 :: shown) := by
  have own : parent ∈ host.created := moored.orderly.linked.parent above
  have older := moored.orderly.accounted.places parent own
  refine ⟨moored.orderly.openSession above, ?_⟩
  rw [Surface.openSession_eq]
  intro session member
  rcases List.mem_cons.mp member with rfl | old
  · refine ⟨own, fun id node live => ?_⟩
    have present := (surface.keeps_withSession parent).live parent ▸ live
    exact surface.parent_of_new_node present (Session.mem_nodes.mp node)
  · have attached := moored.attached session old
    refine attached.keeps (List.Subset.refl _) (fun live => ?_) fun id node _ _ => ?_
    · have below := moored.orderly.accounted.places _ attached.target
      exact (surface.live_withSession older below).mp live
    · have here : id ∈ overlayNodes shown := List.mem_flatMap.mpr ⟨session, old, node⟩
      exact surface.parent_of_old_node older (moored.orderly.accounted.lt_of_overlay_node here)

theorem move {before next : Controller × Surface} (move : Move before next)
    (moored : Moored before.2 host (before.1.session?.toList ++ shown)) :
    Moored next.2 host (next.1.session?.toList ++ shown) := by
  cases move with
  | release setup session surface rests => rcases rests with rfl | rfl <;> exact moored.release
  | rest setup surface idle rests =>
    rcases idle with rfl | rfl <;> rcases rests with rfl | rfl <;> exact moored
  | appear setup surface attached => exact moored.openSession attached
  | write setup session surface suggestion =>
    refine ⟨moored.orderly.write, fun other member => ?_⟩
    exact (moored.attached other member).sameLinks (List.Subset.refl _)
      (surface.sameLinks_write setup session suggestion)
      fun live => (surface.keeps_write setup session suggestion).live _ ▸ live

end Moored

/-- In every world that can be reached, all sessions are attached. -/
theorem World.Reachable.moored {setups : List Setup} {world : World}
    (reachable : Reachable setups world) :
    Moored world.surface world.host (sessions world.controllers) :=
  reachable.invariant Moored (fun known same => known.perm same) .start
    (fun known allowed => known.hostOperation allowed) (fun move known => known.move move)

/-! ## Selections -/

/-- Releasing nodes gives nobody a parent. -/
theorem Surface.parent_of_release {surface : Surface} {session : Session} {id parent : NodeId}
    (above : (Controller.release surface session).parent? id = some parent) :
    surface.parent? id = some parent := by
  have kept (surface : Surface) (removed : NodeId)
      (above : (surface.removeNode removed).parent? id = some parent) :
      surface.parent? id = some parent := by
    rw [parent_removeNode] at above
    split at above
    · cases above
    · exact above
  exact kept (surface.unwatch session.watch.id) session.info (kept _ session.deprecation above)

/-- A controller that turns to a list leaves the list where it is. It watches the list's parent
then, unless its session was there before. -/
theorem Turn.parent_of_list {list : NodeId} {controller after : Controller}
    {surface turned : Surface} {session : Session}
    (turn : Turn list (controller, surface) (after, turned))
    (active : after.state = .active session) (enrolled : surface.Enrolled) :
    session.container = list ∧ turned.parent? list = surface.parent? list ∧
      (controller.state = .active session ∨
        (∀ shown, controller.state = .active shown → shown.container ≠ list) ∧
          surface.parent? list = some session.watch.target) := by
  cases turn with
  | rests => cases active
  | detached => cases active
  | stays setup shown surface beside =>
    obtain rfl := State.active.inj active
    exact ⟨beside, rfl, .inl rfl⟩
  | @opens setup state surface cleared parent clears above =>
    obtain ⟨clearedEnrolled, before, elsewhere⟩ :
        cleared.Enrolled ∧ surface.parent? list = some parent ∧
          ∀ shown, state = .active shown → shown.container ≠ list := by
      cases clears with
      | idle => exact ⟨enrolled, above, fun _ shown => nomatch shown⟩
      | released old _ other =>
        refine ⟨enrolled.release old, Surface.parent_of_release above, fun shown same => ?_⟩
        exact State.active.inj same ▸ other
    obtain rfl := State.active.inj active
    have older := Surface.lt_of_live (clearedEnrolled.live_parent above)
    have below : list < cleared.nodes.length := by
      obtain ⟨node, found, _⟩ := Option.bind_eq_some_iff.mp above
      exact Surface.lt_of_live (by simp [found])
    rw [Surface.openSession_eq]
    refine ⟨rfl, ?_, .inr ⟨elsewhere, before⟩⟩
    exact (cleared.parent_of_old_node older below).trans (above.trans before.symm)

/-- The overlay of a controller is beside a list below a parent: its session watches that parent
and has its nodes there, and it ends when the list is removed from there. -/
structure Beside (controller : Controller) (surface : Surface) (session : Session)
    (list parent : NodeId) : Prop where
  above : surface.parent? list = some parent
  info : surface.parent? session.info = some parent
  deprecation : surface.parent? session.deprecation = some parent
  watch : session.watch.target = parent
  ends : ∃ removal after, surface.removeChild parent list = (some removal, after) ∧
    (controller.observe after removal).1 = true ∧
    (controller.observe after removal).2.1.state = .destroyed

/-- In a world that can be reached, an overlay is beside its list if it watches the parent. -/
theorem World.Reachable.beside {setups : List Setup} {world : World}
    (reachable : Reachable setups world) {controller : Controller}
    (member : controller ∈ world.controllers) {session : Session}
    (active : controller.state = .active session)
    (watches : world.surface.parent? session.container = some session.watch.target) :
    Beside controller world.surface session session.container session.watch.target := by
  have shown : session ∈ controller.session? := by simp [Controller.session?, active]
  have open_ := mem_sessions member shown
  have listed := reachable.enrolled.listed watches
  have live := Surface.live_of_mem_children listed
  have attached := reachable.moored.attached session open_
  have reported := reachable.removal_reported listed ⟨session, open_, rfl⟩
  have ends : (controller.ended? ⟨session.watch.target, [session.container]⟩).isSome :=
    (controller.tracks_iff_ended _ _).mpr ⟨session, shown, rfl, rfl⟩
  constructor
  case above => exact watches
  case info => exact attached.parent _ (Session.mem_nodes.mpr (.inl rfl)) live
  case deprecation => exact attached.parent _ (Session.mem_nodes.mpr (.inr rfl)) live
  case watch => rfl
  case ends =>
    refine ⟨⟨session.watch.target, [session.container]⟩, _, Prod.ext reported rfl, ?_, ?_⟩
    · rw [Controller.observe_eq]
      exact ends
    · rw [Controller.observe_eq, Controller.settled, if_pos ends]

/-- **An overlay is beside its list unless the list was moved.** After a selection of a list that
has a parent, the overlay that is shown is beside the list below that parent exactly if it was
not beside the list before, or was opened at that parent. -/
theorem beside_selected_list_iff {setups : List Setup} {world : World}
    (reachable : World.Reachable setups world) {index : Nat} {controller : Controller}
    (here : world.controllers[index]? = some controller) {list parent : NodeId}
    (attached : world.surface.parent? list = some parent) (suggestion : Suggestion)
    {session : Session}
    (active : (controller.select world.surface suggestion list).1.state = .active session) :
    Beside (controller.select world.surface suggestion list).1
        (controller.select world.surface suggestion list).2.1 session list parent ↔
      ∀ shown, controller.state = .active shown → shown.container = list →
        shown.watch.target = parent := by
  obtain ⟨turned, turn, after, written⟩ := select_of_active active
  obtain ⟨container, stays, opened⟩ := turn.parent_of_list rfl reachable.enrolled
  constructor
  · intro beside shown before besideList
    rcases opened with same | ⟨elsewhere, _⟩
    · obtain rfl := State.active.inj (before.symm.trans same)
      exact beside.watch
    · exact (elsewhere shown before besideList).elim
  · intro unmoved
    have target : session.watch.target = parent := by
      rcases opened with same | ⟨_, above⟩
      · exact unmoved session same container
      · exact Option.some.inj (above.symm.trans attached)
    subst container target
    obtain ⟨inside, _⟩ := List.getElem?_eq_some_iff.mp here
    have allowed :
        world.Allows (.controller index (.select suggestion session.container)) := trivial
    have next := reachable.perform allowed
    rw [World.perform_controller here] at next
    refine next.beside (List.mem_set inside _) active ?_
    change (controller.select world.surface suggestion session.container).2.1.parent? _ = _
    rw [written, (turned.sameLinks_write _ _ _).parent, stays, attached]

/-- The host moves the first list to a node of its own, while two overlays are beside it. -/
private def movedList : List Operation :=
  threeOverlays ++ [.host (.create "popup"), .host (.append 9 1)]

/-- The overlay of a controller that was beside another list is opened at the new parent. -/
theorem beside_moved_list_when_opened_there :
    ∃ (world : World) (controller : Controller) (session : Session),
      World.Reachable (List.replicate 3 (.standard id)) world ∧
      world.controllers[1]? = some controller ∧ world.surface.parent? 1 = some 9 ∧
      (controller.select world.surface (.ofLabel "name") 1).1.state = .active session ∧
      (∀ shown, controller.state = .active shown → shown.container = 1 →
        shown.watch.target = 9) ∧
      Beside (controller.select world.surface (.ofLabel "name") 1).1
        (controller.select world.surface (.ofLabel "name") 1).2.1 session 1 9 := by
  have ran : ∃ world, (World.start (List.replicate 3 (.standard id))).run? movedList = some world ∧
      ∃ controller session, world.controllers[1]? = some controller ∧
        world.surface.parent? 1 = some 9 ∧
        (controller.select world.surface (.ofLabel "name") 1).1.state = .active session ∧
        ∃ shown, controller.state = .active shown ∧ shown.container = 2 :=
    ⟨_, rfl, _, _, rfl, rfl, rfl, _, rfl, rfl⟩
  obtain ⟨world, ran, controller, session, here, attached, active, old, before, container⟩ := ran
  have reachable := World.Reachable.start.run ran
  have elsewhere : ∀ shown, controller.state = .active shown → shown.container = 1 →
      shown.watch.target = 9 := by
    intro shown same beside
    obtain rfl := State.active.inj (before.symm.trans same)
    cases container.symm.trans beside
  exact ⟨world, controller, session, reachable, here, attached, active, elsewhere,
    (beside_selected_list_iff reachable here attached (.ofLabel "name") active).mpr elsewhere⟩

/-- The overlay of a controller that was beside the list stays where the list was, and nobody is
told when the list is removed from its new parent. -/
theorem overlay_stays_where_list_was :
    ∃ (world : World) (controller : Controller) (session : Session),
      World.Reachable (List.replicate 3 (.standard id)) world ∧
      world.controllers[0]? = some controller ∧ world.surface.parent? 1 = some 9 ∧
      (controller.select world.surface (.ofLabel "name") 1).1.state = .active session ∧
      (controller.select world.surface (.ofLabel "name") 1).2.1.parent? 1 = some 9 ∧
      (controller.select world.surface (.ofLabel "name") 1).2.1.parent? session.info = some 0 ∧
      session.watch.target = 0 ∧
      ((controller.select world.surface (.ofLabel "name") 1).2.1.removeChild 9 1).1 = none ∧
      ¬ Beside (controller.select world.surface (.ofLabel "name") 1).1
        (controller.select world.surface (.ofLabel "name") 1).2.1 session 1 9 := by
  have ran : ∃ world, (World.start (List.replicate 3 (.standard id))).run? movedList = some world ∧
      ∃ controller session, world.controllers[0]? = some controller ∧
        world.surface.parent? 1 = some 9 ∧
        (controller.select world.surface (.ofLabel "name") 1).1.state = .active session ∧
        (controller.select world.surface (.ofLabel "name") 1).2.1.parent? 1 = some 9 ∧
        (controller.select world.surface (.ofLabel "name") 1).2.1.parent? session.info = some 0 ∧
        session.watch.target = 0 ∧
        ((controller.select world.surface (.ofLabel "name") 1).2.1.removeChild 9 1).1 = none :=
    ⟨_, rfl, _, _, rfl, rfl, rfl, rfl, rfl, rfl, rfl⟩
  obtain ⟨world, ran, controller, session, here, attached, active, above, info, watch, silent⟩ :=
    ran
  refine ⟨world, controller, session, World.Reachable.start.run ran, here, attached, active, above,
    info, watch, silent, fun beside => ?_⟩
  cases watch.symm.trans beside.watch

end SchemaGuide.Overlay
