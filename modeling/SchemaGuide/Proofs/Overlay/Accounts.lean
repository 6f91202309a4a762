import SchemaGuide.Proofs.Overlay.Surface
import SchemaGuide.Proofs.Overlay.World

/-! Nothing leaks. Each node of the surface is one that the host has not released yet, or it
belongs to exactly one session, and it is the same with watches. A session comes with two
nodes and a watch that nobody had before, and it goes with them, whatever became of its list
and of its parent in the meantime. -/
namespace SchemaGuide.Overlay

namespace Surface

/-- The live nodes are these, each of them once. -/
structure LiveNodes (surface : Surface) (ids : List NodeId) : Prop where
  distinct : ids.Nodup
  live : ∀ id, (surface.node? id).isSome ↔ id ∈ ids

/-- The active watches are these, each of them once. -/
structure ActiveWatches (surface : Surface) (watches : List Watch) : Prop where
  distinct : watches.Nodup
  active : ∀ watch : Watch,
    surface.watches[watch.id]? = some (some watch.target) ↔ watch ∈ watches

/-! ## Nodes -/

theorem lt_of_live {surface : Surface} {id : NodeId} (live : (surface.node? id).isSome) :
    id < surface.nodes.length := by
  by_contra outside
  have absent : surface.nodes[id]? = none := List.getElem?_eq_none (Nat.le_of_not_lt outside)
  simp [node?, absent] at live

namespace LiveNodes

variable {surface : Surface} {ids : List NodeId}

theorem perm {others : List NodeId} (nodes : surface.LiveNodes ids) (same : ids.Perm others) :
    surface.LiveNodes others :=
  ⟨same.nodup nodes.distinct, fun id => (nodes.live id).trans same.mem_iff⟩

theorem keeps {after : Surface} (nodes : surface.LiveNodes ids) (kept : surface.Keeps after) :
    after.LiveNodes ids :=
  ⟨nodes.distinct, fun id => by rw [kept.live id]; exact nodes.live id⟩

theorem same_nodes {after : Surface} (nodes : surface.LiveNodes ids)
    (same : after.nodes = surface.nodes) : after.LiveNodes ids :=
  ⟨nodes.distinct, fun id => by rw [node?, same]; exact nodes.live id⟩

theorem create (nodes : surface.LiveNodes ids) (className : String) :
    (surface.createNode className).2.LiveNodes (surface.nodes.length :: ids) := by
  refine ⟨List.nodup_cons.mpr ⟨fun member => ?_, nodes.distinct⟩, fun id => ?_⟩
  · exact Nat.lt_irrefl _ (lt_of_live ((nodes.live _).mpr member))
  · rw [live_createNode, nodes.live, List.mem_cons]

theorem remove (nodes : surface.LiveNodes ids) (removed : NodeId) :
    (surface.removeNode removed).LiveNodes (ids.filter (· ≠ removed)) := by
  refine ⟨nodes.distinct.filter _, fun id => ?_⟩
  rw [live_removeNode, nodes.live, List.mem_filter]
  simp [and_comm]

theorem remove_head {removed : NodeId} (nodes : surface.LiveNodes (removed :: ids)) :
    (surface.removeNode removed).LiveNodes ids := by
  have absent := (List.nodup_cons.mp nodes.distinct).1
  have others : (removed :: ids).filter (· ≠ removed) = ids := by
    rw [List.filter_cons_of_neg (by simp), List.filter_eq_self]
    intro id member
    simpa using fun same : id = removed => absent (same ▸ member)
  exact others ▸ nodes.remove removed

end LiveNodes

/-! ## Watches -/

namespace ActiveWatches

variable {surface : Surface} {watches : List Watch}

theorem perm {others : List Watch} (active : surface.ActiveWatches watches)
    (same : watches.Perm others) : surface.ActiveWatches others :=
  ⟨same.nodup active.distinct, fun watch => (active.active watch).trans same.mem_iff⟩

theorem keeps {after : Surface} (active : surface.ActiveWatches watches)
    (kept : after.watches = surface.watches) : after.ActiveWatches watches :=
  ⟨active.distinct, fun watch => by rw [kept]; exact active.active watch⟩

theorem watch (active : surface.ActiveWatches watches) (target : NodeId) :
    (surface.watch target).2.ActiveWatches ((surface.watch target).1 :: watches) := by
  have fresh : ∀ watch ∈ watches, watch.id < surface.watches.length := by
    intro watch member
    obtain ⟨inside, _⟩ := List.getElem?_eq_some_iff.mp ((active.active watch).mpr member)
    exact inside
  refine ⟨List.nodup_cons.mpr ⟨fun member => ?_, active.distinct⟩, fun watch => ?_⟩
  · exact Nat.lt_irrefl _ (fresh _ member)
  · obtain ⟨id, other⟩ := watch
    rw [List.mem_cons, ← active.active, Surface.watch]
    rcases Nat.lt_trichotomy id surface.watches.length with below | rfl | above
    · simp [List.getElem?_append_left below, Nat.ne_of_lt below]
    · simp [eq_comm]
    · have outside : surface.watches.length + 1 ≤ id := above
      have absent : surface.watches[id]? = none := List.getElem?_eq_none (Nat.le_of_lt above)
      have beyond : (surface.watches ++ [some target])[id]? = none :=
        List.getElem?_eq_none (by simpa using outside)
      simp [beyond, absent, Nat.ne_of_gt above]

/-- A watch is released by its identifier, and no other watch has the same. -/
theorem unwatch {held : Watch} (active : surface.ActiveWatches (held :: watches)) :
    (surface.unwatch held.id).ActiveWatches watches := by
  obtain ⟨absent, distinct⟩ := List.nodup_cons.mp active.distinct
  have here := (active.active held).mpr List.mem_cons_self
  refine ⟨distinct, fun watch => ?_⟩
  obtain ⟨inside, _⟩ := List.getElem?_eq_some_iff.mp here
  by_cases same : watch.id = held.id
  · have other : watch ∉ watches := by
      intro member
      have there := (active.active watch).mpr (List.mem_cons_of_mem _ member)
      rw [same, here] at there
      have equal : watch = held := by
        obtain ⟨id, target⟩ := watch
        obtain ⟨heldId, heldTarget⟩ := held
        simp_all
      exact absent (equal ▸ member)
    simp [Surface.unwatch, same, inside, other]
  · have ne : watch ≠ held := fun equal => same (congrArg Watch.id equal)
    rw [Surface.unwatch, List.getElem?_set_ne (Ne.symm same), active.active, List.mem_cons]
    simp [ne]

end ActiveWatches

end Surface

/-- The nodes and the watches are those of the host and of the sessions. No node that the host
made is one of a session. -/
structure Accounted (surface : Surface) (host : Host) (shown : List Session) : Prop where
  nodes : surface.LiveNodes (host.live ++ overlayNodes shown)
  watches : surface.ActiveWatches (host.watches ++ shown.map (·.watch))
  created : host.live ⊆ host.created
  places : ∀ id ∈ host.created, id < surface.nodes.length
  apart : ∀ id ∈ host.created, id ∉ overlayNodes shown

namespace Accounted

variable {surface after : Surface} {host : Host} {shown : List Session}

theorem start : Accounted .empty .initial [] := by
  refine ⟨⟨.nil, fun id => ?_⟩, ⟨.nil, fun watch => ?_⟩, List.Subset.refl _, ?_, ?_⟩ <;>
    simp [Surface.empty, Surface.node?, Host.initial, overlayNodes]

theorem perm {others : List Session} (accounted : Accounted surface host shown)
    (same : shown.Perm others) : Accounted surface host others := by
  have nodes : (overlayNodes shown).Perm (overlayNodes others) := same.flatMap_right _
  exact ⟨accounted.nodes.perm (nodes.append_left _),
    accounted.watches.perm ((same.map _).append_left _), accounted.created, accounted.places,
    fun id member => mt nodes.mem_iff.mpr (accounted.apart id member)⟩

theorem keeps (accounted : Accounted surface host shown) (kept : surface.Keeps after) :
    Accounted after host shown :=
  ⟨accounted.nodes.keeps kept, accounted.watches.keeps kept.watches, accounted.created,
    fun id member => kept.places ▸ accounted.places id member, accounted.apart⟩

/-! ## Operations of the host -/

theorem lt_of_overlay_node (accounted : Accounted surface host shown) {id : NodeId}
    (member : id ∈ overlayNodes shown) : id < surface.nodes.length :=
  Surface.lt_of_live ((accounted.nodes.live id).mpr (List.mem_append_right _ member))

theorem create (accounted : Accounted surface host shown) (className : String) :
    Accounted (surface.createNode className).2
      (host.after surface (.create className)) shown where
  nodes := accounted.nodes.create className
  watches := accounted.watches.keeps rfl
  created := List.cons_subset_cons _ accounted.created
  places := by
    intro id member
    have places : (surface.createNode className).2.nodes.length = surface.nodes.length + 1 := by
      simp [Surface.createNode]
    rw [places]
    rcases List.mem_cons.mp member with rfl | old
    · exact Nat.lt_succ_self _
    · exact Nat.lt_succ_of_lt (accounted.places id old)
  apart := by
    intro id member overlay
    rcases List.mem_cons.mp member with rfl | old
    · exact Nat.lt_irrefl _ (accounted.lt_of_overlay_node overlay)
    · exact accounted.apart id old overlay

theorem removeNode (accounted : Accounted surface host shown) {id : NodeId}
    (own : id ∈ host.created) :
    Accounted (surface.removeNode id) (host.after surface (.removeNode id)) shown := by
  obtain ⟨places, watches⟩ := surface.removeNode_keeps id
  have overlay : (overlayNodes shown).filter (· ≠ id) = overlayNodes shown := by
    rw [List.filter_eq_self]
    intro other member
    simpa using fun same : other = id => accounted.apart id own (same ▸ member)
  have nodes := accounted.nodes.remove id
  rw [List.filter_append, overlay] at nodes
  exact ⟨nodes, accounted.watches.keeps watches,
    fun other member => accounted.created (List.mem_of_mem_filter member),
    fun other member => places ▸ accounted.places other member, accounted.apart⟩

theorem watch (accounted : Accounted surface host shown) (target : NodeId) :
    Accounted (surface.watch target).2 (host.after surface (.watch target)) shown :=
  ⟨accounted.nodes.same_nodes rfl, accounted.watches.watch target, accounted.created,
    accounted.places, accounted.apart⟩

theorem unwatch (accounted : Accounted surface host shown) {held : Watch}
    (own : held ∈ host.watches) :
    Accounted (surface.unwatch held.id) (host.after surface (.unwatch held)) shown := by
  have front : (host.watches ++ shown.map (·.watch)).Perm
      (held :: (host.watches.erase held ++ shown.map (·.watch))) :=
    (List.perm_cons_erase own).append_right _
  exact ⟨accounted.nodes.same_nodes rfl, (accounted.watches.perm front).unwatch, accounted.created,
    accounted.places, accounted.apart⟩

/-- The host keeps the accounts, whatever it does with its own. -/
theorem hostOperation (accounted : Accounted surface host shown) {operation : HostOperation}
    (allowed : host.Allows operation) :
    Accounted (operation.perform surface) (host.after surface operation) shown := by
  cases operation with
  | create className => exact accounted.create className
  | append parent child => exact accounted.keeps (surface.keeps_appendChild parent child)
  | removeChild parent child => exact accounted.keeps (surface.keeps_removeChild parent child)
  | removeNode id => exact accounted.removeNode (allowed.1 _ (by simp [HostOperation.names]))
  | setMarkup id markup => exact accounted.keeps (surface.keeps_update id _)
  | setVisible id visible => exact accounted.keeps (surface.keeps_update id _)
  | watch target => exact accounted.watch target
  | unwatch held => exact accounted.unwatch (allowed.2 held (by simp [HostOperation.handsBack]))

/-! ## Moves of the controllers -/

/-- A session that is released takes its nodes and its watch along. -/
theorem release {session : Session} (accounted : Accounted surface host (session :: shown)) :
    Accounted (Controller.release surface session) host shown := by
  have front : (host.live ++ overlayNodes (session :: shown)).Perm
      (session.info :: session.deprecation :: (host.live ++ overlayNodes shown)) := by
    simpa [overlayNodes, Session.nodes] using
      List.perm_append_comm_assoc host.live session.nodes (overlayNodes shown)
  have first : (host.watches ++ (session :: shown).map (·.watch)).Perm
      (session.watch :: (host.watches ++ shown.map (·.watch))) := List.perm_middle
  have unwatched : (surface.unwatch session.watch.id).LiveNodes
      (session.info :: session.deprecation :: (host.live ++ overlayNodes shown)) :=
    (accounted.nodes.perm front).same_nodes rfl
  obtain ⟨places, watches⟩ := surface.release_places_and_watches session
  refine ⟨unwatched.remove_head.remove_head, ?_, accounted.created, ?_, ?_⟩
  · exact (accounted.watches.perm first).unwatch.keeps watches
  · intro id member
    exact places ▸ accounted.places id member
  · intro id member overlay
    exact accounted.apart id member (List.mem_append_right _ overlay)

/-- A session that is opened has nodes and a watch of its own. -/
theorem openSession (accounted : Accounted surface host shown) (parent list : NodeId) :
    Accounted (Controller.openSession surface parent list).2 host
      ((Controller.openSession surface parent list).1 :: shown) := by
  have kept := surface.keeps_withSession parent
  have grown : surface.withNodes.LiveNodes ((surface.nodes.length + 1) :: surface.nodes.length ::
      (host.live ++ overlayNodes shown)) := by
    have both := (accounted.nodes.create infoClass).create deprecationClass
    rw [Surface.length_createNode] at both
    exact both
  have front : ((surface.nodes.length + 1) :: surface.nodes.length ::
        (host.live ++ overlayNodes shown)).Perm
      (host.live ++ ([surface.nodes.length, surface.nodes.length + 1] ++ overlayNodes shown)) :=
    (List.Perm.swap _ _ _).trans
      (List.perm_append_comm_assoc [surface.nodes.length, surface.nodes.length + 1] _ _)
  have beside : (surface.withSession parent).ActiveWatches
      (host.watches ++ shown.map (·.watch)) := accounted.watches.keeps kept.watches
  have watched := beside.watch parent
  have places : surface.nodes.length ≤ (surface.withSession parent).nodes.length := by
    rw [kept.places]
    simp [Surface.withNodes, Surface.createNode]
  rw [Surface.openSession_eq]
  refine ⟨((grown.keeps kept).perm front).same_nodes rfl, ?_, accounted.created, ?_, ?_⟩
  · rw [Surface.watch_withSession] at watched
    exact watched.perm List.perm_middle.symm
  · exact fun id member => Nat.lt_of_lt_of_le (accounted.places id member) places
  · intro id member overlay
    have below := accounted.places id member
    rcases List.mem_append.mp overlay with new | old
    · rcases Session.mem_nodes.mp new with rfl | rfl
      · exact Nat.lt_irrefl _ below
      · exact Nat.not_succ_lt_self below
    · exact accounted.apart id member old

/-- A move of a controller keeps the accounts, whatever other sessions there are. -/
theorem move {before next : Controller × Surface} (move : Move before next)
    (accounted : Accounted before.2 host (before.1.session?.toList ++ shown)) :
    Accounted next.2 host (next.1.session?.toList ++ shown) := by
  cases move with
  | release setup session surface rests =>
    rcases rests with rfl | rfl <;> exact accounted.release
  | rest setup surface idle rests =>
    rcases idle with rfl | rfl <;> rcases rests with rfl | rfl <;> exact accounted
  | appear setup surface attached => exact accounted.openSession _ _
  | write setup session surface suggestion =>
    exact accounted.keeps (surface.keeps_write setup session suggestion)

end Accounted

/-- In every world that can be reached, the accounts are kept. -/
theorem World.Reachable.accounted {setups : List Setup} {world : World}
    (reachable : Reachable setups world) :
    Accounted world.surface world.host (sessions world.controllers) :=
  reachable.invariant Accounted (fun known same => known.perm same) .start
    (fun known allowed => known.hostOperation allowed) (fun move known => known.move move)

/-- **Nothing leaks.** In every world that can be reached, the live nodes are those of the host
and the two of each session, all of them different, and the active watches are those that the
host holds and the one of each session. -/
theorem nodes_and_watches_of_reachable {setups : List Setup} {world : World}
    (reachable : World.Reachable setups world) :
    world.surface.LiveNodes (world.host.live ++ overlayNodes (sessions world.controllers)) ∧
      world.surface.ActiveWatches
        (world.host.watches ++ (sessions world.controllers).map (·.watch)) :=
  ⟨reachable.accounted.nodes, reachable.accounted.watches⟩

/-- The parent of two lists is released while overlays are beside them, and the overlay beside
the second list is closed. -/
private def orphaned : List Operation :=
  threeOverlays ++ [.host (.removeNode 0), .controller 1 .beginInvocation, .host (.watch 1)]

theorem nodes_and_watches_of_orphans :
    ∃ world, World.Reachable (List.replicate 3 (.standard id)) world ∧
      world.host.live ++ overlayNodes (sessions world.controllers) = [2, 1, 3, 4, 7, 8] ∧
      world.surface.LiveNodes (world.host.live ++ overlayNodes (sessions world.controllers)) ∧
      world.surface.ActiveWatches
        (world.host.watches ++ (sessions world.controllers).map (·.watch)) := by
  have ran : ∃ world, (World.start (List.replicate 3 (.standard id))).run? orphaned = some world ∧
      world.host.live ++ overlayNodes (sessions world.controllers) = [2, 1, 3, 4, 7, 8] :=
    ⟨_, rfl, by decide⟩
  obtain ⟨world, ran, nodes⟩ := ran
  have reachable := World.Reachable.start.run ran
  exact ⟨world, reachable, nodes, nodes_and_watches_of_reachable reachable⟩

end SchemaGuide.Overlay
