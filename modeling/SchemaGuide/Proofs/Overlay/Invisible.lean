import Mathlib.Data.List.Induction
import SchemaGuide.Proofs.Overlay.Children
import SchemaGuide.Proofs.Overlay.Renumbering

/-! The host does not see the overlays. Without the nodes of all sessions, the surface is the
one that the host would have made alone: the same nodes in the same order, linked in the same
way and with the same content. The overlays only use up numbers, so the nodes that the host
makes after them have greater ones. -/
namespace SchemaGuide.Overlay

/-- The operations of the host. -/
def hostOperations (operations : List Operation) : List HostOperation :=
  operations.filterMap fun operation =>
    match operation with
    | .host operation => some operation
    | .controller _ _ => none

/-- The surface without the nodes of sessions. -/
def World.hostSurface (world : World) : Surface :=
  world.surface.erase (overlayNodes (sessions world.controllers))

/-! ## Controllers -/

namespace Orderly

variable {surface : Surface} {host : Host} {shown : List Session}

private theorem erase_cons (surface : Surface) (session : Session) (shown : List Session) :
    surface.erase (overlayNodes (session :: shown)) =
      (surface.erase session.nodes).erase (overlayNodes shown) :=
  surface.erase_append session.nodes (overlayNodes shown)

theorem erase_release {session : Session} (orderly : Orderly surface host (session :: shown))
    (id : NodeId) :
    ((Controller.release surface session).erase (overlayNodes shown)).node? id =
      (surface.erase (overlayNodes (session :: shown))).node? id := by
  rw [erase_cons, Surface.node_erase, Surface.node_erase, orderly.node_release]

/-- A new session is added behind all other children of the parent, and nowhere else. -/
theorem erase_openSession (orderly : Orderly surface host shown) {parent list : NodeId}
    (attached : surface.parent? list = some parent) (id : NodeId) :
    ((Controller.openSession surface parent list).2.erase
        (overlayNodes ((Controller.openSession surface parent list).1 :: shown))).node? id =
      (surface.erase (overlayNodes shown)).node? id := by
  have older : parent < surface.nodes.length :=
    orderly.accounted.places parent (orderly.linked.parent attached)
  have nodes : (Controller.openSession surface parent list).1.nodes =
      [surface.nodes.length, surface.nodes.length + 1] := by
    rw [Surface.openSession_eq]
    rfl
  have opened : (Controller.openSession surface parent list).2.node? id =
      (surface.withSession parent).node? id := by
    rw [Surface.openSession_eq]
    rfl
  rw [erase_cons, Surface.node_erase, Surface.node_erase, Surface.node_erase, opened, nodes]
  by_cases new : id ∈ [surface.nodes.length, surface.nodes.length + 1]
  · have absent : surface.node? id = none := by
      by_contra present
      have inside := Surface.lt_of_live (Option.isSome_iff_ne_none.mpr present)
      simp only [List.mem_cons, List.not_mem_nil, or_false] at new
      rcases new with rfl | rfl
      · exact Nat.lt_irrefl _ inside
      · exact Nat.not_succ_lt_self inside
    simp [new, absent]
  · have notInfo : id ≠ surface.nodes.length := fun same => new (by simp [same])
    have notDeprecation : id ≠ surface.nodes.length + 1 := fun same => new (by simp [same])
    rw [if_neg new, surface.node_withSession older notInfo notDeprecation]
    cases found : surface.node? id with
    | none => rfl
    | some node =>
      have old : ∀ child ∈ node.children,
          child ≠ surface.nodes.length ∧ child ≠ surface.nodes.length + 1 := by
        intro child member
        have inside := orderly.places child (orderly.listed.children found member)
        exact ⟨Nat.ne_of_lt inside, Nat.ne_of_lt (Nat.lt_succ_of_lt inside)⟩
      have kept : node.children.filter
          (· ∉ [surface.nodes.length, surface.nodes.length + 1]) = node.children := by
        rw [List.filter_eq_self]
        intro child member
        simp [old child member]
      have same (more : List NodeId)
          (new : more.filter (· ∉ [surface.nodes.length, surface.nodes.length + 1]) = []) :
          SurfaceNode.erase { node with children := node.children ++ more }
            [surface.nodes.length, surface.nodes.length + 1] = node := by
        rw [SurfaceNode.erase, List.filter_append, kept, new, List.append_nil]
      rw [Option.map_some, Option.map_some, same]
      split <;> simp

theorem erase_write (setup : Setup) (session : Session) (surface : Surface)
    (suggestion : Suggestion) (shown : List Session) (id : NodeId) :
    ((Controller.write setup surface session suggestion).erase
        (overlayNodes (session :: shown))).node? id =
      (surface.erase (overlayNodes (session :: shown))).node? id := by
  rw [Surface.node_erase, Surface.node_erase]
  by_cases own : id ∈ session.nodes
  · have member : id ∈ overlayNodes (session :: shown) := List.mem_append_left _ own
    rw [if_pos member, if_pos member]
  · rw [Surface.node_write own]

/-- A move of a controller changes nothing but the nodes of its session. -/
theorem erase_move {before next : Controller × Surface} (move : Move before next)
    (orderly : Orderly before.2 host (before.1.session?.toList ++ shown)) (id : NodeId) :
    (next.2.erase (overlayNodes (next.1.session?.toList ++ shown))).node? id =
      (before.2.erase (overlayNodes (before.1.session?.toList ++ shown))).node? id := by
  cases move with
  | release setup session surface rests =>
    rcases rests with rfl | rfl <;> exact orderly.erase_release id
  | rest setup surface idle rests =>
    rcases idle with rfl | rfl <;> rcases rests with rfl | rfl <;> rfl
  | appear setup surface attached => exact orderly.erase_openSession attached id
  | write setup session surface suggestion =>
    exact erase_write setup session surface suggestion _ id

end Orderly

namespace World.Reachable

variable {setups : List Setup} {world : World} (reachable : Reachable setups world)
include reachable

/-- The nodes of the host are linked to one another only. -/
theorem within : world.hostSurface.Within world.host.created := by
  have orderly := reachable.orderly
  have kept {id : NodeId} {node : SurfaceNode} (found : world.hostSurface.node? id = some node) :
      id ∉ overlayNodes (sessions world.controllers) ∧
        ∃ old, world.surface.node? id = some old ∧ node = old.erase
          (overlayNodes (sessions world.controllers)) := by
    rw [hostSurface, Surface.node_erase] at found
    split at found
    · cases found
    · next other =>
      obtain ⟨old, here, rfl⟩ := Option.map_eq_some_iff.mp found
      exact ⟨other, old, here, rfl⟩
  constructor
  · intro id node found
    obtain ⟨other, old, here, rfl⟩ := kept found
    have live := (orderly.accounted.nodes.live id).mp (by simp [here])
    rcases List.mem_append.mp live with own | overlay
    · exact orderly.accounted.created own
    · exact absurd overlay other
  · intro id node parent found link
    obtain ⟨_, old, here, rfl⟩ := kept found
    exact orderly.linked.parents here link
  · intro id node child found member
    obtain ⟨_, old, here, rfl⟩ := kept found
    obtain ⟨before, other⟩ := List.mem_filter.mp member
    rcases List.mem_append.mp (orderly.listed.children here before) with own | overlay
    · exact own
    · simp [overlay] at other

/-- What a controller does cannot be seen by the host. -/
theorem hostSurface_of_controllerOperation (index : Nat) (operation : ControllerOperation)
    (id : NodeId) :
    (world.perform (.controller index operation)).hostSurface.node? id =
      world.hostSurface.node? id := by
  let holds (surface : Surface) (shown : List Session) : Prop :=
    Orderly surface world.host shown ∧
      (surface.erase (overlayNodes shown)).node? id = world.hostSurface.node? id
  have perm {surface : Surface} {shown others : List Session} (held : holds surface shown)
      (same : shown.Perm others) : holds surface others := by
    have nodes : (overlayNodes shown).Perm (overlayNodes others) := same.flatMap_right _
    have equal : surface.erase (overlayNodes others) = surface.erase (overlayNodes shown) := by
      simp only [Surface.erase, SurfaceNode.erase, nodes.mem_iff]
    exact ⟨held.1.perm same, equal ▸ held.2⟩
  have kept : holds (world.perform (.controller index operation)).surface
      (sessions (world.perform (.controller index operation)).controllers) :=
    controllerOperation_keeps holds perm
      (fun move held => ⟨held.1.move move, (held.1.erase_move move id).trans held.2⟩)
      ⟨reachable.orderly, rfl⟩ index operation
  exact kept.2

/-- What the host does to its own nodes, it does to the surface without the overlays. -/
theorem hostSurface_of_hostOperation {operation : HostOperation}
    (allowed : world.host.Allows operation) :
    (world.perform (.host operation)).hostSurface = operation.perform world.hostSurface := by
  have orderly := reachable.orderly
  refine world.surface.erase_perform ?_ ?_
  · exact fun id overlay => orderly.places id (List.mem_append_right _ overlay)
  · exact fun id named => orderly.accounted.apart id (allowed.1 id named)

end World.Reachable

/-! ## The host alone -/

theorem World.Reachable.held_watch {setups : List Setup} {world : World}
    (reachable : Reachable setups world) {held : Watch} (member : held ∈ world.host.watches) :
    held.id < world.surface.watches.length := by
  have active := (reachable.accounted.watches.active held).mpr (List.mem_append_left _ member)
  exact (List.getElem?_eq_some_iff.mp active).1

/-- The host alone has the same nodes and holds the same watches, all under other numbers. -/
structure Mirrors (number : NodeId → NodeId) (watchNumber : Nat → Nat) (world alone : World) :
    Prop where
  nodes : world.hostSurface.Renumbered number world.host.created alone.surface
  created : alone.host.created = world.host.created.map number
  targets : ∀ held ∈ world.host.watches, held.target ∈ world.host.created
  watches : ∀ held ∈ world.host.watches, held.renumber number watchNumber ∈ alone.host.watches
  apart : ∀ first ∈ world.host.watches, ∀ second ∈ world.host.watches,
    watchNumber first.id = watchNumber second.id → first = second

namespace Mirrors

variable {setups : List Setup} {world alone : World} {number : NodeId → NodeId}
  {watchNumber : Nat → Nat}

theorem start (setups : List Setup) : Mirrors id id (.start setups) (.start []) := by
  refine ⟨⟨?_, ?_, ?_⟩, ?_, ?_, ?_, ?_⟩ <;>
    simp [World.start, World.hostSurface, Surface.empty, Surface.erase, Host.initial]

/-- Only the numbers of what the host made matter. -/
theorem congr (mirrors : Mirrors number watchNumber world alone)
    (reachable : World.Reachable setups world) {otherNumber : NodeId → NodeId}
    {otherWatchNumber : Nat → Nat} (nodes : ∀ id ∈ world.host.created, otherNumber id = number id)
    (watches : ∀ held ∈ world.host.watches, otherWatchNumber held.id = watchNumber held.id) :
    Mirrors otherNumber otherWatchNumber world alone := by
  have same := mirrors.nodes
  refine ⟨⟨?_, ?_, ?_⟩, ?_, mirrors.targets, ?_, ?_⟩
  · intro first one second two less
    rw [nodes first one, nodes second two]
    exact same.increasing first one second two less
  · intro place
    rw [same.onto]
    exact exists_congr fun id => and_congr_right fun known => by rw [nodes id known]
  · intro id known
    rw [nodes id known, same.nodes id known]
    cases found : world.hostSurface.node? id with
    | none => rfl
    | some node =>
      have parent : node.parent.map number = node.parent.map otherNumber :=
        Option.map_congr fun above link => (nodes above (reachable.within.parent found link)).symm
      have children : node.children.map number = node.children.map otherNumber :=
        List.map_congr_left fun child member =>
          (nodes child (reachable.within.children found member)).symm
      simp [SurfaceNode.renumber, parent, children]
  · rw [mirrors.created]
    exact List.map_congr_left fun id known => (nodes id known).symm
  · intro held member
    have known := mirrors.watches held member
    rwa [Watch.renumber, ← watches held member, ← nodes _ (mirrors.targets held member)] at known
  · intro first one second two
    rw [watches first one, watches second two]
    exact mirrors.apart first one second two

theorem controllerOperation (mirrors : Mirrors number watchNumber world alone)
    (reachable : World.Reachable setups world) (index : Nat) (operation : ControllerOperation) :
    Mirrors number watchNumber (world.perform (.controller index operation)) alone := by
  have host := world.host_of_controllerOperation index operation
  have nodes := mirrors.nodes.congr
    (reachable.hostSurface_of_controllerOperation index operation)
  obtain ⟨_, created, targets, watches, apart⟩ := mirrors
  rw [← host] at nodes created targets watches apart
  exact ⟨nodes, created, targets, watches, apart⟩

/-- The host alone is allowed to do what the host does. -/
theorem allows (mirrors : Mirrors number watchNumber world alone) {operation : HostOperation}
    (allowed : world.host.Allows operation) :
    alone.host.Allows (operation.renumber number watchNumber) := by
  constructor
  · intro id named
    rw [HostOperation.names_renumber] at named
    obtain ⟨known, before, rfl⟩ := List.mem_map.mp named
    rw [mirrors.created]
    exact List.mem_map_of_mem (allowed.1 known before)
  · intro watch given
    rw [HostOperation.handsBack_renumber] at given
    obtain ⟨held, before, rfl⟩ := List.mem_map.mp given
    exact mirrors.watches held (allowed.2 held before)

theorem watch (mirrors : Mirrors number watchNumber world alone)
    (aloneReachable : World.Reachable [] alone)
    (next : watchNumber world.surface.watches.length = alone.surface.watches.length)
    {target : NodeId} (own : target ∈ world.host.created) :
    Mirrors number watchNumber (world.perform (.host (.watch target)))
      (alone.perform (.host (.watch (number target)))) := by
  have older : ∀ held ∈ world.host.watches, watchNumber held.id < alone.surface.watches.length := by
    intro held member
    exact aloneReachable.held_watch (mirrors.watches held member)
  refine ⟨⟨mirrors.nodes.increasing, mirrors.nodes.onto, mirrors.nodes.nodes⟩, mirrors.created,
    ?_, ?_, ?_⟩
  · intro held member
    rcases List.mem_cons.mp member with rfl | before
    · exact own
    · exact mirrors.targets held before
  · intro held member
    rcases List.mem_cons.mp member with rfl | before
    · refine List.mem_cons.mpr (.inl ?_)
      rw [Watch.renumber, Surface.watch, next]
      rfl
    · exact List.mem_cons_of_mem _ (mirrors.watches held before)
  · intro first one second two equal
    rcases List.mem_cons.mp one with rfl | one <;> rcases List.mem_cons.mp two with rfl | two
    · rfl
    · exact absurd (next.symm.trans equal).symm (Nat.ne_of_lt (older second two))
    · exact absurd (equal.trans next) (Nat.ne_of_lt (older first one))
    · exact mirrors.apart first one second two equal

theorem unwatch (mirrors : Mirrors number watchNumber world alone)
    (reachable : World.Reachable setups world) {held : Watch} (own : held ∈ world.host.watches) :
    Mirrors number watchNumber (world.perform (.host (.unwatch held)))
      (alone.perform (.host (.unwatch (held.renumber number watchNumber)))) := by
  have distinct : world.host.watches.Nodup :=
    (List.nodup_append.mp reachable.accounted.watches.distinct).1
  refine ⟨⟨mirrors.nodes.increasing, mirrors.nodes.onto, mirrors.nodes.nodes⟩, mirrors.created,
    ?_, ?_, ?_⟩
  · intro other member
    exact mirrors.targets other (List.mem_of_mem_erase member)
  · intro other member
    obtain ⟨different, before⟩ := distinct.mem_erase_iff.mp member
    refine (List.mem_erase_of_ne fun same => different ?_).mpr (mirrors.watches other before)
    exact mirrors.apart other before held own (congrArg Watch.id same)
  · intro first one second two
    exact mirrors.apart first (List.mem_of_mem_erase one) second (List.mem_of_mem_erase two)

/-- The host alone keeps up with every operation of the host, if what is made next has the next
number. -/
theorem hostOperation (mirrors : Mirrors number watchNumber world alone)
    (reachable : World.Reachable setups world) (aloneReachable : World.Reachable [] alone)
    (next : number world.surface.nodes.length = alone.surface.nodes.length)
    (nextWatch : watchNumber world.surface.watches.length = alone.surface.watches.length)
    {operation : HostOperation} (allowed : world.host.Allows operation) :
    Mirrors number watchNumber (world.perform (.host operation))
      (alone.perform (.host (operation.renumber number watchNumber))) := by
  have places : world.hostSurface.nodes.length = world.surface.nodes.length :=
    world.surface.places_erase _
  have nodes := mirrors.nodes.perform reachable.within
    (by rw [places]; exact reachable.accounted.places) (by rw [places]; exact next) allowed.1
    watchNumber
  rw [← reachable.hostSurface_of_hostOperation allowed] at nodes
  cases operation with
  | create className =>
    refine ⟨?_, ?_, ?_, mirrors.watches, mirrors.apart⟩
    · have made : (world.host.after world.hostSurface (.create className)).created =
          (world.host.after world.surface (.create className)).created := by
        simp only [Host.after, Surface.createNode, places]
      exact made ▸ nodes
    · show alone.surface.nodes.length :: alone.host.created =
        (world.surface.nodes.length :: world.host.created).map number
      rw [List.map_cons, next, mirrors.created]
    · exact fun held member => List.mem_cons_of_mem _ (mirrors.targets held member)
  | watch target =>
    exact mirrors.watch aloneReachable nextWatch (allowed.1 target (by simp [HostOperation.names]))
  | unwatch held =>
    exact mirrors.unwatch reachable (allowed.2 held (by simp [HostOperation.handsBack]))
  | append parent child =>
    exact ⟨nodes, mirrors.created, mirrors.targets, mirrors.watches, mirrors.apart⟩
  | removeChild parent child =>
    exact ⟨nodes, mirrors.created, mirrors.targets, mirrors.watches, mirrors.apart⟩
  | removeNode id => exact ⟨nodes, mirrors.created, mirrors.targets, mirrors.watches, mirrors.apart⟩
  | setMarkup id markup =>
    exact ⟨nodes, mirrors.created, mirrors.targets, mirrors.watches, mirrors.apart⟩
  | setVisible id visible =>
    exact ⟨nodes, mirrors.created, mirrors.targets, mirrors.watches, mirrors.apart⟩

end Mirrors

/-! ## Runs -/

/-- Watches are given out in order and never again. -/
theorem World.watches_grow (world : World) (operation : Operation) :
    world.surface.watches.length ≤ (world.perform operation).surface.watches.length := by
  cases operation with
  | controller index operation =>
    refine controllerOperation_keeps
      (fun surface _ => world.surface.watches.length ≤ surface.watches.length)
      (fun held _ => held) (fun move held => ?_) (Nat.le_refl _) index operation
    cases move with
    | release setup session surface rests =>
      rw [(surface.release_places_and_watches session).2, List.length_set]
      exact held
    | rest setup surface idle rests => exact held
    | appear setup surface attached =>
      rw [Surface.openSession_eq, Surface.watch, List.length_append,
        (surface.keeps_withSession _).watches]
      exact Nat.le_add_right_of_le held
    | write setup session surface suggestion =>
      rw [(surface.keeps_write setup session suggestion).watches]
      exact held
  | host operation =>
    cases operation with
    | create className => exact Nat.le_refl _
    | append parent child =>
      exact Nat.le_of_eq (congrArg _ (world.surface.keeps_appendChild parent child).watches.symm)
    | removeChild parent child =>
      exact Nat.le_of_eq (congrArg _ (world.surface.keeps_removeChild parent child).watches.symm)
    | removeNode id =>
      exact Nat.le_of_eq (congrArg _ (world.surface.removeNode_keeps id).2.symm)
    | setMarkup id markup => exact Nat.le_refl _
    | setVisible id visible => exact Nat.le_refl _
    | watch target => simp [perform, HostOperation.perform, Surface.watch]
    | unwatch held => simp [perform, HostOperation.perform, Surface.unwatch]

theorem World.created_grows (world : World) (operation : Operation) :
    world.host.created ⊆ (world.perform operation).host.created := by
  cases operation with
  | controller index operation =>
    rw [world.host_of_controllerOperation]
    exact List.Subset.refl _
  | host operation => exact world.host.created_grows world.surface operation

/-- The operations of the host under other numbers. -/
def aloneOperations (number : NodeId → NodeId) (watchNumber : Nat → Nat)
    (operations : List Operation) : List Operation :=
  (hostOperations operations).map fun operation => .host (operation.renumber number watchNumber)

/-- The host alone can do all that the host did, and ends up with the same. -/
structure Follows (number : NodeId → NodeId) (watchNumber : Nat → Nat)
    (operations : List Operation) (world alone : World) : Prop where
  ran : (World.start []).run? (aloneOperations number watchNumber operations) = some alone
  mirrors : Mirrors number watchNumber world alone
  named : ∀ operation ∈ hostOperations operations, ∀ id ∈ operation.names, id ∈ world.host.created
  handedBack : ∀ operation ∈ hostOperations operations, ∀ held ∈ operation.handsBack,
    held.id < world.surface.watches.length ∧ held.target ∈ world.host.created

namespace HostOperation

/-- Only the numbers of what an operation names matter. -/
theorem renumber_congr {number otherNumber : NodeId → NodeId}
    {watchNumber otherWatchNumber : Nat → Nat}
    {operation : HostOperation} (nodes : ∀ id ∈ operation.names, otherNumber id = number id)
    (watches : ∀ held ∈ operation.handsBack,
      held.renumber otherNumber otherWatchNumber = held.renumber number watchNumber) :
    operation.renumber otherNumber otherWatchNumber = operation.renumber number watchNumber := by
  cases operation with
  | unwatch held => exact congrArg unwatch (watches held (by simp [handsBack]))
  | _ => simp_all [renumber, names]

end HostOperation

namespace Follows

variable {setups : List Setup} {operations : List Operation} {world alone : World}
  {number : NodeId → NodeId} {watchNumber : Nat → Nat}

theorem start (setups : List Setup) : Follows id id [] (.start setups) (.start []) := by
  refine ⟨rfl, .start setups, ?_, ?_⟩ <;> simp [hostOperations]

/-- What is made next can be given any number. -/
theorem extend (follows : Follows number watchNumber operations world alone)
    (reachable : World.Reachable setups world) (place watchPlace : Nat) :
    Follows (Function.update number world.surface.nodes.length place)
      (Function.update watchNumber world.surface.watches.length watchPlace) operations world
      alone := by
  have nodes : ∀ id ∈ world.host.created,
      Function.update number world.surface.nodes.length place id = number id := by
    intro id known
    exact Function.update_of_ne (Nat.ne_of_lt (reachable.accounted.places id known)) _ _
  have watches : ∀ id < world.surface.watches.length,
      Function.update watchNumber world.surface.watches.length watchPlace id = watchNumber id := by
    intro id below
    exact Function.update_of_ne (Nat.ne_of_lt below) _ _
  refine ⟨?_, ?_, follows.named, follows.handedBack⟩
  · have same : aloneOperations (Function.update number world.surface.nodes.length place)
        (Function.update watchNumber world.surface.watches.length watchPlace) operations =
          aloneOperations number watchNumber operations := by
      refine List.map_congr_left fun operation member => congrArg Operation.host ?_
      refine HostOperation.renumber_congr ?_ ?_
      · exact fun id named => nodes id (follows.named operation member id named)
      · intro held given
        obtain ⟨below, own⟩ := follows.handedBack operation member held given
        rw [Watch.renumber, Watch.renumber, nodes _ own, watches _ below]
    rw [same]
    exact follows.ran
  · exact follows.mirrors.congr reachable nodes fun held member =>
      watches held.id (reachable.held_watch member)

theorem controllerOperation (follows : Follows number watchNumber operations world alone)
    (reachable : World.Reachable setups world) (index : Nat) (operation : ControllerOperation) :
    Follows number watchNumber (operations ++ [.controller index operation])
      (world.perform (.controller index operation)) alone := by
  have same : hostOperations (operations ++ [.controller index operation]) =
      hostOperations operations := by
    simp [hostOperations]
  have grown := world.created_grows (.controller index operation)
  refine ⟨?_, follows.mirrors.controllerOperation reachable index operation, ?_, ?_⟩
  · rw [aloneOperations, same]
    exact follows.ran
  · rw [same]
    exact fun operation member id named => grown (follows.named operation member id named)
  · rw [same]
    intro operation member held given
    obtain ⟨below, own⟩ := follows.handedBack operation member held given
    exact ⟨Nat.lt_of_lt_of_le below (world.watches_grow _), grown own⟩

theorem hostOperation (follows : Follows number watchNumber operations world alone)
    (reachable : World.Reachable setups world)
    (next : number world.surface.nodes.length = alone.surface.nodes.length)
    (nextWatch : watchNumber world.surface.watches.length = alone.surface.watches.length)
    {operation : HostOperation} (allowed : world.host.Allows operation) :
    Follows number watchNumber (operations ++ [.host operation]) (world.perform (.host operation))
      (alone.perform (.host (operation.renumber number watchNumber))) := by
  have last : hostOperations (operations ++ [.host operation]) =
      hostOperations operations ++ [operation] := by
    simp [hostOperations]
  have grown := world.created_grows (.host operation)
  have aloneReachable := World.Reachable.start.run follows.ran
  refine ⟨?_, follows.mirrors.hostOperation reachable aloneReachable next nextWatch allowed,
    ?_, ?_⟩
  · have aloneAllowed : alone.Allows (.host (operation.renumber number watchNumber)) :=
      follows.mirrors.allows allowed
    have ran := follows.ran
    rw [aloneOperations] at ran
    rw [aloneOperations, last, List.map_append, World.run_append, ran]
    simp [World.run?, aloneAllowed]
  · rw [last]
    intro other member id named
    rcases List.mem_append.mp member with before | here
    · exact grown (follows.named other before id named)
    · obtain rfl := List.mem_singleton.mp here
      exact grown (allowed.1 id named)
  · rw [last]
    intro other member held given
    have bound := world.watches_grow (.host operation)
    rcases List.mem_append.mp member with before | here
    · obtain ⟨below, own⟩ := follows.handedBack other before held given
      exact ⟨Nat.lt_of_lt_of_le below bound, grown own⟩
    · obtain rfl := List.mem_singleton.mp here
      have own := allowed.2 held given
      exact ⟨Nat.lt_of_lt_of_le (reachable.held_watch own) bound,
        grown (follows.mirrors.targets held own)⟩

end Follows

/-- After every run, the host alone can have done the same. -/
theorem World.followed {setups : List Setup} {operations : List Operation} {world : World}
    (ran : (World.start setups).run? operations = some world) :
    ∃ number watchNumber alone, Follows number watchNumber operations world alone := by
  induction operations using List.reverseRecOn generalizing world with
  | nil =>
    cases ran
    exact ⟨id, id, .start [], .start setups⟩
  | append_singleton operations operation ih =>
    rw [run_append] at ran
    obtain ⟨before, ranBefore, last⟩ := Option.bind_eq_some_iff.mp ran
    have reachable := World.Reachable.start.run ranBefore
    obtain ⟨number, watchNumber, alone, follows⟩ := ih ranBefore
    rw [run?] at last
    split at last
    next allowed =>
      cases last
      cases operation with
      | controller index operation =>
        exact ⟨number, watchNumber, alone, follows.controllerOperation reachable index operation⟩
      | host operation =>
        have extended := follows.extend reachable alone.surface.nodes.length
          alone.surface.watches.length
        exact ⟨_, _, _, extended.hostOperation reachable (Function.update_self ..)
          (Function.update_self ..) allowed⟩
    next => cases last

/-- **Overlays are invisible to the host.** After every run, the surface without the nodes of the
sessions has only nodes of the host, linked to one another. The host alone can do all that it
did, naming its nodes and its watches by other numbers, and ends up with the same nodes: they
are numbered in the same order, and numbers apart each of them has the same class, parent,
children in the same order, markup and visibility. -/
theorem overlays_invisible_to_host {setups : List Setup} {operations : List Operation}
    {world : World} (ran : (World.start setups).run? operations = some world) :
    (world.surface.erase (overlayNodes (sessions world.controllers))).Within world.host.created ∧
      ∃ (number : NodeId → NodeId) (watchNumber : Nat → Nat) (alone : World),
        (World.start []).run? ((hostOperations operations).map fun operation =>
          .host (operation.renumber number watchNumber)) = some alone ∧
        (world.surface.erase (overlayNodes (sessions world.controllers))).Renumbered number
          world.host.created alone.surface := by
  have reachable := World.Reachable.start.run ran
  obtain ⟨number, watchNumber, alone, follows⟩ := World.followed ran
  exact ⟨reachable.within, number, watchNumber, alone, follows.ran, follows.mirrors.nodes⟩

/-- The host puts a node behind three overlays, releases the first list and its parent, and gives
back a watch that it took after the controllers took theirs. -/
private def amongOverlays : List Operation :=
  threeOverlays ++ [.host (.create "footer"), .host (.append 0 9), .host (.watch 0),
    .controller 1 .beginInvocation, .host (.removeNode 1), .host (.setMarkup 9 "done"),
    .host (.removeNode 0), .host (.unwatch ⟨3, 0⟩)]

theorem overlays_invisible_among_three :
    ∃ world, (World.start (List.replicate 3 (.standard id))).run? amongOverlays = some world ∧
      world.host.created = [9, 2, 1, 0] ∧
      (world.surface.erase (overlayNodes (sessions world.controllers))).Within [9, 2, 1, 0] ∧
      ∃ (number : NodeId → NodeId) (watchNumber : Nat → Nat) (alone : World),
        (World.start []).run? ((hostOperations amongOverlays).map fun operation =>
          .host (operation.renumber number watchNumber)) = some alone ∧
        (world.surface.erase (overlayNodes (sessions world.controllers))).Renumbered number
          [9, 2, 1, 0] alone.surface := by
  have ran : ∃ world,
      (World.start (List.replicate 3 (.standard id))).run? amongOverlays = some world ∧
      world.host.created = [9, 2, 1, 0] :=
    ⟨_, rfl, by decide⟩
  obtain ⟨world, ran, created⟩ := ran
  have invisible := overlays_invisible_to_host ran
  rw [created] at invisible
  exact ⟨world, ran, created, invisible⟩

end SchemaGuide.Overlay
