import SchemaGuide.Proofs.Overlay.Surface
import SchemaGuide.Proofs.Overlay.World

/-! The nodes of a session have no children, and they are not the parent of any node: only
nodes that the host made ever stand above another node. Releasing a session therefore leaves
the nodes of all other sessions as they are. -/
namespace SchemaGuide.Overlay

/-- All links from and to children have a node of the list as the parent. -/
structure Linked (surface : Surface) (own : List NodeId) : Prop where
  parents : ∀ {id node parent}, surface.node? id = some node → node.parent = some parent →
    parent ∈ own
  children : ∀ {id node child}, surface.node? id = some node → child ∈ node.children → id ∈ own

namespace Linked

variable {surface after : Surface} {own : List NodeId}

theorem mono {more : List NodeId} (linked : Linked surface own) (subset : own ⊆ more) :
    Linked surface more :=
  ⟨fun found link => subset (linked.parents found link),
    fun found member => subset (linked.children found member)⟩

/-- The parent of a node is in the list. -/
theorem parent (linked : Linked surface own) {id parent : NodeId}
    (attached : surface.parent? id = some parent) : parent ∈ own := by
  obtain ⟨node, found, link⟩ := Option.bind_eq_some_iff.mp attached
  exact linked.parents found link

/-- A node outside of the list has no children. -/
theorem leaf (linked : Linked surface own) {id : NodeId} (other : id ∉ own) {node : SurfaceNode}
    (found : surface.node? id = some node) : node.children = [] :=
  List.eq_nil_iff_forall_not_mem.mpr fun _ member => other (linked.children found member)

/-- Nodes that are changed in their places keep or lose links, or gain them in the list. -/
theorem of_map (linked : Linked surface own) {change : NodeId → SurfaceNode → SurfaceNode}
    (changed : ∀ id, after.node? id = (surface.node? id).map (change id))
    (parents : ∀ id node parent, (change id node).parent = some parent →
      node.parent = some parent ∨ parent ∈ own)
    (children : ∀ id node child, child ∈ (change id node).children →
      child ∈ node.children ∨ id ∈ own) :
    Linked after own := by
  refine ⟨fun {id node parent} found link => ?_, fun {id node child} found member => ?_⟩
  · rw [changed] at found
    obtain ⟨old, known, rfl⟩ := Option.map_eq_some_iff.mp found
    rcases parents id old parent link with before | new
    · exact linked.parents known before
    · exact new
  · rw [changed] at found
    obtain ⟨old, known, rfl⟩ := Option.map_eq_some_iff.mp found
    rcases children id old child member with before | new
    · exact linked.children known before
    · exact new

theorem update (linked : Linked surface own) (id : NodeId) {change : SurfaceNode → SurfaceNode}
    (parent : ∀ node, (change node).parent = node.parent)
    (children : ∀ node, (change node).children = node.children) :
    Linked (surface.update id change) own := by
  have changed (other : NodeId) : (surface.update id change).node? other =
      (surface.node? other).map fun node => if other = id then change node else node := by
    rw [Surface.node_update]
    split <;> simp
  refine linked.of_map changed (fun other node above => ?_) (fun other node child => ?_)
  · split <;> simp_all
  · split <;> simp_all

theorem setMarkup (linked : Linked surface own) (id : NodeId) (markup : String) :
    Linked (surface.setMarkup id markup) own :=
  linked.update id (fun _ => rfl) (fun _ => rfl)

theorem setVisible (linked : Linked surface own) (id : NodeId) (visible : Bool) :
    Linked (surface.setVisible id visible) own :=
  linked.update id (fun _ => rfl) (fun _ => rfl)

theorem createNode (linked : Linked surface own) (className : String) :
    Linked (surface.createNode className).2 own := by
  refine ⟨fun {id node parent} found link => ?_, fun {id node child} found member => ?_⟩ <;>
    rw [Surface.node_createNode] at found <;> split at found
  · cases found
    cases link
  · exact linked.parents found link
  · cases found
    cases member
  · exact linked.children found member

theorem appendChild (linked : Linked surface own) {parent : NodeId} (inside : parent ∈ own)
    (child : NodeId) : Linked (surface.appendChild parent child) own := by
  cases found : surface.node? parent with
  | none => exact (Surface.appendChild_of_absent found child).symm ▸ linked
  | some node =>
    have present : (surface.node? parent).isSome := by simp [found]
    refine linked.of_map (surface.node_appendChild present child) (fun id node above => ?_)
      (fun id node other member => ?_)
    · dsimp only
      split
      · rintro ⟨⟩
        exact .inr inside
      · exact .inl
    · rcases List.mem_append.mp member with old | new
      · refine .inl ?_
        split at old
        · exact List.mem_of_mem_filter old
        · exact old
      · split at new
        next here => exact .inr (here ▸ inside)
        next => cases new

theorem dropChild (linked : Linked surface own) (parent child : NodeId) :
    Linked (surface.dropChild parent child) own := by
  refine linked.of_map (surface.node_dropChild parent child) (fun _ _ _ => .inl)
    (fun id node other member => .inl ?_)
  dsimp only at member
  split at member
  · exact List.mem_of_mem_filter member
  · exact member

theorem detach (linked : Linked surface own) (id : NodeId) :
    Linked (surface.setParent id none) own := by
  refine linked.of_map (fun other => surface.node_setParent id other none)
    (fun other node above => ?_) (fun _ _ _ => .inl)
  dsimp only
  split
  · rintro ⟨⟩
  · exact .inl

theorem removeChild (linked : Linked surface own) (parent child : NodeId) :
    Linked (surface.removeChild parent child).2 own := by
  by_cases member : child ∈ surface.children parent
  · rw [Surface.removeChild_of_member member]
    exact (linked.dropChild parent child).detach child
  · rw [Surface.removeChild_of_not_member member]
    exact linked

theorem removeNode (linked : Linked surface own) (id : NodeId) :
    Linked (surface.removeNode id) own := by
  cases present : surface.node? id with
  | none => exact (Surface.removeNode_of_absent present).symm ▸ linked
  | some removed =>
    refine ⟨fun {other node parent} found link => ?_, fun {other node child} found member => ?_⟩ <;>
      rw [Surface.node_removeNode present] at found <;> split at found
    · cases found
    · obtain ⟨old, known, rfl⟩ := Option.map_eq_some_iff.mp found
      dsimp only at link
      split at link
      · cases link
      · exact linked.parents known link
    · cases found
    · obtain ⟨old, known, rfl⟩ := Option.map_eq_some_iff.mp found
      dsimp only at member
      split at member
      · exact linked.children known (List.mem_of_mem_filter member)
      · exact linked.children known member

theorem same_nodes (linked : Linked surface own) (same : after.nodes = surface.nodes) :
    Linked after own := by
  have nodes (id : NodeId) : after.node? id = surface.node? id := by rw [Surface.node?, same]; rfl
  exact ⟨fun found => linked.parents (nodes _ ▸ found),
    fun found => linked.children (nodes _ ▸ found)⟩

/-! ## Operations -/

/-- A host that names only its own nodes links only those. -/
theorem hostOperation {host : Host} (linked : Linked surface host.created)
    {operation : HostOperation} (allowed : host.Allows operation) :
    Linked (operation.perform surface) (host.after surface operation).created := by
  cases operation with
  | create className => exact (linked.createNode className).mono (List.subset_cons_self _ _)
  | append parent child =>
    exact linked.appendChild (allowed.1 _ (by simp [HostOperation.names])) child
  | removeChild parent child => exact linked.removeChild parent child
  | removeNode id => exact linked.removeNode id
  | setMarkup id markup => exact linked.setMarkup id markup
  | setVisible id visible => exact linked.setVisible id visible
  | watch target => exact linked.same_nodes rfl
  | unwatch held => exact linked.same_nodes rfl

theorem release (linked : Linked surface own) (session : Session) :
    Linked (Controller.release surface session) own := by
  have unwatched : Linked (surface.unwatch session.watch.id) own := linked.same_nodes rfl
  exact (unwatched.removeNode session.info).removeNode session.deprecation

theorem openSession (linked : Linked surface own) {parent : NodeId} (inside : parent ∈ own)
    (list : NodeId) : Linked (Controller.openSession surface parent list).2 own := by
  have grown := (linked.createNode infoClass).createNode deprecationClass
  have placed : Linked (surface.withSession parent) own :=
    (grown.appendChild inside _).appendChild inside _
  rw [Surface.openSession_eq]
  exact placed.same_nodes rfl

theorem write (linked : Linked surface own) (setup : Setup) (session : Session)
    (suggestion : Suggestion) : Linked (Controller.write setup surface session suggestion) own := by
  rw [Controller.write]
  split
  · exact ((linked.setMarkup _ _).setMarkup _ _).setVisible _ _
  · exact (linked.setMarkup _ _).setVisible _ _

/-- So does a controller, which puts its nodes beside a list. -/
theorem move {before next : Controller × Surface} (move : Move before next)
    (linked : Linked before.2 own) : Linked next.2 own := by
  cases move with
  | release setup session surface rests => exact linked.release session
  | rest setup surface idle rests => exact linked
  | @appear setup surface parent list attached =>
    exact linked.openSession (linked.parent attached) list
  | write setup session surface suggestion => exact linked.write setup session suggestion

end Linked

/-- In every world that can be reached, only nodes of the host stand above other nodes. -/
theorem World.Reachable.linked {setups : List Setup} {world : World}
    (reachable : Reachable setups world) : Linked world.surface world.host.created :=
  reachable.invariant (fun surface host _ => Linked surface host.created) (fun known _ => known)
    ⟨by simp [Surface.empty, Surface.node?], by simp [Surface.empty, Surface.node?]⟩
    (fun known allowed => known.hostOperation allowed) (fun move known => known.move move)

end SchemaGuide.Overlay
