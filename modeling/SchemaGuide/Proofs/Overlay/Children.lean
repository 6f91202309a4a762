import SchemaGuide.Proofs.Overlay.Erasure

/-! What stands among the children of a node. A host that names only its own nodes never
appends anything that was not there before, so every child is one of its nodes or belongs to
a session, and a child that is still there has the node above it as its parent. Both
together say that a released node leaves no trace in any list of children. -/
namespace SchemaGuide.Overlay

namespace Surface

theorem mem_children {surface : Surface} {id child : NodeId} :
    child ∈ surface.children id ↔
      ∃ node, surface.node? id = some node ∧ child ∈ node.children := by
  cases found : surface.node? id <;> simp [children, found]

theorem parent_of_node {surface : Surface} {id : NodeId} {node : SurfaceNode}
    (found : surface.node? id = some node) : surface.parent? id = node.parent := by
  simp [parent?, found]

end Surface

/-- All children are in the list, and those that are there have the node above as parent. -/
structure Listed (surface : Surface) (known : List NodeId) : Prop where
  children : ∀ {id node child}, surface.node? id = some node → child ∈ node.children →
    child ∈ known
  parents : ∀ {id node child below}, surface.node? id = some node → child ∈ node.children →
    surface.node? child = some below → below.parent = some id

namespace Listed

variable {surface after : Surface} {known : List NodeId}

theorem mono {more : List NodeId} (listed : Listed surface known) (subset : known ⊆ more) :
    Listed surface more :=
  ⟨fun found member => subset (listed.children found member), listed.parents⟩

/-- Nodes that stay are changed in their places. A child there is an old one whose parent
stays, or a new one from the list whose parent is set. -/
theorem of_map (listed : Listed surface known) {change : NodeId → SurfaceNode → SurfaceNode}
    (changed : ∀ {id kept}, after.node? id = some kept →
      ∃ node, surface.node? id = some node ∧ kept = change id node)
    (kept : ∀ {id node child}, surface.node? id = some node → (after.node? id).isSome →
      child ∈ (change id node).children →
        (child ∈ node.children ∨ child ∈ known) ∧
        ∀ below, surface.node? child = some below →
          (child ∈ node.children → below.parent = some id) →
            (change child below).parent = some id) :
    Listed after known := by
  constructor
  · intro id node child found member
    obtain ⟨old, here, rfl⟩ := changed found
    rcases (kept here (by simp [found]) member).1 with before | new
    · exact listed.children here before
    · exact new
  · intro id node child below found member there
    obtain ⟨old, here, rfl⟩ := changed found
    obtain ⟨oldBelow, hereBelow, rfl⟩ := changed there
    apply (kept here (by simp [found]) member).2 oldBelow hereBelow
    intro before
    exact listed.parents here before hereBelow

theorem update (listed : Listed surface known) (id : NodeId) {change : SurfaceNode → SurfaceNode}
    (parent : ∀ node, (change node).parent = node.parent)
    (children : ∀ node, (change node).children = node.children) :
    Listed (surface.update id change) known := by
  have changed (other : NodeId) : (surface.update id change).node? other =
      (surface.node? other).map fun node => if other = id then change node else node := by
    rw [Surface.node_update]
    split <;> simp
  have links (other : NodeId) (node : SurfaceNode) :
      (if other = id then change node else node).parent = node.parent ∧
        (if other = id then change node else node).children = node.children := by
    split
    · exact ⟨parent node, children node⟩
    · exact ⟨rfl, rfl⟩
  apply listed.of_map
  · intro other kept found
    rw [changed] at found
    obtain ⟨node, here, rfl⟩ := Option.map_eq_some_iff.mp found
    exact ⟨node, here, rfl⟩
  · intro other node child here live member
    rw [(links other node).2] at member
    refine ⟨.inl member, ?_⟩
    intro below there old
    rw [(links child below).1]
    exact old member

theorem createNode (listed : Listed surface known)
    (places : ∀ id ∈ known, id < surface.nodes.length) (className : String) :
    Listed (surface.createNode className).2 known := by
  constructor
  · intro id node child found member
    rw [Surface.node_createNode] at found
    split at found
    · cases found
      cases member
    · exact listed.children found member
  · intro id node child below found member there
    rw [Surface.node_createNode] at found there
    split at found
    · cases found
      cases member
    · have older := places child (listed.children found member)
      rw [if_neg (Nat.ne_of_lt older)] at there
      exact listed.parents found member there

theorem appendChild (listed : Listed surface known) (parent : NodeId) {child : NodeId}
    (inside : child ∈ known) : Listed (surface.appendChild parent child) known := by
  cases found : surface.node? parent with
  | none => exact (Surface.appendChild_of_absent found child).symm ▸ listed
  | some node =>
    have present : (surface.node? parent).isSome := by simp [found]
    apply listed.of_map
    · intro id kept there
      rw [surface.node_appendChild present] at there
      obtain ⟨old, here, rfl⟩ := Option.map_eq_some_iff.mp there
      exact ⟨old, here, rfl⟩
    · intro id old other here live member
      rcases List.mem_append.mp member with before | new
      · -- An old child keeps its parent, as the moved one is taken from its old place first.
        have listedBefore : other ∈ old.children := by
          split at before
          · exact List.mem_of_mem_filter before
          · exact before
        refine ⟨.inl listedBefore, ?_⟩
        intro below there above
        have parents := above listedBefore
        have stays : other ≠ child := by
          rintro rfl
          rw [Surface.parent_of_node there, parents, if_pos rfl] at before
          simp at before
        simpa [stays] using parents
      · split at new
        next same =>
          obtain rfl := List.mem_singleton.mp new
          exact ⟨.inr inside, fun _ _ _ => by simp [same]⟩
        next => cases new

theorem removeChild (listed : Listed surface known) (parent child : NodeId) :
    Listed (surface.removeChild parent child).2 known := by
  by_cases member : child ∈ surface.children parent
  · obtain ⟨above, foundAbove, among⟩ := Surface.mem_children.mp member
    rw [Surface.removeChild_of_member member]
    apply listed.of_map
    · intro id kept there
      rw [Surface.node_setParent, Surface.node_dropChild, Option.map_map] at there
      obtain ⟨old, here, rfl⟩ := Option.map_eq_some_iff.mp there
      exact ⟨old, here, rfl⟩
    · intro id old other here live stays
      have before : other ∈ old.children := by
        dsimp only [Function.comp_apply] at stays
        split at stays
        · exact List.mem_of_mem_filter stays
        · exact stays
      refine ⟨.inl before, ?_⟩
      intro below there parents
      have link := parents before
      have different : other ≠ child := by
        rintro rfl
        have same : parent = id :=
          Option.some.inj ((listed.parents foundAbove among there).symm.trans link)
        simp [same] at stays
      simpa [different] using link
  · rw [Surface.removeChild_of_not_member member]
    exact listed

theorem removeNode (listed : Listed surface known) (id : NodeId) :
    Listed (surface.removeNode id) known := by
  cases present : surface.node? id with
  | none => exact (Surface.removeNode_of_absent present).symm ▸ listed
  | some removed =>
    apply listed.of_map
    · intro other kept there
      rw [Surface.node_removeNode present] at there
      split at there
      · cases there
      · obtain ⟨old, here, rfl⟩ := Option.map_eq_some_iff.mp there
        exact ⟨old, here, rfl⟩
    · intro other old child here live stays
      have before : child ∈ old.children := by
        dsimp only at stays
        split at stays
        · exact List.mem_of_mem_filter stays
        · exact stays
      refine ⟨.inl before, ?_⟩
      intro below there parents
      have link := parents before
      have kept : child ∉ removed.children := by
        intro lost
        have same : id = other :=
          Option.some.inj ((listed.parents present lost there).symm.trans link)
        exact ((Surface.live_removeNode surface id other).mp live).1 same.symm
      simpa [kept] using link

theorem congr (listed : Listed surface known) (same : ∀ id, after.node? id = surface.node? id) :
    Listed after known :=
  ⟨fun found => listed.children (same _ ▸ found),
    fun found member there => listed.parents (same _ ▸ found) member (same _ ▸ there)⟩

/-- What is erased stands among no children any more. -/
theorem erase (listed : Listed surface known) (gone : List NodeId) :
    Listed (surface.erase gone) (known.filter (· ∉ gone)) := by
  have kept {id : NodeId} {node : SurfaceNode} (found : (surface.erase gone).node? id = some node) :
      ∃ old, surface.node? id = some old ∧ node = old.erase gone := by
    rw [Surface.node_erase] at found
    split at found
    · cases found
    · obtain ⟨old, here, rfl⟩ := Option.map_eq_some_iff.mp found
      exact ⟨old, here, rfl⟩
  constructor
  · intro id node child found member
    obtain ⟨old, here, rfl⟩ := kept found
    obtain ⟨before, other⟩ := List.mem_filter.mp member
    exact List.mem_filter.mpr ⟨listed.children here before, other⟩
  · intro id node child below found member there
    obtain ⟨old, here, rfl⟩ := kept found
    obtain ⟨oldBelow, hereBelow, rfl⟩ := kept there
    have link : oldBelow.parent = some id :=
      listed.parents here (List.mem_of_mem_filter member) hereBelow
    exact link

end Listed

/-! ## Sessions -/

namespace Surface

/-- Writing fills the nodes of the session and no others. -/
theorem node_write {id : NodeId} {session : Session} (other : id ∉ session.nodes) (setup : Setup)
    (surface : Surface) (suggestion : Suggestion) :
    (Controller.write setup surface session suggestion).node? id = surface.node? id := by
  obtain ⟨notInfo, notDeprecation⟩ := not_or.mp (mt Session.mem_nodes.mpr other)
  rw [Controller.write]
  split <;> simp [setMarkup, setVisible, node_update, notInfo, notDeprecation]

/-- A released session is an erased one, where its nodes have no children and stand among
those of their parents only. -/
theorem node_release {surface : Surface} {known : List NodeId} (listed : Listed surface known)
    {session : Session} (leaves : ∀ id ∈ session.nodes, surface.Leaf id)
    (live : ∀ id ∈ session.nodes, (surface.node? id).isSome) (id : NodeId) :
    (Controller.release surface session).node? id = (surface.erase session.nodes).node? id := by
  have nodes : overlayNodes [session] = session.nodes := by simp [overlayNodes]
  have released : (Controller.release surface session).node? id =
      surface.without (overlayNodes [session]) id :=
    node_release_all (fun id member => leaves id (nodes ▸ member)) id
  rw [nodes] at released
  rw [released, without, node_erase]
  split
  · rfl
  · cases found : surface.node? id with
    | none => rfl
    | some node =>
      have same : ∀ child ∈ node.children,
          decide (¬ (child ∈ session.nodes ∧ surface.parent? child = some id)) =
            decide (child ∉ session.nodes) := by
        intro child member
        by_cases own : child ∈ session.nodes
        · obtain ⟨below, there⟩ := Option.isSome_iff_exists.mp (live child own)
          have link := listed.parents found member there
          simp [own, parent_of_node there, link]
        · simp [own]
      simp only [Option.map_some, SurfaceNode.erase, List.filter_congr same]

theorem node_withNodes (surface : Surface) {id : NodeId} (notInfo : id ≠ surface.nodes.length)
    (notDeprecation : id ≠ surface.nodes.length + 1) :
    surface.withNodes.node? id = surface.node? id := by
  rw [withNodes, node_createNode, length_createNode, if_neg notDeprecation, node_createNode,
    if_neg notInfo]

/-- A new session adds two children to the parent, and changes no other node. -/
theorem node_withSession (surface : Surface) {parent : NodeId}
    (older : parent < surface.nodes.length) {id : NodeId} (notInfo : id ≠ surface.nodes.length)
    (notDeprecation : id ≠ surface.nodes.length + 1) :
    (surface.withSession parent).node? id = (surface.node? id).map fun node =>
      { node with
        children := node.children ++
          if id = parent then [surface.nodes.length, surface.nodes.length + 1] else [] } := by
  have parentKept : surface.withNodes.node? parent = surface.node? parent :=
    surface.node_withNodes (Nat.ne_of_lt older) (Nat.ne_of_lt (Nat.lt_succ_of_lt older))
  have infoAlone : surface.withNodes.parent? surface.nodes.length = none := by
    simp [withNodes, parent?, node_createNode, length_createNode]
  cases found : surface.node? parent with
  | none =>
    have absent : surface.withNodes.node? parent = none := parentKept.trans found
    have other : surface.node? id = none ∨ id ≠ parent := by
      by_cases same : id = parent
      · exact .inl (same ▸ found)
      · exact .inr same
    rw [withSession, appendChild_of_absent absent, appendChild_of_absent absent,
      surface.node_withNodes notInfo notDeprecation]
    rcases other with none | other
    · simp [none]
    · simp [other]
  | some node =>
    have present : (surface.withNodes.node? parent).isSome := by simp [parentKept, found]
    have presentAfter :
        ((surface.withNodes.appendChild parent surface.nodes.length).node? parent).isSome := by
      rw [(keeps_appendChild _ _ _).live]
      exact present
    have deprecationAlone : (surface.withNodes.appendChild parent surface.nodes.length).parent?
        (surface.nodes.length + 1) = none := by
      rw [parent?, node_appendChild _ present]
      simp [withNodes, node_createNode, length_createNode]
    rw [withSession, node_appendChild _ presentAfter, deprecationAlone,
      node_appendChild _ present, infoAlone, surface.node_withNodes notInfo notDeprecation,
      Option.map_map]
    refine congrArg (Option.map · _) (funext fun node => ?_)
    by_cases same : id = parent
    · subst same
      simp [notInfo, notDeprecation]
    · simp [same, notInfo, notDeprecation]

end Surface

/-! ## Reachable worlds -/

/-- The nodes that the host made, and those of sessions. -/
def knownNodes (host : Host) (shown : List Session) : List NodeId :=
  host.created ++ overlayNodes shown

/-- The accounts are kept and the links are in order. -/
structure Orderly (surface : Surface) (host : Host) (shown : List Session) : Prop where
  accounted : Accounted surface host shown
  linked : Linked surface host.created
  listed : Listed surface (knownNodes host shown)

namespace Orderly

variable {surface : Surface} {host : Host} {shown : List Session}

theorem start : Orderly .empty .initial [] := by
  refine ⟨.start, ⟨?_, ?_⟩, ⟨?_, ?_⟩⟩ <;> simp [Surface.empty, Surface.node?]

theorem perm {others : List Session} (orderly : Orderly surface host shown)
    (same : shown.Perm others) : Orderly surface host others := by
  refine ⟨orderly.accounted.perm same, orderly.linked, orderly.listed.mono ?_⟩
  have nodes : (overlayNodes shown).Perm (overlayNodes others) := same.flatMap_right _
  exact (nodes.append_left host.created).subset

theorem places (orderly : Orderly surface host shown) :
    ∀ id ∈ knownNodes host shown, id < surface.nodes.length := by
  intro id member
  rcases List.mem_append.mp member with own | overlay
  · exact orderly.accounted.places id own
  · exact orderly.accounted.lt_of_overlay_node overlay

/-- The nodes of sessions have no children. -/
theorem leaf (orderly : Orderly surface host shown) {id : NodeId}
    (member : id ∈ overlayNodes shown) : surface.Leaf id := by
  intro node found
  exact orderly.linked.leaf (fun own => orderly.accounted.apart id own member) found

theorem live (orderly : Orderly surface host shown) {id : NodeId}
    (member : id ∈ overlayNodes shown) : (surface.node? id).isSome :=
  (orderly.accounted.nodes.live id).mpr (List.mem_append_right _ member)

theorem hostOperation (orderly : Orderly surface host shown) {operation : HostOperation}
    (allowed : host.Allows operation) :
    Orderly (operation.perform surface) (host.after surface operation) shown := by
  have names : ∀ id ∈ operation.names, id ∈ knownNodes host shown := by
    intro id member
    exact List.mem_append_left _ (allowed.1 id member)
  refine ⟨orderly.accounted.hostOperation allowed, orderly.linked.hostOperation allowed, ?_⟩
  have listed := orderly.listed
  cases operation with
  | create className =>
    exact (listed.createNode orderly.places className).mono (List.subset_cons_self _ _)
  | append parent child =>
    exact listed.appendChild parent (names child (by simp [HostOperation.names]))
  | removeChild parent child => exact listed.removeChild parent child
  | removeNode id => exact listed.removeNode id
  | setMarkup id markup => exact listed.update id (fun _ => rfl) (fun _ => rfl)
  | setVisible id visible => exact listed.update id (fun _ => rfl) (fun _ => rfl)
  | watch target => exact listed.congr fun _ => rfl
  | unwatch held => exact listed.congr fun _ => rfl

/-- The nodes that stay when the first session is released. -/
theorem node_release {session : Session} (orderly : Orderly surface host (session :: shown))
    (id : NodeId) :
    (Controller.release surface session).node? id = (surface.erase session.nodes).node? id := by
  have first {id : NodeId} (member : id ∈ session.nodes) : id ∈ overlayNodes (session :: shown) :=
    List.mem_append_left _ member
  exact Surface.node_release orderly.listed (fun id member => orderly.leaf (first member))
    (fun id member => orderly.live (first member)) id

theorem release {session : Session} (orderly : Orderly surface host (session :: shown)) :
    Orderly (Controller.release surface session) host shown := by
  refine ⟨orderly.accounted.release, orderly.linked.release session, ?_⟩
  refine ((orderly.listed.erase session.nodes).congr orderly.node_release).mono ?_
  intro id member
  obtain ⟨known, other⟩ := List.mem_filter.mp member
  rcases List.mem_append.mp known with own | overlay
  · exact List.mem_append_left _ own
  · rcases List.mem_append.mp overlay with gone | stays
    · simp [gone] at other
    · exact List.mem_append_right _ stays

theorem openSession (orderly : Orderly surface host shown) {parent list : NodeId}
    (attached : surface.parent? list = some parent) :
    Orderly (Controller.openSession surface parent list).2 host
      ((Controller.openSession surface parent list).1 :: shown) := by
  refine ⟨orderly.accounted.openSession parent list,
    orderly.linked.openSession (orderly.linked.parent attached) list, ?_⟩
  have older := orderly.places
  have grown : Listed surface.withNodes (knownNodes host shown) := by
    refine (orderly.listed.createNode older infoClass).createNode ?_ deprecationClass
    intro id member
    rw [Surface.length_createNode]
    exact Nat.lt_succ_of_lt (older id member)
  have wider : Listed surface.withNodes
      (surface.nodes.length :: (surface.nodes.length + 1) :: knownNodes host shown) :=
    grown.mono (List.subset_cons_of_subset _ (List.subset_cons_self _ _))
  have placed : Listed (surface.withSession parent)
      (surface.nodes.length :: (surface.nodes.length + 1) :: knownNodes host shown) :=
    (wider.appendChild parent (by simp)).appendChild parent (by simp)
  have watched : Listed ((surface.withSession parent).watch parent).2
      (surface.nodes.length :: (surface.nodes.length + 1) :: knownNodes host shown) :=
    placed.congr fun _ => rfl
  rw [Surface.openSession_eq]
  refine watched.mono ?_
  intro id member
  simp only [List.mem_cons, knownNodes, overlayNodes, List.mem_append, List.flatMap_cons,
    Session.nodes, List.not_mem_nil, or_false] at member ⊢
  tauto

theorem write {setup : Setup} {session : Session} {suggestion : Suggestion}
    (orderly : Orderly surface host shown) :
    Orderly (Controller.write setup surface session suggestion) host shown := by
  refine ⟨orderly.accounted.keeps (surface.keeps_write setup session suggestion),
    orderly.linked.write setup session suggestion, ?_⟩
  have content {surface : Surface} (listed : Listed surface (knownNodes host shown)) (id : NodeId) :
      (∀ markup, Listed (surface.setMarkup id markup) (knownNodes host shown)) ∧
        ∀ visible, Listed (surface.setVisible id visible) (knownNodes host shown) :=
    ⟨fun _ => listed.update id (fun _ => rfl) (fun _ => rfl),
      fun _ => listed.update id (fun _ => rfl) (fun _ => rfl)⟩
  have filled := (content orderly.listed session.info).1
    (compose setup.renderer setup.style setup.fallback suggestion).info
  rw [Controller.write]
  split
  · exact (content ((content filled _).1 _) _).2 _
  · exact (content filled _).2 _

theorem move {before next : Controller × Surface} (move : Move before next)
    (orderly : Orderly before.2 host (before.1.session?.toList ++ shown)) :
    Orderly next.2 host (next.1.session?.toList ++ shown) := by
  cases move with
  | release setup session surface rests => rcases rests with rfl | rfl <;> exact orderly.release
  | rest setup surface idle rests =>
    rcases idle with rfl | rfl <;> rcases rests with rfl | rfl <;> exact orderly
  | appear setup surface attached => exact orderly.openSession attached
  | write setup session surface suggestion => exact orderly.write

end Orderly

/-- In every world that can be reached, the accounts are kept and the links are in order. -/
theorem World.Reachable.orderly {setups : List Setup} {world : World}
    (reachable : Reachable setups world) :
    Orderly world.surface world.host (sessions world.controllers) :=
  reachable.invariant Orderly (fun known same => known.perm same) .start
    (fun known allowed => known.hostOperation allowed) (fun move known => known.move move)

end SchemaGuide.Overlay
