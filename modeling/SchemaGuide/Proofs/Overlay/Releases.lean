import SchemaGuide.Proofs.Overlay.Accounts
import SchemaGuide.Proofs.Overlay.Links

/-! What is left after sessions are released. A node without children takes nothing along but
its own place among the children of its parent, so the surface that is left depends on which
sessions are released and not on the order. -/
namespace SchemaGuide.Overlay

namespace Surface

/-- The node of an identifier on the surface without some nodes that have no children. -/
def without (surface : Surface) (gone : List NodeId) (id : NodeId) : Option SurfaceNode :=
  if id ∈ gone then none
  else (surface.node? id).map fun node =>
    { node with
      children := node.children.filter fun child =>
        ¬ (child ∈ gone ∧ surface.parent? child = some id) }

@[simp] theorem without_nil (surface : Surface) (id : NodeId) :
    surface.without [] id = surface.node? id := by
  simp [without]

theorem without_congr (surface : Surface) {gone others : List NodeId}
    (same : ∀ id, id ∈ gone ↔ id ∈ others) (id : NodeId) :
    surface.without gone id = surface.without others id := by
  simp [without, same]

/-- The node has no children. -/
def Leaf (surface : Surface) (id : NodeId) : Prop :=
  ∀ node, surface.node? id = some node → node.children = []

theorem without_of_leaf {surface : Surface} {gone : List NodeId} {id : NodeId}
    (leaf : surface.Leaf id) (kept : id ∉ gone) : surface.without gone id = surface.node? id := by
  rw [without, if_neg kept]
  cases found : surface.node? id with
  | none => rfl
  | some node =>
    obtain ⟨className, parent, children, markup, visible⟩ := node
    obtain rfl : children = [] := leaf _ found
    rfl

/-- A node without children leaves its parent when it is released, and nothing else. -/
theorem node_remove_leaf {surface : Surface} {id : NodeId} (leaf : surface.Leaf id)
    (other : NodeId) :
    (surface.removeNode id).node? other =
      if other = id then none
      else (surface.node? other).map fun node =>
        { node with
          children := if surface.parent? id = some other then node.children.filter (· != id)
            else node.children } := by
  cases present : surface.node? id with
  | none =>
    rw [removeNode_of_absent present]
    by_cases same : other = id <;> simp [same, present, parent?]
  | some removed =>
    have link : surface.parent? id = removed.parent := by simp [parent?, present]
    rw [node_removeNode present, link]
    simp [leaf removed present]

theorem parent_remove_leaf {surface : Surface} {id : NodeId} (leaf : surface.Leaf id)
    (other : NodeId) :
    (surface.removeNode id).parent? other = if other = id then none else surface.parent? other := by
  have parent (surface : Surface) (id : NodeId) :
      surface.parent? id = (surface.node? id).bind (·.parent) := rfl
  rw [parent, node_remove_leaf leaf, parent surface other]
  split
  · rfl
  · cases surface.node? other <;> rfl

theorem Leaf.remove {surface : Surface} {id removed : NodeId} (leaf : surface.Leaf id)
    (other : surface.Leaf removed) : (surface.removeNode removed).Leaf id := by
  intro node found
  rw [node_remove_leaf other] at found
  split at found
  · cases found
  · obtain ⟨old, known, rfl⟩ := Option.map_eq_some_iff.mp found
    simp [leaf old known]

private theorem filter_of_remove_leaf (surface : Surface) (id other : NodeId)
    (gone children : List NodeId) :
    ((if surface.parent? id = some other then children.filter (· != id) else children).filter
      fun child =>
        ¬ (child ∈ gone ∧ (if child = id then none else surface.parent? child) = some other)) =
      children.filter fun child => ¬ (child ∈ id :: gone ∧ surface.parent? child = some other) := by
  split
  next link =>
    rw [List.filter_filter]
    refine List.filter_congr fun child _ => ?_
    by_cases same : child = id <;> simp [same, link]
  next link =>
    refine List.filter_congr fun child _ => ?_
    by_cases same : child = id <;> simp [same, link]

/-- Releasing a node without children is going without it. -/
theorem without_of_removeNode {surface : Surface} {id : NodeId} (leaf : surface.Leaf id)
    (gone : List NodeId) (other : NodeId) :
    (surface.removeNode id).without gone other = surface.without (id :: gone) other := by
  rw [without, without, node_remove_leaf leaf]
  by_cases removed : other = id
  · simp [removed]
  · by_cases absent : other ∈ gone
    · simp [absent]
    · have inside : other ∉ id :: gone := by simp [removed, absent]
      rw [if_neg absent, if_neg removed, if_neg inside, Option.map_map]
      refine congrArg (Option.map · _) (funext fun node => ?_)
      simp only [Function.comp_apply, parent_remove_leaf leaf, filter_of_remove_leaf]

/-- What is left of a node after sessions are released. -/
theorem node_release_all {surface : Surface} {closed : List Session}
    (leaves : ∀ id ∈ overlayNodes closed, surface.Leaf id) (id : NodeId) :
    (closed.foldl Controller.release surface).node? id =
      surface.without (overlayNodes closed) id := by
  induction closed generalizing surface with
  | nil => exact (surface.without_nil id).symm
  | cons session rest ih =>
    have info : (surface.unwatch session.watch.id).Leaf session.info :=
      leaves session.info (by simp [overlayNodes, Session.nodes])
    have deprecation : (surface.unwatch session.watch.id).Leaf session.deprecation :=
      leaves session.deprecation (by simp [overlayNodes, Session.nodes])
    have later : ∀ id ∈ overlayNodes rest, (Controller.release surface session).Leaf id := by
      intro id member
      have leaf : (surface.unwatch session.watch.id).Leaf id :=
        leaves id (List.mem_append_right _ member)
      exact (leaf.remove info).remove (deprecation.remove info)
    rw [List.foldl_cons, ih later, Controller.release,
      without_of_removeNode (deprecation.remove info), without_of_removeNode info]
    rfl

/-- A surface is its places with the nodes in them, and its watches. -/
theorem eq_of_node {first second : Surface}
    (places : first.nodes.length = second.nodes.length)
    (nodes : ∀ id, first.node? id = second.node? id) (watches : first.watches = second.watches) :
    first = second := by
  obtain ⟨firstNodes, firstWatches⟩ := first
  obtain ⟨secondNodes, secondWatches⟩ := second
  obtain rfl : firstWatches = secondWatches := watches
  have same : firstNodes = secondNodes := by
    refine List.ext_getElem places fun id inside insideSecond => ?_
    have here := nodes id
    rw [node?, node?, List.getElem?_eq_getElem inside,
      List.getElem?_eq_getElem insideSecond] at here
    exact here
  rw [same]

private theorem release_all_places_and_watches (surface : Surface) (closed : List Session) :
    (closed.foldl Controller.release surface).nodes.length = surface.nodes.length ∧
      (closed.foldl Controller.release surface).watches =
        closed.foldl (fun watches session => watches.set session.watch.id none)
          surface.watches := by
  induction closed generalizing surface with
  | nil => exact ⟨rfl, rfl⟩
  | cons session rest ih =>
    obtain ⟨places, watches⟩ := surface.release_places_and_watches session
    obtain ⟨placesAfter, watchesAfter⟩ := ih (Controller.release surface session)
    exact ⟨placesAfter.trans places, by rw [List.foldl_cons, watchesAfter, watches]; rfl⟩

/-- Sessions whose nodes have no children can be released in any order. -/
theorem release_all_perm {surface : Surface} {closed others : List Session}
    (same : closed.Perm others) (leaves : ∀ id ∈ overlayNodes closed, surface.Leaf id) :
    closed.foldl Controller.release surface = others.foldl Controller.release surface := by
  have nodes : (overlayNodes closed).Perm (overlayNodes others) := same.flatMap_right _
  obtain ⟨places, watches⟩ := surface.release_all_places_and_watches closed
  obtain ⟨otherPlaces, otherWatches⟩ := surface.release_all_places_and_watches others
  refine eq_of_node (places.trans otherPlaces.symm) (fun id => ?_) ?_
  · have otherLeaves : ∀ id ∈ overlayNodes others, surface.Leaf id :=
      fun id member => leaves id (nodes.mem_iff.mpr member)
    rw [node_release_all leaves, node_release_all otherLeaves]
    exact surface.without_congr (fun _ => nodes.mem_iff) id
  · rw [watches, otherWatches]
    refine same.foldl_eq' (fun one _ two _ table => ?_) surface.watches
    by_cases equal : one.watch.id = two.watch.id
    · rw [equal]
    · exact List.set_comm _ _ equal

end Surface

end SchemaGuide.Overlay
