import SchemaGuide.Proofs.Overlay.Releases

/-! A surface without some of its nodes: they are taken from the table and from every list of
children, and nothing else is touched. An operation of a host that names none of them does to
the rest what it would do if they had never been there. -/
namespace SchemaGuide.Overlay

/-- The node without some nodes among its children. -/
def SurfaceNode.erase (node : SurfaceNode) (gone : List NodeId) : SurfaceNode :=
  { node with children := node.children.filter (· ∉ gone) }

namespace Surface

/-- The surface without some nodes, whose places are left empty. -/
def erase (surface : Surface) (gone : List NodeId) : Surface :=
  { surface with
    nodes := surface.nodes.mapIdx fun id place =>
      if id ∈ gone then none else place.map (·.erase gone) }

variable (surface : Surface) {gone : List NodeId}

theorem node_erase (gone : List NodeId) (id : NodeId) :
    (surface.erase gone).node? id =
      if id ∈ gone then none else (surface.node? id).map (·.erase gone) := by
  rw [node?, node?, erase, List.getElem?_mapIdx]
  cases surface.nodes[id]? with
  | none => simp
  | some place => split <;> simp

theorem parent_erase (gone : List NodeId) (id : NodeId) :
    (surface.erase gone).parent? id = if id ∈ gone then none else surface.parent? id := by
  rw [parent?, parent?, node_erase]
  split
  · rfl
  · cases surface.node? id <;> rfl

theorem places_erase (gone : List NodeId) :
    (surface.erase gone).nodes.length = surface.nodes.length := by
  simp [erase]

/-- Erasing some nodes and then others is erasing all of them. -/
theorem erase_append (first second : List NodeId) :
    surface.erase (first ++ second) = (surface.erase first).erase second := by
  refine eq_of_node ?_ (fun id => ?_) rfl
  · rw [places_erase, places_erase, places_erase]
  · rw [node_erase, node_erase, node_erase]
    by_cases one : id ∈ first <;> by_cases two : id ∈ second <;>
      simp [one, two, SurfaceNode.erase, Function.comp_def, Bool.and_comm]

/-! ## Operations of a host -/

theorem erase_createNode (below : ∀ id ∈ gone, id < surface.nodes.length) (className : String) :
    (surface.createNode className).2.erase gone =
      ((surface.erase gone).createNode className).2 := by
  refine eq_of_node ?_ (fun id => ?_) rfl
  · simp [createNode, erase]
  · rw [node_erase, node_createNode, node_createNode, node_erase, places_erase]
    by_cases new : id = surface.nodes.length
    · have kept : id ∉ gone := fun member => Nat.ne_of_lt (below id member) new
      simp [new, new ▸ kept, SurfaceNode.erase]
    · simp [new]

/-- A change of a node's content is the same with and without the children that are erased. -/
theorem erase_update (id : NodeId) {change : SurfaceNode → SurfaceNode}
    (content : ∀ node, (change node).erase gone = change (node.erase gone)) :
    (surface.update id change).erase gone = (surface.erase gone).update id change := by
  refine eq_of_node ?_ (fun other => ?_) rfl
  · simp [update, erase]
  · rw [node_erase, node_update, node_update, node_erase]
    by_cases erased : other ∈ gone
    · simp [erased]
    · by_cases same : other = id
      · simp [same, same ▸ erased, Function.comp_def, content]
      · simp [same, erased]

theorem erase_dropChild (parent child : NodeId) :
    (surface.dropChild parent child).erase gone = (surface.erase gone).dropChild parent child :=
  surface.erase_update parent fun node => by
    simp only [SurfaceNode.erase, List.filter_filter, Bool.and_comm]

theorem erase_setParent (id : NodeId) (parent : Option NodeId) :
    (surface.setParent id parent).erase gone = (surface.erase gone).setParent id parent :=
  surface.erase_update id fun _ => rfl

theorem erase_appendChild {parent child : NodeId} (above : parent ∉ gone) (below : child ∉ gone) :
    (surface.appendChild parent child).erase gone =
      (surface.erase gone).appendChild parent child := by
  have absent : ((surface.erase gone).node? parent).isNone = (surface.node? parent).isNone := by
    simp [node_erase, above]
  have put (surface : Surface) :
      (surface.update parent fun node =>
        { node with children := node.children ++ [child] }).erase gone =
      (surface.erase gone).update parent fun node =>
        { node with children := node.children ++ [child] } :=
    surface.erase_update parent fun node => by simp [SurfaceNode.erase, below]
  rw [appendChild, appendChild, absent, parent_erase, if_neg below]
  split
  · rfl
  · cases surface.parent? child with
    | none => rw [put, erase_setParent]
    | some old => rw [put, erase_setParent, erase_dropChild]

theorem children_erase {id : NodeId} (kept : id ∉ gone) :
    (surface.erase gone).children id = (surface.children id).filter (· ∉ gone) := by
  rw [children, children, node_erase, if_neg kept]
  cases surface.node? id <;> rfl

theorem erase_removeChild {parent child : NodeId} (above : parent ∉ gone) (below : child ∉ gone) :
    (surface.removeChild parent child).2.erase gone =
      ((surface.erase gone).removeChild parent child).2 := by
  by_cases member : child ∈ surface.children parent
  · have memberErased : child ∈ (surface.erase gone).children parent := by
      rw [children_erase surface above]
      simp [member, below]
    rw [removeChild_of_member member, removeChild_of_member memberErased]
    exact (erase_setParent _ _ _).trans (by rw [erase_dropChild])
  · have otherErased : child ∉ (surface.erase gone).children parent := by
      rw [children_erase surface above]
      exact fun erased => member (List.mem_of_mem_filter erased)
    rw [removeChild_of_not_member member, removeChild_of_not_member otherErased]

theorem erase_removeNode {id : NodeId} (kept : id ∉ gone) :
    (surface.removeNode id).erase gone = (surface.erase gone).removeNode id := by
  cases present : surface.node? id with
  | none =>
    have absent : (surface.erase gone).node? id = none := by simp [node_erase, present]
    rw [removeNode_of_absent present, removeNode_of_absent absent]
  | some removed =>
    have presentErased : (surface.erase gone).node? id = some (removed.erase gone) := by
      simp [node_erase, kept, present]
    refine eq_of_node ?_ (fun other => ?_) ?_
    · rw [places_erase, (surface.removeNode_keeps id).1,
        ((surface.erase gone).removeNode_keeps id).1, places_erase]
    · rw [node_erase, node_removeNode present, node_removeNode presentErased, node_erase]
      by_cases erased : other ∈ gone
      · simp [erased]
      · by_cases same : other = id
        · simp [same]
        · simp only [erased, same, if_false, Option.map_map]
          refine congrArg (Option.map · _) (funext fun node => ?_)
          by_cases above : removed.parent = some other <;>
            simp [SurfaceNode.erase, erased, above, List.filter_filter, Bool.and_comm]
    · exact (surface.removeNode_keeps id).2.trans
        ((surface.erase gone).removeNode_keeps id).2.symm

/-- What a host does to its own nodes, it does to a surface without the others. -/
theorem erase_perform {operation : HostOperation}
    (below : ∀ id ∈ gone, id < surface.nodes.length)
    (other : ∀ id ∈ operation.names, id ∉ gone) :
    (operation.perform surface).erase gone = operation.perform (surface.erase gone) := by
  cases operation with
  | create className => exact surface.erase_createNode below className
  | append parent child =>
    exact surface.erase_appendChild (other parent (by simp [HostOperation.names]))
      (other child (by simp [HostOperation.names]))
  | removeChild parent child =>
    exact surface.erase_removeChild (other parent (by simp [HostOperation.names]))
      (other child (by simp [HostOperation.names]))
  | removeNode id => exact surface.erase_removeNode (other id (by simp [HostOperation.names]))
  | setMarkup id markup => exact surface.erase_update id fun _ => rfl
  | setVisible id visible => exact surface.erase_update id fun _ => rfl
  | watch target => rfl
  | unwatch held => rfl

end Surface
end SchemaGuide.Overlay
