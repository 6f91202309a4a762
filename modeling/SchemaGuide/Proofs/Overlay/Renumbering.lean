import SchemaGuide.Proofs.Overlay.Erasure

/-! Two surfaces with the same nodes under different numbers. A numbering keeps the order in
which the nodes were made and leaves no gap, and an operation that names only numbered nodes
does the same to both surfaces. -/
namespace SchemaGuide.Overlay

/-- The node with other numbers for the nodes that it is linked to. -/
def SurfaceNode.renumber (number : NodeId → NodeId) (node : SurfaceNode) : SurfaceNode :=
  { node with parent := node.parent.map number, children := node.children.map number }

/-- The watch with another number for itself and for its target. -/
def Watch.renumber (number : NodeId → NodeId) (watchNumber : Nat → Nat) (watch : Watch) : Watch :=
  ⟨watchNumber watch.id, number watch.target⟩

/-- The operation with other numbers for the nodes that it names and for the watch that it
hands back. -/
def HostOperation.renumber (number : NodeId → NodeId) (watchNumber : Nat → Nat) :
    HostOperation → HostOperation
  | .create className => .create className
  | .append parent child => .append (number parent) (number child)
  | .removeChild parent child => .removeChild (number parent) (number child)
  | .removeNode id => .removeNode (number id)
  | .setMarkup id markup => .setMarkup (number id) markup
  | .setVisible id visible => .setVisible (number id) visible
  | .watch target => .watch (number target)
  | .unwatch held => .unwatch (held.renumber number watchNumber)

theorem HostOperation.names_renumber (number : NodeId → NodeId) (watchNumber : Nat → Nat)
    (operation : HostOperation) :
    (operation.renumber number watchNumber).names = operation.names.map number := by
  cases operation <;> rfl

theorem HostOperation.handsBack_renumber (number : NodeId → NodeId) (watchNumber : Nat → Nat)
    (operation : HostOperation) :
    (operation.renumber number watchNumber).handsBack =
      operation.handsBack.map (·.renumber number watchNumber) := by
  cases operation <;> rfl

namespace Surface

/-- All nodes are from the list, and so are their parents and children. -/
structure Within (surface : Surface) (own : List NodeId) : Prop where
  node : ∀ {id node}, surface.node? id = some node → id ∈ own
  parent : ∀ {id node parent}, surface.node? id = some node → node.parent = some parent →
    parent ∈ own
  children : ∀ {id node child}, surface.node? id = some node → child ∈ node.children → child ∈ own

/-- The other surface has the nodes of the list under other numbers, which are given out
without a gap and in the same order, and no others. -/
structure Renumbered (number : NodeId → NodeId) (own : List NodeId) (surface other : Surface) :
    Prop where
  increasing : ∀ first ∈ own, ∀ second ∈ own, first < second → number first < number second
  onto : ∀ place, place < other.nodes.length ↔ ∃ id ∈ own, number id = place
  nodes : ∀ id ∈ own, other.node? (number id) = (surface.node? id).map (·.renumber number)

namespace Renumbered

variable {number : NodeId → NodeId} {own : List NodeId} {surface other : Surface}

theorem number_inj (same : Renumbered number own surface other) {first second : NodeId}
    (one : first ∈ own) (two : second ∈ own) : number first = number second ↔ first = second := by
  constructor
  · intro equal
    rcases Nat.lt_trichotomy first second with below | here | above
    · exact absurd equal (Nat.ne_of_lt (same.increasing first one second two below))
    · exact here
    · exact absurd equal (Nat.ne_of_gt (same.increasing second two first one above))
  · rintro rfl
    rfl

theorem mem_map_number (same : Renumbered number own surface other) {ids : List NodeId}
    (inside : ids ⊆ own) {id : NodeId} (known : id ∈ own) :
    number id ∈ ids.map number ↔ id ∈ ids := by
  constructor
  · intro member
    obtain ⟨found, before, equal⟩ := List.mem_map.mp member
    exact (same.number_inj (inside before) known).mp equal ▸ before
  · exact fun member => List.mem_map_of_mem member

/-- A numbered node stands in a list of children where its number stands. -/
theorem map_filter (same : Renumbered number own surface other) {children : List NodeId}
    (inside : children ⊆ own) {child : NodeId} (known : child ∈ own) :
    (children.filter (· != child)).map number =
      (children.map number).filter (· != number child) := by
  rw [List.filter_map]
  refine congrArg (List.map number) (List.filter_congr fun id member => ?_)
  have equal := same.number_inj (inside member) known
  by_cases here : id = child
  · simp [here]
  · rw [Function.comp_apply, bne_iff_ne.mpr here, bne_iff_ne.mpr (mt equal.mp here)]

theorem parent (same : Renumbered number own surface other) {id : NodeId} (known : id ∈ own) :
    other.parent? (number id) = (surface.parent? id).map number := by
  rw [parent?, parent?, same.nodes id known]
  cases surface.node? id <;> rfl

theorem children (same : Renumbered number own surface other) {id : NodeId} (known : id ∈ own) :
    other.children (number id) = (surface.children id).map number := by
  rw [Surface.children, Surface.children, same.nodes id known]
  cases surface.node? id <;> rfl

theorem congr (same : Renumbered number own surface other) {after : Surface}
    (nodes : ∀ id, after.node? id = surface.node? id) : Renumbered number own after other :=
  ⟨same.increasing, same.onto, fun id known => by rw [nodes]; exact same.nodes id known⟩

/-! ## Operations -/

/-- A change of one node is the same under another number. -/
theorem update (same : Renumbered number own surface other) {id : NodeId} (known : id ∈ own)
    {change renumbered : SurfaceNode → SurfaceNode}
    (agree : ∀ node, surface.node? id = some node →
      renumbered (node.renumber number) = (change node).renumber number) :
    Renumbered number own (surface.update id change) (other.update (number id) renumbered) := by
  refine ⟨same.increasing, ?_, ?_⟩
  · rw [(keeps_update _ _ _).places]
    exact same.onto
  · intro target inside
    rw [node_update, node_update, same.nodes target inside]
    by_cases here : target = id
    · subst here
      cases found : surface.node? target with
      | none => simp
      | some node => simp [agree node found]
    · have elsewhere := mt (same.number_inj inside known).mp here
      rw [if_neg elsewhere, if_neg here]

theorem setParent (same : Renumbered number own surface other) {id : NodeId} (known : id ∈ own)
    (parent : Option NodeId) :
    Renumbered number own (surface.setParent id parent)
      (other.setParent (number id) (parent.map number)) :=
  same.update known fun _ _ => rfl

theorem dropChild (same : Renumbered number own surface other) (within : surface.Within own)
    {parent child : NodeId} (above : parent ∈ own) (below : child ∈ own) :
    Renumbered number own (surface.dropChild parent child)
      (other.dropChild (number parent) (number child)) := by
  refine same.update above fun node found => ?_
  have inside : node.children ⊆ own := fun _ member => within.children found member
  simp [SurfaceNode.renumber, same.map_filter inside below]

theorem appendChild (same : Renumbered number own surface other) (within : surface.Within own)
    {parent child : NodeId} (above : parent ∈ own) (below : child ∈ own) :
    Renumbered number own (surface.appendChild parent child)
      (other.appendChild (number parent) (number child)) := by
  have absent : (other.node? (number parent)).isNone = (surface.node? parent).isNone := by
    rw [same.nodes parent above]
    simp
  have put {surface other : Surface} (same : Renumbered number own surface other) :
      Renumbered number own
        (surface.update parent fun node => { node with children := node.children ++ [child] })
        (other.update (number parent) fun node =>
          { node with children := node.children ++ [number child] }) :=
    same.update above fun node _ => by simp [SurfaceNode.renumber]
  rw [Surface.appendChild, Surface.appendChild, absent, same.parent below]
  split
  · exact same
  · cases link : surface.parent? child with
    | none => exact put (same.setParent below (some parent))
    | some old =>
      obtain ⟨node, found, up⟩ := Option.bind_eq_some_iff.mp link
      have inside : old ∈ own := within.parent found up
      exact put ((same.dropChild within inside below).setParent below (some parent))

theorem removeChild (same : Renumbered number own surface other) (within : surface.Within own)
    {parent child : NodeId} (above : parent ∈ own) (below : child ∈ own) :
    Renumbered number own (surface.removeChild parent child).2
      (other.removeChild (number parent) (number child)).2 := by
  have inside : surface.children parent ⊆ own := by
    intro id member
    cases found : surface.node? parent with
    | none => simp [Surface.children, found] at member
    | some node => exact within.children found (by simpa [Surface.children, found] using member)
  have listed : number child ∈ other.children (number parent) ↔
      child ∈ surface.children parent := by
    rw [same.children above]
    exact same.mem_map_number inside below
  by_cases member : child ∈ surface.children parent
  · rw [removeChild_of_member member, removeChild_of_member (listed.mpr member)]
    exact (same.dropChild within above below).setParent below none
  · rw [removeChild_of_not_member member, removeChild_of_not_member (mt listed.mp member)]
    exact same

theorem removeNode (same : Renumbered number own surface other) (within : surface.Within own)
    {id : NodeId} (known : id ∈ own) :
    Renumbered number own (surface.removeNode id) (other.removeNode (number id)) := by
  have there := same.nodes id known
  cases present : surface.node? id with
  | none =>
    rw [present, Option.map_none] at there
    rw [removeNode_of_absent present, removeNode_of_absent there]
    exact same
  | some removed =>
    rw [present, Option.map_some] at there
    have inside : removed.children ⊆ own := fun _ member => within.children present member
    refine ⟨same.increasing, ?_, ?_⟩
    · rw [(other.removeNode_keeps (number id)).1]
      exact same.onto
    · intro target member
      rw [node_removeNode present, node_removeNode there, same.nodes target member]
      by_cases here : target = id
      · simp [here]
      · have elsewhere := mt (same.number_inj member known).mp here
        rw [if_neg here, if_neg elsewhere]
        cases found : surface.node? target with
        | none => rfl
        | some node =>
          have lost := same.mem_map_number inside member
          have above : removed.parent.map number = some (number target) ↔
              removed.parent = some target := by
            cases link : removed.parent with
            | none => simp
            | some parent => simp [same.number_inj (within.parent present link) member]
          have rest : node.children ⊆ own := fun _ below => within.children found below
          have filtered := same.map_filter rest known
          by_cases orphan : target ∈ removed.children <;>
            by_cases up : removed.parent = some target <;>
              simp [SurfaceNode.renumber, lost, above, orphan, up, filtered]

theorem createNode (same : Renumbered number own surface other)
    (places : ∀ id ∈ own, id < surface.nodes.length)
    (next : number surface.nodes.length = other.nodes.length) (className : String) :
    Renumbered number (surface.nodes.length :: own) (surface.createNode className).2
      (other.createNode className).2 := by
  have below : ∀ id ∈ own, number id < other.nodes.length := by
    intro id known
    exact (same.onto (number id)).mpr ⟨id, known, rfl⟩
  refine ⟨?_, ?_, ?_⟩
  · intro first one second two less
    rcases List.mem_cons.mp one with rfl | one <;> rcases List.mem_cons.mp two with rfl | two
    · exact absurd less (Nat.lt_irrefl _)
    · exact absurd (places second two) (Nat.not_lt_of_lt less)
    · rw [next]
      exact below first one
    · exact same.increasing first one second two less
  · intro place
    have grown : (other.createNode className).2.nodes.length = other.nodes.length + 1 := by
      simp [Surface.createNode]
    rw [grown, Nat.lt_succ_iff_lt_or_eq, same.onto]
    simp [next, eq_comm, or_comm]
  · intro id known
    rw [node_createNode, node_createNode]
    rcases List.mem_cons.mp known with rfl | known
    · simp [next, SurfaceNode.renumber]
    · rw [if_neg (Nat.ne_of_lt (below id known)), if_neg (Nat.ne_of_lt (places id known))]
      exact same.nodes id known

/-- A host does the same to both surfaces, if it names only numbered nodes and the next node
has the next number. -/
theorem perform {host : Host} (same : Renumbered number host.created surface other)
    (within : surface.Within host.created) (places : ∀ id ∈ host.created, id < surface.nodes.length)
    (next : number surface.nodes.length = other.nodes.length) {operation : HostOperation}
    (names : ∀ id ∈ operation.names, id ∈ host.created) (watchNumber : Nat → Nat) :
    Renumbered number (host.after surface operation).created (operation.perform surface)
      ((operation.renumber number watchNumber).perform other) := by
  cases operation with
  | create className => exact same.createNode places next className
  | append parent child =>
    exact same.appendChild within (names parent (by simp [HostOperation.names]))
      (names child (by simp [HostOperation.names]))
  | removeChild parent child =>
    exact same.removeChild within (names parent (by simp [HostOperation.names]))
      (names child (by simp [HostOperation.names]))
  | removeNode id => exact same.removeNode within (names id (by simp [HostOperation.names]))
  | setMarkup id markup =>
    exact same.update (names id (by simp [HostOperation.names])) fun _ _ => rfl
  | setVisible id visible =>
    exact same.update (names id (by simp [HostOperation.names])) fun _ _ => rfl
  | watch target => exact ⟨same.increasing, same.onto, same.nodes⟩
  | unwatch held => exact ⟨same.increasing, same.onto, same.nodes⟩

end Renumbered
end Surface
end SchemaGuide.Overlay
