import SchemaGuide.Overlay.Controller

/-! What the operations of a surface do to the node of an identifier. Two of them make or
release a node; all others keep every node in its place and change its links or its content.
None but the two for watches touches a watch. -/
namespace SchemaGuide.Overlay.Surface

/-! ## Contents and links -/

theorem node_update (surface : Surface) (id other : NodeId) (change : SurfaceNode → SurfaceNode) :
    (surface.update id change).node? other =
      if other = id then (surface.node? other).map change else surface.node? other := by
  by_cases same : other = id
  · subst same
    cases place : surface.nodes[other]? <;> simp [update, node?, place]
  · simp [update, node?, same, Ne.symm same]

theorem node_dropChild (surface : Surface) (parent child other : NodeId) :
    (surface.dropChild parent child).node? other =
      (surface.node? other).map fun node =>
        { node with
          children := if other = parent then node.children.filter (· != child)
            else node.children } := by
  rw [dropChild, node_update]
  split <;> simp

theorem node_setParent (surface : Surface) (id other : NodeId) (parent : Option NodeId) :
    (surface.setParent id parent).node? other =
      (surface.node? other).map fun node =>
        { node with parent := if other = id then parent else node.parent } := by
  rw [setParent, node_update]
  split <;> simp

theorem node_appendChild (surface : Surface) {parent : NodeId}
    (present : (surface.node? parent).isSome) (child other : NodeId) :
    (surface.appendChild parent child).node? other =
      (surface.node? other).map fun node =>
        { node with
          parent := if other = child then some parent else node.parent
          children :=
            (if surface.parent? child = some other then node.children.filter (· != child)
              else node.children) ++ if other = parent then [child] else [] } := by
  have here : (surface.node? parent).isNone = false := by simpa using present
  rw [appendChild, here, if_neg (by simp), node_update, node_setParent]
  cases old : surface.parent? child with
  | none => by_cases there : other = parent <;> simp [there, Function.comp_def]
  | some before =>
    rw [node_dropChild]
    by_cases there : other = parent <;> simp [there, Function.comp_def, eq_comm (a := before)]

/-- Where there is no node to append to, nothing happens. -/
theorem appendChild_of_absent {surface : Surface} {parent : NodeId}
    (absent : surface.node? parent = none) (child : NodeId) :
    surface.appendChild parent child = surface := by
  simp [appendChild, absent]

/-- The surface that is left when a child is taken from its parent. -/
theorem removeChild_of_member {surface : Surface} {parent child : NodeId}
    (member : child ∈ surface.children parent) :
    surface.removeChild parent child =
      (if surface.isWatched parent then some ⟨parent, [child]⟩ else none,
        (surface.dropChild parent child).setParent child none) := by
  have contained : (surface.children parent).contains child = true := by simpa using member
  rw [removeChild, if_pos contained]
  rfl

theorem removeChild_of_not_member {surface : Surface} {parent child : NodeId}
    (other : child ∉ surface.children parent) :
    surface.removeChild parent child = (none, surface) := by
  simp [removeChild, other]

/-! ## Making and releasing -/

theorem node_createNode (surface : Surface) (className : String) (other : NodeId) :
    (surface.createNode className).2.node? other =
      if other = surface.nodes.length then some ⟨className, none, [], "", true⟩
      else surface.node? other := by
  rw [createNode, node?, node?]
  rcases Nat.lt_trichotomy other surface.nodes.length with below | rfl | above
  · rw [List.getElem?_append_left below, if_neg (Nat.ne_of_lt below)]
  · simp
  · have outside : surface.nodes.length + 1 ≤ other := above
    rw [List.getElem?_eq_none (by simpa using outside),
      List.getElem?_eq_none (Nat.le_of_lt above), if_neg (Nat.ne_of_gt above)]

theorem length_createNode (surface : Surface) (className : String) :
    (surface.createNode className).2.nodes.length = surface.nodes.length + 1 := by
  simp [createNode]

private theorem node_detach (children : List NodeId) (surface : Surface) (other : NodeId) :
    (children.foldl (fun surface child => surface.setParent child none) surface).node? other =
      (surface.node? other).map fun node =>
        { node with parent := if other ∈ children then none else node.parent } := by
  induction children generalizing surface with
  | nil => simp
  | cons child rest ih =>
    rw [List.foldl_cons, ih, node_setParent]
    by_cases here : other = child <;> by_cases later : other ∈ rest <;>
      simp [Function.comp_def, here, later]

/-- A released node is gone, from among the children of its parent too, and its children have
no parent any more. -/
theorem node_removeNode {surface : Surface} {id : NodeId} {removed : SurfaceNode}
    (present : surface.node? id = some removed) (other : NodeId) :
    (surface.removeNode id).node? other =
      if other = id then none
      else (surface.node? other).map fun node =>
        { node with
          parent := if other ∈ removed.children then none else node.parent
          children := if removed.parent = some other then node.children.filter (· != id)
            else node.children } := by
  have released (other : NodeId) :
      node? ⟨surface.nodes.set id none, surface.watches⟩ other =
        if other = id then none else surface.node? other := by
    by_cases same : other = id
    · subst same
      by_cases inside : other < surface.nodes.length <;> simp [node?, inside]
    · simp [node?, same, Ne.symm same]
  obtain ⟨className, parent, children, markup, visible⟩ := removed
  rw [removeNode, present]
  cases parent with
  | none =>
    refine (node_detach children _ other).trans ?_
    rw [released]
    by_cases gone : other = id <;> simp [gone]
  | some old =>
    refine (node_detach children _ other).trans ?_
    rw [node_dropChild, released]
    by_cases gone : other = id <;> simp [gone, Function.comp_def, eq_comm (a := old)]

theorem removeNode_of_absent {surface : Surface} {id : NodeId} (absent : surface.node? id = none) :
    surface.removeNode id = surface := by
  simp [removeNode, absent]

theorem live_createNode (surface : Surface) (className : String) (id : NodeId) :
    ((surface.createNode className).2.node? id).isSome ↔
      id = surface.nodes.length ∨ (surface.node? id).isSome := by
  rw [node_createNode]
  split <;> simp [*]

theorem live_removeNode (surface : Surface) (removed id : NodeId) :
    ((surface.removeNode removed).node? id).isSome ↔
      id ≠ removed ∧ (surface.node? id).isSome := by
  cases present : surface.node? removed with
  | none =>
    have other : (surface.node? id).isSome → id ≠ removed := by
      rintro live rfl
      simp [present] at live
    rw [removeNode_of_absent present]
    exact ⟨fun live => ⟨other live, live⟩, And.right⟩
  | some node =>
    rw [node_removeNode present]
    split <;> simp [*]

/-! ## What is kept -/

/-- Neither a node nor a watch is made or released. -/
structure Keeps (before after : Surface) : Prop where
  places : after.nodes.length = before.nodes.length
  live : ∀ id, (after.node? id).isSome = (before.node? id).isSome
  watches : after.watches = before.watches

theorem Keeps.rfl {surface : Surface} : surface.Keeps surface :=
  ⟨Eq.refl _, fun _ => Eq.refl _, Eq.refl _⟩

theorem Keeps.trans {first second third : Surface} (one : first.Keeps second)
    (two : second.Keeps third) : first.Keeps third :=
  ⟨two.places.trans one.places, fun id => (two.live id).trans (one.live id),
    two.watches.trans one.watches⟩

theorem keeps_update (surface : Surface) (id : NodeId) (change : SurfaceNode → SurfaceNode) :
    surface.Keeps (surface.update id change) := by
  refine ⟨by simp [update], fun other => ?_, Eq.refl _⟩
  rw [node_update]
  split <;> simp

theorem keeps_appendChild (surface : Surface) (parent child : NodeId) :
    surface.Keeps (surface.appendChild parent child) := by
  rw [appendChild]
  split
  · exact .rfl
  · cases surface.parent? child with
    | none => exact (keeps_update _ _ _).trans (keeps_update _ _ _)
    | some old =>
      have detached : surface.Keeps (surface.dropChild old child) := keeps_update _ _ _
      exact (detached.trans (keeps_update _ _ _)).trans (keeps_update _ _ _)

theorem keeps_removeChild (surface : Surface) (parent child : NodeId) :
    surface.Keeps (surface.removeChild parent child).2 := by
  by_cases member : child ∈ surface.children parent
  · rw [removeChild_of_member member]
    exact (keeps_update _ _ _).trans (keeps_update _ _ _)
  · rw [removeChild_of_not_member member]
    exact .rfl

private theorem keeps_detach (children : List NodeId) (surface : Surface) :
    surface.Keeps (children.foldl (fun surface child => surface.setParent child none) surface) := by
  induction children generalizing surface with
  | nil => exact .rfl
  | cons child rest ih => exact (keeps_update _ _ _).trans (ih _)

/-- What is written to the nodes of a session changes their content only. -/
theorem keeps_write (setup : Setup) (surface : Surface) (session : Session)
    (suggestion : Suggestion) :
    surface.Keeps (Controller.write setup surface session suggestion) := by
  rw [Controller.write]
  have filled := keeps_update surface session.info fun node =>
    { node with
      markup := (compose setup.renderer setup.style setup.fallback suggestion).info }
  split
  · exact (filled.trans (keeps_update _ _ _)).trans (keeps_update _ _ _)
  · exact filled.trans (keeps_update _ _ _)

/-- A released node leaves its place empty, and no watch is touched. -/
theorem removeNode_keeps (surface : Surface) (id : NodeId) :
    (surface.removeNode id).nodes.length = surface.nodes.length ∧
      (surface.removeNode id).watches = surface.watches := by
  cases present : surface.node? id with
  | none => simp [removeNode_of_absent present]
  | some removed =>
    obtain ⟨className, parent, children, markup, visible⟩ := removed
    rw [removeNode, present]
    cases parent with
    | none =>
      have kept := keeps_detach children ⟨surface.nodes.set id none, surface.watches⟩
      exact ⟨kept.places.trans List.length_set, kept.watches⟩
    | some parent =>
      have dropped : Keeps ⟨surface.nodes.set id none, surface.watches⟩
          (dropChild ⟨surface.nodes.set id none, surface.watches⟩ parent id) := keeps_update _ _ _
      have kept := dropped.trans (keeps_detach children _)
      exact ⟨kept.places.trans List.length_set, kept.watches⟩

/-! ## Sessions -/

theorem release_places_and_watches (surface : Surface) (session : Session) :
    (Controller.release surface session).nodes.length = surface.nodes.length ∧
      (Controller.release surface session).watches = surface.watches.set session.watch.id none := by
  obtain ⟨places, watches⟩ := (surface.unwatch session.watch.id).removeNode_keeps session.info
  obtain ⟨placesAfter, watchesAfter⟩ :=
    ((surface.unwatch session.watch.id).removeNode session.info).removeNode_keeps
      session.deprecation
  exact ⟨placesAfter.trans places, watchesAfter.trans watches⟩

/-- The surface with the two nodes of a new session. -/
def withNodes (surface : Surface) : Surface :=
  ((surface.createNode infoClass).2.createNode deprecationClass).2

/-- The surface with the two nodes of a new session at their places. -/
def withSession (surface : Surface) (parent : NodeId) : Surface :=
  (surface.withNodes.appendChild parent surface.nodes.length).appendChild parent
    (surface.nodes.length + 1)

theorem live_withNodes (surface : Surface) (id : NodeId) :
    (surface.withNodes.node? id).isSome ↔
      (id = surface.nodes.length ∨ id = surface.nodes.length + 1) ∨ (surface.node? id).isSome := by
  rw [withNodes, live_createNode, live_createNode, length_createNode, or_left_comm, or_assoc]

theorem keeps_withSession (surface : Surface) (parent : NodeId) :
    surface.withNodes.Keeps (surface.withSession parent) :=
  (keeps_appendChild _ _ _).trans (keeps_appendChild _ _ _)

theorem watch_withSession (surface : Surface) (parent : NodeId) :
    ((surface.withSession parent).watch parent).1 = ⟨surface.watches.length, parent⟩ := by
  rw [watch, (surface.keeps_withSession parent).watches]
  rfl

/-- A new session has the next two nodes and the next watch. -/
theorem openSession_eq (surface : Surface) (parent list : NodeId) :
    Controller.openSession surface parent list =
      (⟨list, surface.nodes.length, surface.nodes.length + 1, ⟨surface.watches.length, parent⟩⟩,
        ((surface.withSession parent).watch parent).2) := by
  have second : ((surface.createNode infoClass).2.createNode deprecationClass).1 =
      surface.nodes.length + 1 := surface.length_createNode infoClass
  rw [← watch_withSession, withSession, ← second]
  rfl

end SchemaGuide.Overlay.Surface
