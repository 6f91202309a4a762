import Mathlib.Data.List.Induction
import SchemaGuide.Proofs.Overlay.Surface
import SchemaGuide.Proofs.Overlay.World

/-! Links to parents and to children say the same. Each of them is kept twice, by the child and
by its parent, and all operations but one write both sides. The exception is a child that is
not there: it is appended to the list of its parent, where nothing can tell what it is the
child of. Up to such strays, whatever identifiers a host comes up with, the two sides agree. -/
namespace SchemaGuide.Overlay

namespace Surface

/-! ## Links after an operation -/

/-- Parents and children are the same on both surfaces. -/
structure SameLinks (before after : Surface) : Prop where
  parent : ∀ id, after.parent? id = before.parent? id
  children : ∀ id, after.children id = before.children id

theorem SameLinks.trans {first second third : Surface} (one : first.SameLinks second)
    (two : second.SameLinks third) : first.SameLinks third :=
  ⟨fun id => (two.parent id).trans (one.parent id),
    fun id => (two.children id).trans (one.children id)⟩

theorem sameLinks_of_nodes {before after : Surface} (same : after.nodes = before.nodes) :
    before.SameLinks after := by
  have nodes (id : NodeId) : after.node? id = before.node? id := by rw [node?, same]; rfl
  exact ⟨fun id => by rw [parent?, nodes]; rfl, fun id => by rw [children, nodes]; rfl⟩

theorem sameLinks_update (surface : Surface) (id : NodeId) {change : SurfaceNode → SurfaceNode}
    (parent : ∀ node, (change node).parent = node.parent)
    (children : ∀ node, (change node).children = node.children) :
    surface.SameLinks (surface.update id change) := by
  constructor
  · intro other
    rw [parent?, parent?, node_update]
    split
    · cases surface.node? other <;> simp [parent]
    · rfl
  · intro other
    rw [Surface.children, Surface.children, node_update]
    split
    · cases surface.node? other <;> simp [children]
    · rfl

/-- A new node has neither a parent nor children. -/
theorem sameLinks_createNode (surface : Surface) (className : String) :
    surface.SameLinks (surface.createNode className).2 := by
  have fresh : surface.node? surface.nodes.length = none := by simp [node?]
  constructor
  · intro other
    rw [parent?, parent?, node_createNode]
    split
    next new => rw [new, fresh]; rfl
    next => rfl
  · intro other
    rw [children, children, node_createNode]
    split
    next new => rw [new, fresh]; rfl
    next => rfl

theorem sameLinks_write (setup : Setup) (surface : Surface) (session : Session)
    (suggestion : Suggestion) :
    surface.SameLinks (Controller.write setup surface session suggestion) := by
  have markup (surface : Surface) (id : NodeId) (markup : String) :
      surface.SameLinks (surface.setMarkup id markup) :=
    surface.sameLinks_update id (fun _ => rfl) (fun _ => rfl)
  have visible (surface : Surface) (id : NodeId) (visible : Bool) :
      surface.SameLinks (surface.setVisible id visible) :=
    surface.sameLinks_update id (fun _ => rfl) (fun _ => rfl)
  rw [Controller.write]
  split
  · exact ((markup _ _ _).trans (markup _ _ _)).trans (visible _ _ _)
  · exact (markup _ _ _).trans (visible _ _ _)

/-- Three operations of a host change links. All others leave every link as it is, and every node
that was made before. -/
theorem links_of_hostOperation (surface : Surface) (operation : HostOperation) :
    (∃ parent child, operation = .append parent child) ∨
    (∃ parent child, operation = .removeChild parent child) ∨
    (∃ id, operation = .removeNode id) ∨
    (surface.SameLinks (operation.perform surface) ∧ ∀ id < surface.nodes.length,
      ((operation.perform surface).node? id).isSome → (surface.node? id).isSome) := by
  have content (id : NodeId) {change : SurfaceNode → SurfaceNode}
      (parent : ∀ node, (change node).parent = node.parent)
      (children : ∀ node, (change node).children = node.children) :
      surface.SameLinks (surface.update id change) ∧ ∀ other < surface.nodes.length,
        ((surface.update id change).node? other).isSome → (surface.node? other).isSome :=
    ⟨surface.sameLinks_update id parent children,
      fun other _ live => (surface.keeps_update id change).live other ▸ live⟩
  cases operation with
  | create className =>
    refine .inr (.inr (.inr ⟨surface.sameLinks_createNode className, fun id below live => ?_⟩))
    exact ((surface.live_createNode className id).mp live).resolve_left (Nat.ne_of_lt below)
  | append parent child => exact .inl ⟨parent, child, rfl⟩
  | removeChild parent child => exact .inr (.inl ⟨parent, child, rfl⟩)
  | removeNode id => exact .inr (.inr (.inl ⟨id, rfl⟩))
  | setMarkup id markup => exact .inr (.inr (.inr (content id (fun _ => rfl) (fun _ => rfl))))
  | setVisible id visible => exact .inr (.inr (.inr (content id (fun _ => rfl) (fun _ => rfl))))
  | watch target => exact .inr (.inr (.inr ⟨sameLinks_of_nodes rfl, fun _ _ live => live⟩))
  | unwatch held => exact .inr (.inr (.inr ⟨sameLinks_of_nodes rfl, fun _ _ live => live⟩))

theorem parent_appendChild (surface : Surface) {parent : NodeId}
    (present : (surface.node? parent).isSome) (child other : NodeId) :
    (surface.appendChild parent child).parent? other =
      if other = child ∧ (surface.node? other).isSome then some parent
      else surface.parent? other := by
  have link (surface : Surface) : surface.parent? other = (surface.node? other).bind (·.parent) :=
    rfl
  rw [link, node_appendChild surface present, link]
  cases surface.node? other with
  | none => simp
  | some node => by_cases same : other = child <;> simp [same]

theorem children_appendChild (surface : Surface) {parent : NodeId}
    (present : (surface.node? parent).isSome) (child other : NodeId) :
    (surface.appendChild parent child).children other =
      (if surface.parent? child = some other then (surface.children other).filter (· != child)
        else surface.children other) ++ if other = parent then [child] else [] := by
  rw [children, node_appendChild surface present, children]
  cases found : surface.node? other with
  | none =>
    have elsewhere : other ≠ parent := by
      rintro rfl
      simp [found] at present
    simp [elsewhere]
  | some node => rfl

theorem parent_removeChild (surface : Surface) (parent child other : NodeId) :
    (surface.removeChild parent child).2.parent? other =
      if other = child ∧ child ∈ surface.children parent then none
      else surface.parent? other := by
  by_cases member : child ∈ surface.children parent
  · rw [removeChild_of_member member, parent?, node_setParent, node_dropChild, parent?]
    cases surface.node? other with
    | none => simp
    | some node => by_cases same : other = child <;> simp [same, member]
  · simp [removeChild_of_not_member member, member]

theorem children_removeChild (surface : Surface) (parent child other : NodeId) :
    (surface.removeChild parent child).2.children other =
      if other = parent then (surface.children other).filter (· != child)
      else surface.children other := by
  by_cases member : child ∈ surface.children parent
  · rw [removeChild_of_member member, children, node_setParent, node_dropChild, children]
    cases surface.node? other with
    | none => simp
    | some node => by_cases same : other = parent <;> simp [same]
  · rw [removeChild_of_not_member member]
    split
    next same =>
      rw [eq_comm, List.filter_eq_self]
      intro listed there
      simpa using fun same' : listed = child => member (same ▸ same' ▸ there)
    next => rfl

theorem parent_removeNode (surface : Surface) (id other : NodeId) :
    (surface.removeNode id).parent? other =
      if other = id ∨ other ∈ surface.children id then none else surface.parent? other := by
  cases present : surface.node? id with
  | none =>
    have childless : surface.children id = [] := by simp [children, present]
    have parentless : surface.parent? id = none := by simp [parent?, present]
    rw [removeNode_of_absent present, childless]
    by_cases same : other = id <;> simp [same, parentless]
  | some removed =>
    have listed : surface.children id = removed.children := by simp [children, present]
    rw [parent?, node_removeNode present, listed, parent?]
    by_cases same : other = id
    · simp [same]
    · cases surface.node? other with
      | none => simp
      | some node => by_cases lost : other ∈ removed.children <;> simp [same, lost]

theorem children_removeNode (surface : Surface) (id other : NodeId) :
    (surface.removeNode id).children other =
      if other = id then []
      else if surface.parent? id = some other then (surface.children other).filter (· != id)
      else surface.children other := by
  cases present : surface.node? id with
  | none =>
    have childless : surface.children id = [] := by simp [children, present]
    have parentless : surface.parent? id = none := by simp [parent?, present]
    rw [removeNode_of_absent present, parentless]
    by_cases same : other = id <;> simp [same, childless]
  | some removed =>
    have link : surface.parent? id = removed.parent := by simp [parent?, present]
    rw [children, node_removeNode present, link, children]
    by_cases same : other = id
    · simp [same]
    · cases surface.node? other with
      | none => simp [same]
      | some node => by_cases above : removed.parent = some other <;> simp [same, above]

/-! ## Parents list their children -/

/-- Every node that has a parent stands among the children of its parent. -/
structure Enrolled (surface : Surface) : Prop where
  listed : ∀ {id parent}, surface.parent? id = some parent → id ∈ surface.children parent

theorem live_of_mem_children {surface : Surface} {id child : NodeId}
    (member : child ∈ surface.children id) : (surface.node? id).isSome := by
  cases found : surface.node? id with
  | none => simp [children, found] at member
  | some node => rfl

namespace Enrolled

variable {surface after : Surface}

theorem live_parent (enrolled : surface.Enrolled) {id parent : NodeId}
    (attached : surface.parent? id = some parent) : (surface.node? parent).isSome :=
  live_of_mem_children (enrolled.listed attached)

theorem sameLinks (enrolled : surface.Enrolled) (same : surface.SameLinks after) :
    after.Enrolled := by
  constructor
  intro id parent attached
  rw [same.parent] at attached
  exact same.children parent ▸ enrolled.listed attached

theorem appendChild (enrolled : surface.Enrolled) (parent child : NodeId) :
    (surface.appendChild parent child).Enrolled := by
  cases found : surface.node? parent with
  | none => exact (appendChild_of_absent found child).symm ▸ enrolled
  | some node =>
    have present : (surface.node? parent).isSome := by simp [found]
    constructor
    intro id above attached
    rw [parent_appendChild surface present] at attached
    rw [children_appendChild surface present, List.mem_append]
    split at attached
    next moved =>
      obtain rfl := Option.some.inj attached
      exact .inr (by simp [moved.1])
    next stays =>
      have before := enrolled.listed attached
      -- A child that is not there has no parent, so whoever has one is another.
      have other : id ≠ child := by
        rintro rfl
        obtain ⟨node, here, _⟩ := Option.bind_eq_some_iff.mp attached
        exact stays ⟨rfl, by simp [here]⟩
      refine .inl ?_
      split
      · exact List.mem_filter.mpr ⟨before, by simpa using other⟩
      · exact before

theorem removeChild (enrolled : surface.Enrolled) (parent child : NodeId) :
    (surface.removeChild parent child).2.Enrolled := by
  constructor
  intro id above attached
  rw [parent_removeChild] at attached
  rw [children_removeChild]
  split at attached
  · cases attached
  next stays =>
    have before := enrolled.listed attached
    split
    next same =>
      have other : id ≠ child := by
        rintro rfl
        exact stays ⟨rfl, same ▸ before⟩
      exact List.mem_filter.mpr ⟨before, by simpa using other⟩
    next => exact before

theorem removeNode (enrolled : surface.Enrolled) (removed : NodeId) :
    (surface.removeNode removed).Enrolled := by
  constructor
  intro id above attached
  rw [parent_removeNode] at attached
  split at attached
  · cases attached
  next stays =>
    obtain ⟨other, unlisted⟩ := not_or.mp stays
    have before := enrolled.listed attached
    have kept : above ≠ removed := by
      rintro rfl
      exact unlisted before
    rw [children_removeNode, if_neg kept]
    split
    · exact List.mem_filter.mpr ⟨before, by simpa using other⟩
    · exact before

/-- No operation of a host leaves a parent without its child, whatever it names. -/
theorem perform (enrolled : surface.Enrolled) (operation : HostOperation) :
    (operation.perform surface).Enrolled := by
  rcases surface.links_of_hostOperation operation with
    ⟨parent, child, rfl⟩ | ⟨parent, child, rfl⟩ | ⟨id, rfl⟩ | ⟨same, _⟩
  · exact enrolled.appendChild parent child
  · exact enrolled.removeChild parent child
  · exact enrolled.removeNode id
  · exact enrolled.sameLinks same

end Enrolled

/-! ## Children have the parent that lists them -/

/-- A node stands among the children of its parent only, and there once. -/
structure Sole (surface : Surface) (child : NodeId) : Prop where
  parent : ∀ {id}, child ∈ surface.children id → surface.parent? child = some id
  once : ∀ id, (surface.children id).count child ≤ 1

namespace Sole

variable {surface after : Surface} {child : NodeId}

theorem sameLinks (sole : surface.Sole child) (same : surface.SameLinks after) :
    after.Sole child := by
  constructor
  · intro id member
    rw [same.children] at member
    exact (same.parent child).trans (sole.parent member)
  · intro id
    rw [same.children]
    exact sole.once id

/-- Lists that lose children, while all that are listed keep their parent, are still right. -/
theorem of_sublist (sole : surface.Sole child)
    (sublist : ∀ id, (after.children id).Sublist (surface.children id))
    (kept : ∀ {id}, child ∈ after.children id → surface.parent? child = some id →
      after.parent? child = some id) : after.Sole child := by
  constructor
  · intro id member
    exact kept member (sole.parent ((sublist id).subset member))
  · intro id
    exact Nat.le_trans ((sublist id).count_le child) (sole.once id)

/-- A node that is there moves from one list to another. -/
theorem append_itself (sole : surface.Sole child) (live : (surface.node? child).isSome)
    (parent : NodeId) : (surface.appendChild parent child).Sole child := by
  cases found : surface.node? parent with
  | none => exact (appendChild_of_absent found child).symm ▸ sole
  | some node =>
    have present : (surface.node? parent).isSome := by simp [found]
    have left (id : NodeId) : child ∉ (if surface.parent? child = some id
        then (surface.children id).filter (· != child) else surface.children id) := by
      split
      · simp
      next other => exact fun member => other (sole.parent member)
    constructor
    · intro id member
      rw [parent_appendChild surface present, if_pos ⟨rfl, live⟩]
      rw [children_appendChild surface present, List.mem_append] at member
      rcases member with old | new
      · exact (left id old).elim
      · split at new
        next same => rw [same]
        next => cases new
    · intro id
      rw [children_appendChild surface present, List.count_append,
        List.count_eq_zero.mpr (left id), Nat.zero_add]
      split <;> simp

theorem append_other (sole : surface.Sole child) {other : NodeId} (different : child ≠ other)
    (parent : NodeId) : (surface.appendChild parent other).Sole child := by
  cases found : surface.node? parent with
  | none => exact (appendChild_of_absent found other).symm ▸ sole
  | some node =>
    have present : (surface.node? parent).isSome := by simp [found]
    have count (id : NodeId) : ((surface.appendChild parent other).children id).count child =
        (surface.children id).count child := by
      rw [children_appendChild surface present, List.count_append]
      have appended : (if id = parent then [other] else []).count child = 0 := by
        split <;> simp [Ne.symm different]
      rw [appended, Nat.add_zero]
      split
      · exact List.count_filter (by simpa using different)
      · rfl
    constructor
    · intro id member
      have before : child ∈ surface.children id :=
        List.count_pos_iff.mp (count id ▸ List.count_pos_iff.mpr member)
      rw [parent_appendChild surface present, if_neg fun same => different same.1]
      exact sole.parent before
    · exact fun id => (count id).symm ▸ sole.once id

theorem removeChild (sole : surface.Sole child) (parent other : NodeId) :
    (surface.removeChild parent other).2.Sole child := by
  refine sole.of_sublist (fun id => ?_) fun {id} member above => ?_
  · rw [children_removeChild]
    split
    · exact List.filter_sublist
    · exact .refl _
  · rw [parent_removeChild]
    split
    next taken =>
      -- The child that is taken was listed by its parent alone, and is not any more.
      obtain ⟨rfl, listed⟩ := taken
      obtain rfl : parent = id := Option.some.inj ((sole.parent listed).symm.trans above)
      rw [children_removeChild, if_pos rfl] at member
      simp at member
    next => exact above

theorem removeNode (sole : surface.Sole child) (removed : NodeId) :
    (surface.removeNode removed).Sole child := by
  refine sole.of_sublist (fun id => ?_) fun {id} member above => ?_
  · rw [children_removeNode]
    split
    · exact List.nil_sublist _
    · split
      · exact List.filter_sublist
      · exact .refl _
  · rw [children_removeNode] at member
    rw [parent_removeNode]
    split at member
    · cases member
    next kept =>
      split
      next lost =>
        rcases lost with rfl | listed
        · simp [above] at member
        · exact absurd (Option.some.inj (above.symm.trans (sole.parent listed))) kept
      next => exact above

end Sole

end Surface

/-! ## Runs -/

/-- The operation puts an identifier that no node has among the children of a node. -/
def HostOperation.Strays (surface : Surface) (child : NodeId) : HostOperation → Prop
  | .append parent other =>
    other = child ∧ (surface.node? parent).isSome ∧ surface.node? child = none
  | .create _ | .removeChild _ _ | .removeNode _ | .setMarkup _ _ | .setVisible _ _ | .watch _
  | .unwatch _ => False

namespace Surface

/-- The surface after operations, whatever they name. -/
def after (operations : List HostOperation) : Surface :=
  operations.foldl HostOperation.perform .empty

theorem after_concat (operations : List HostOperation) (operation : HostOperation) :
    after (operations ++ [operation]) = operation.perform (after operations) := by
  simp [after]

/-- The links from and to a child agree. It stands among the children of a node exactly if it is
there and has that node as its parent, and it stands there once. Its parent is there. -/
structure Agrees (surface : Surface) (child : NodeId) : Prop where
  listed : ∀ parent, (surface.node? parent).isSome →
    (child ∈ surface.children parent ↔
      (surface.node? child).isSome ∧ surface.parent? child = some parent)
  once : ∀ parent, child ∈ surface.children parent → (surface.children parent).count child = 1
  parent : ∀ parent, surface.parent? child = some parent → (surface.node? parent).isSome

theorem Enrolled.agrees {surface : Surface} (enrolled : surface.Enrolled) {child : NodeId}
    (sole : surface.Sole child) : surface.Agrees child where
  listed parent _ := by
    refine ⟨fun member => ?_, fun above => enrolled.listed above.2⟩
    have above := sole.parent member
    obtain ⟨node, here, _⟩ := Option.bind_eq_some_iff.mp above
    exact ⟨by simp [here], above⟩
  once parent member := Nat.le_antisymm (sole.once parent) (List.count_pos_iff.mpr member)
  parent _ above := enrolled.live_parent above

theorem enrolled_after (operations : List HostOperation) : (after operations).Enrolled := by
  induction operations using List.reverseRecOn with
  | nil => exact ⟨fun attached => by simp [after, empty, parent?, node?] at attached⟩
  | append_singleton operations operation ih =>
    rw [after_concat]
    exact ih.perform operation

/-- An operation that does not leave a child astray keeps it where its parent lists it. -/
theorem Sole.perform {surface : Surface} {child : NodeId} (sole : surface.Sole child)
    {operation : HostOperation} (guided : ¬ operation.Strays surface child) :
    (operation.perform surface).Sole child := by
  rcases surface.links_of_hostOperation operation with
    ⟨parent, other, rfl⟩ | ⟨parent, other, rfl⟩ | ⟨id, rfl⟩ | ⟨same, _⟩
  · by_cases itself : other = child
    · subst itself
      cases found : surface.node? parent with
      | none =>
        rw [HostOperation.perform, appendChild_of_absent found]
        exact sole
      | some node =>
        have live : (surface.node? other).isSome := by
          rw [Option.isSome_iff_ne_none]
          exact fun absent => guided ⟨rfl, by simp [found], absent⟩
        exact sole.append_itself live parent
    · exact sole.append_other (Ne.symm itself) parent
  · exact sole.removeChild parent other
  · exact sole.removeNode id
  · exact sole.sameLinks same

theorem sole_after {operations : List HostOperation} {child : NodeId}
    (guided : ∀ earlier operation later, operations = earlier ++ operation :: later →
      ¬ operation.Strays (after earlier) child) : (after operations).Sole child := by
  induction operations using List.reverseRecOn with
  | nil => constructor <;> simp [after, empty, children, node?]
  | append_singleton operations operation ih =>
    rw [after_concat]
    have before : (after operations).Sole child := by
      refine ih fun earlier other later split => guided earlier other (later ++ [operation]) ?_
      simp [split]
    exact before.perform (guided operations operation [] rfl)

/-- A child that is astray is listed, and is not there. -/
theorem not_agrees_of_strays {surface : Surface} {child : NodeId} {operation : HostOperation}
    (astray : operation.Strays surface child) : ¬ (operation.perform surface).Agrees child := by
  cases operation with
  | append parent other =>
    obtain ⟨rfl, present, absent⟩ := astray
    intro agrees
    have kept := surface.keeps_appendChild parent other
    have member : other ∈ (surface.appendChild parent other).children parent := by
      simp [children_appendChild surface present]
    have live := ((agrees.listed parent ((kept.live parent).trans present)).mp member).1
    rw [HostOperation.perform, kept.live, absent] at live
    cases live
  | _ => exact astray.elim

end Surface

/-- **Both sides of a link agree, unless a child is astray.** Whatever operations are done, with
whatever identifiers, every parent is there. The links from and to a child agree all the time
exactly if no operation puts that child among others while no node has its identifier. -/
theorem links_agree_iff_none_astray (operations : List HostOperation) :
    (∀ id parent, (Surface.after operations).parent? id = some parent →
      ((Surface.after operations).node? parent).isSome) ∧
    ∀ child, (∀ earlier later, operations = earlier ++ later →
        (Surface.after earlier).Agrees child) ↔
      ∀ earlier operation later, operations = earlier ++ operation :: later →
        ¬ operation.Strays (Surface.after earlier) child := by
  refine ⟨fun id parent => (Surface.enrolled_after operations).live_parent, fun child => ?_⟩
  constructor
  · intro agrees earlier operation later split astray
    have after := agrees (earlier ++ [operation]) later (by simp [split])
    rw [Surface.after_concat] at after
    exact Surface.not_agrees_of_strays astray after
  · intro guided earlier later split
    refine (Surface.enrolled_after earlier).agrees (Surface.sole_after ?_)
    intro first operation second before
    exact guided first operation (second ++ later) (by simp [split, before])

/-- A node is appended before it is there. When it is, it moves to another parent, and stays
listed where it never was a child. -/
theorem appended_too_early_is_listed_twice :
    let surface := Surface.after [.create "first", .append 0 1, .create "item", .create "second",
      .append 2 1]
    surface.parent? 1 = some 2 ∧ surface.children 2 = [1] ∧ surface.children 0 = [1] ∧
      ¬ surface.Agrees 1 := by
  refine ⟨rfl, rfl, rfl, fun agrees => ?_⟩
  have above := ((agrees.listed 0 rfl).mp (List.mem_singleton.mpr rfl)).2
  cases above

end SchemaGuide.Overlay
