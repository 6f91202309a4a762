import Mathlib.Data.List.Induction
import Mathlib.Data.List.Nodup
import SchemaGuide.Proofs.Overlay.Children
import SchemaGuide.Proofs.Overlay.Removal

/-! What overlays show. As long as a session is there, its nodes hold the documentation of the
suggestion that its controller was given last, because nobody else writes to them: a controller
writes to the nodes of its own session, no node belongs to two sessions, and the host may name
whatever it likes except for nodes of overlays. -/
namespace SchemaGuide.Overlay

/-! ## Displays -/

namespace Surface

/-- What a node displays: its markup, and whether it is visible. -/
def display? (surface : Surface) (id : NodeId) : Option (String × Bool) :=
  (surface.node? id).map fun node => (node.markup, node.visible)

variable (surface : Surface) {id : NodeId}

theorem display_update {updated : NodeId} (other : id ≠ updated)
    (change : SurfaceNode → SurfaceNode) :
    (surface.update updated change).display? id = surface.display? id := by
  rw [display?, node_update, if_neg other, display?]

theorem display_createNode (className : String) (older : id ≠ surface.nodes.length) :
    (surface.createNode className).2.display? id = surface.display? id := by
  rw [display?, node_createNode, if_neg older, display?]

theorem display_appendChild (parent child : NodeId) :
    (surface.appendChild parent child).display? id = surface.display? id := by
  cases found : surface.node? parent with
  | none => rw [appendChild_of_absent found]
  | some node =>
    have present : (surface.node? parent).isSome := by simp [found]
    rw [display?, surface.node_appendChild present, display?]
    cases surface.node? id <;> rfl

theorem display_removeChild (parent child : NodeId) :
    (surface.removeChild parent child).2.display? id = surface.display? id := by
  by_cases member : child ∈ surface.children parent
  · rw [removeChild_of_member member, display?, node_setParent, node_dropChild, display?]
    cases surface.node? id <;> rfl
  · rw [removeChild_of_not_member member]

theorem display_removeNode {removed : NodeId} (other : id ≠ removed) :
    (surface.removeNode removed).display? id = surface.display? id := by
  cases present : surface.node? removed with
  | none => rw [removeNode_of_absent present]
  | some node =>
    rw [display?, node_removeNode present, if_neg other, display?]
    cases surface.node? id <;> rfl

/-- An operation of a host changes what is displayed by nodes that it names, and by no others. -/
theorem display_hostOperation (live : (surface.node? id).isSome) {operation : HostOperation}
    (unnamed : id ∉ operation.names) :
    (operation.perform surface).display? id = surface.display? id := by
  have other {named : NodeId} (names : named ∈ operation.names) : id ≠ named := by
    rintro rfl
    exact unnamed names
  cases operation with
  | create className =>
    exact surface.display_createNode className (Nat.ne_of_lt (lt_of_live live))
  | append parent child => exact surface.display_appendChild parent child
  | removeChild parent child => exact surface.display_removeChild parent child
  | removeNode removed => exact surface.display_removeNode (other (by simp [HostOperation.names]))
  | setMarkup updated markup =>
    exact surface.display_update (other (by simp [HostOperation.names])) _
  | setVisible updated visible =>
    exact surface.display_update (other (by simp [HostOperation.names])) _
  | watch target => rfl
  | unwatch held => rfl

theorem display_release {session : Session} (other : id ∉ session.nodes) :
    (Controller.release surface session).display? id = surface.display? id := by
  obtain ⟨notInfo, notDeprecation⟩ := not_or.mp (mt Session.mem_nodes.mpr other)
  exact (display_removeNode _ notDeprecation).trans
    (display_removeNode (surface.unwatch session.watch.id) notInfo)

theorem display_openSession {parent list : NodeId}
    (other : id ∉ (Controller.openSession surface parent list).1.nodes) :
    (Controller.openSession surface parent list).2.display? id = surface.display? id := by
  rw [openSession_eq] at other ⊢
  obtain ⟨notInfo, notDeprecation⟩ := not_or.mp (mt Session.mem_nodes.mpr other)
  calc ((surface.withSession parent).watch parent).2.display? id
    _ = surface.withNodes.display? id :=
      (display_appendChild _ _ _).trans (display_appendChild _ _ _)
    _ = (surface.createNode infoClass).2.display? id :=
      display_createNode _ _ (surface.length_createNode _ ▸ notDeprecation)
    _ = surface.display? id := surface.display_createNode _ notInfo

theorem display_write {session : Session} (other : id ∉ session.nodes) (setup : Setup)
    (suggestion : Suggestion) :
    (Controller.write setup surface session suggestion).display? id = surface.display? id := by
  rw [display?, node_write other, display?]

end Surface

/-- Turning to a list changes what is displayed by nodes of the controller's sessions only. -/
theorem Turn.display {list : NodeId} {before after : Controller × Surface}
    (turn : Turn list before after) {id : NodeId}
    (old : ∀ session ∈ before.1.session?, id ∉ session.nodes)
    (new : ∀ session ∈ after.1.session?, id ∉ session.nodes) :
    after.2.display? id = before.2.display? id := by
  have cleared {setup : Setup} {state : State} {surface cleared : Surface}
      (clears : Cleared list state surface cleared)
      (old : ∀ session ∈ Controller.session? ⟨setup, state⟩, id ∉ session.nodes) :
      cleared.display? id = surface.display? id := by
    cases clears with
    | idle => rfl
    | released session _ elsewhere => exact surface.display_release (old session rfl)
  cases turn with
  | rests => rfl
  | stays => rfl
  | detached setup clears detached => exact cleared clears old
  | opens setup clears attached =>
    exact (Surface.display_openSession _ (new _ rfl)).trans (cleared clears old)

/-- An operation of a controller changes what is displayed by the nodes of its own session, the
one before or the one after, and by no others. -/
theorem display_controllerOperation {controller : Controller} {surface : Surface}
    {operation : ControllerOperation} {id : NodeId}
    (old : ∀ session ∈ controller.session?, id ∉ session.nodes)
    (new : ∀ session ∈ (operation.perform controller surface).1.session?, id ∉ session.nodes) :
    (operation.perform controller surface).2.display? id = surface.display? id := by
  have closed (next : State) :
      (controller.close surface next).2.display? id = surface.display? id := by
    rw [Controller.close]
    cases shown : controller.session? with
    | none => rfl
    | some session => exact surface.display_release (old session shown)
  cases operation with
  | beginInvocation => exact closed .uninitialized
  | observe removal =>
    rw [ControllerOperation.perform, Controller.observe]
    split
    · exact closed .destroyed
    · rfl
  | select suggestion list =>
    have turn := turn_turnTo controller surface list
    simp only [ControllerOperation.perform] at new ⊢
    rw [select_eq] at new ⊢
    generalize controller.turnTo surface list = turned at turn new ⊢
    cases shown : turned.1.session? with
    | none =>
      refine turn.display old fun session there => ?_
      cases shown.symm.trans there
    | some session =>
      rw [shown] at new
      have own : ∀ session ∈ turned.1.session?, id ∉ session.nodes := new
      exact (turned.2.display_write (own session shown) _ _).trans (turn.display old own)

/-! ## Nodes of one session -/

/-- The nodes of sessions are there, and no two of them are the same. -/
structure Standing (surface : Surface) (shown : List Session) : Prop where
  distinct : (overlayNodes shown).Nodup
  live : ∀ id ∈ overlayNodes shown, (surface.node? id).isSome

namespace Standing

variable {surface after : Surface} {shown : List Session}

theorem perm {others : List Session} (standing : Standing surface shown)
    (same : shown.Perm others) : Standing surface others := by
  have nodes : (overlayNodes shown).Perm (overlayNodes others) := same.flatMap_right _
  exact ⟨nodes.nodup standing.distinct,
    fun id member => standing.live id (nodes.mem_iff.mpr member)⟩

theorem keeps (standing : Standing surface shown) (kept : surface.Keeps after) :
    Standing after shown :=
  ⟨standing.distinct, fun id member => (kept.live id).trans (standing.live id member)⟩

/-- A host that names none of the nodes leaves them all. -/
theorem hostOperation (standing : Standing surface shown) {operation : HostOperation}
    (spares : ∀ id ∈ operation.names, id ∉ overlayNodes shown) :
    Standing (operation.perform surface) shown := by
  cases operation with
  | create className =>
    exact ⟨standing.distinct, fun id member =>
      (surface.live_createNode className id).mpr (.inr (standing.live id member))⟩
  | append parent child => exact standing.keeps (surface.keeps_appendChild parent child)
  | removeChild parent child => exact standing.keeps (surface.keeps_removeChild parent child)
  | removeNode removed =>
    have spared : removed ∉ overlayNodes shown := spares removed (by simp [HostOperation.names])
    refine ⟨standing.distinct, fun id member => ?_⟩
    refine (surface.live_removeNode removed id).mpr ⟨?_, standing.live id member⟩
    rintro rfl
    exact spared member
  | setMarkup id markup => exact standing.keeps (surface.keeps_update id _)
  | setVisible id visible => exact standing.keeps (surface.keeps_update id _)
  | watch target => exact ⟨standing.distinct, standing.live⟩
  | unwatch held => exact ⟨standing.distinct, standing.live⟩

theorem release {session : Session} (standing : Standing surface (session :: shown)) :
    Standing (Controller.release surface session) shown := by
  obtain ⟨-, distinct, apart⟩ := List.nodup_append.mp standing.distinct
  refine ⟨distinct, fun id member => ?_⟩
  have other {gone : NodeId} (node : gone ∈ session.nodes) : id ≠ gone :=
    fun same => apart gone node id member same.symm
  refine (Surface.live_removeNode _ _ _).mpr ⟨other (Session.mem_nodes.mpr (.inr rfl)), ?_⟩
  refine (Surface.live_removeNode _ _ _).mpr ⟨other (Session.mem_nodes.mpr (.inl rfl)), ?_⟩
  exact standing.live id (List.mem_append_right _ member)

theorem openSession (standing : Standing surface shown) (parent list : NodeId) :
    Standing (Controller.openSession surface parent list).2
      ((Controller.openSession surface parent list).1 :: shown) := by
  have older {id : NodeId} (member : id ∈ overlayNodes shown) : id < surface.nodes.length :=
    Surface.lt_of_live (standing.live id member)
  rw [Surface.openSession_eq]
  constructor
  · refine List.nodup_append.mpr ⟨by simp [Session.nodes], standing.distinct, ?_⟩
    intro new fresh old member
    have below := older member
    rcases Session.mem_nodes.mp fresh with rfl | rfl
    · exact Nat.ne_of_gt below
    · exact Nat.ne_of_gt (Nat.lt_succ_of_lt below)
  · intro id member
    refine ((surface.keeps_withSession parent).live id).trans ?_
    rw [Surface.live_withNodes]
    rcases List.mem_append.mp member with fresh | old
    · exact .inl (Session.mem_nodes.mp fresh)
    · exact .inr (standing.live id old)

theorem move {before next : Controller × Surface} (move : Move before next)
    (standing : Standing before.2 (before.1.session?.toList ++ shown)) :
    Standing next.2 (next.1.session?.toList ++ shown) := by
  cases move with
  | release setup session surface rests => rcases rests with rfl | rfl <;> exact standing.release
  | rest setup surface idle rests =>
    rcases idle with rfl | rfl <;> rcases rests with rfl | rfl <;> exact standing
  | appear setup surface attached => exact standing.openSession _ _
  | write setup session surface suggestion =>
    exact standing.keeps (surface.keeps_write setup session suggestion)

/-- The two nodes of a session are there, and they are not the same. -/
theorem session {controllers : List Controller} (standing : Standing surface (sessions controllers))
    {index : Nat} {controller : Controller} (here : controllers[index]? = some controller)
    {session : Session} (shown : session ∈ controller.session?) :
    session.info ≠ session.deprecation ∧ ∀ id ∈ session.nodes, (surface.node? id).isSome := by
  have member : session ∈ sessions controllers :=
    mem_sessions (List.mem_of_getElem? here) shown
  have distinct := (List.nodup_flatMap.mp standing.distinct).1 session member
  refine ⟨by simpa [Session.nodes] using distinct, fun id node => ?_⟩
  exact standing.live id (List.mem_flatMap.mpr ⟨session, member, node⟩)

/-- The sessions of two controllers have no node in common. -/
theorem apart {controllers : List Controller} (standing : Standing surface (sessions controllers))
    {first second : Nat} (different : first ≠ second) {one two : Controller}
    (atFirst : controllers[first]? = some one) (atSecond : controllers[second]? = some two)
    {session other : Session} (shown : session ∈ one.session?) (also : other ∈ two.session?)
    {id : NodeId} (node : id ∈ session.nodes) : id ∉ other.nodes := by
  have distinct := (standing.perm (sessions_of_controller atFirst)).distinct
  rw [overlayNodes, List.flatMap_append] at distinct
  obtain ⟨-, -, apart⟩ := List.nodup_append.mp distinct
  have stays : two ∈ controllers.eraseIdx first :=
    List.mem_eraseIdx_iff_getElem?.mpr ⟨second, different.symm, atSecond⟩
  have member : session ∈ one.session?.toList := Option.mem_toList.mpr shown
  intro same
  refine apart id (List.mem_flatMap.mpr ⟨session, member, node⟩) id ?_ rfl
  exact List.mem_flatMap.mpr ⟨other, mem_sessions stays also, same⟩

end Standing

/-! ## What a session shows -/

/-- The nodes of the session show the documentation of the suggestion: its text, and the note on
its deprecation if it is deprecated. -/
structure Session.Shows (session : Session) (surface : Surface) (setup : Setup)
    (suggestion : Suggestion) : Prop where
  info : (surface.node? session.info).map (·.markup) =
    some (compose setup.renderer setup.style setup.fallback suggestion).info
  visible : (surface.node? session.deprecation).map (·.visible) =
    some suggestion.deprecation.isSome
  deprecation : suggestion.deprecation.isSome →
    (surface.node? session.deprecation).map (·.markup) =
      (compose setup.renderer setup.style setup.fallback suggestion).deprecation

namespace Session.Shows

variable {session : Session} {surface after : Surface} {setup : Setup} {suggestion : Suggestion}

/-- What a session shows is what its nodes display. -/
theorem congr (shows : session.Shows surface setup suggestion)
    (same : ∀ id ∈ session.nodes, after.display? id = surface.display? id) :
    session.Shows after setup suggestion := by
  have markup {id : NodeId} (node : id ∈ session.nodes) :
      (after.node? id).map (·.markup) = (surface.node? id).map (·.markup) := by
    simpa [Surface.display?, Function.comp_def] using congrArg (Option.map Prod.fst) (same id node)
  have visible {id : NodeId} (node : id ∈ session.nodes) :
      (after.node? id).map (·.visible) = (surface.node? id).map (·.visible) := by
    simpa [Surface.display?, Function.comp_def] using congrArg (Option.map Prod.snd) (same id node)
  have info : session.info ∈ session.nodes := mem_nodes.mpr (.inl rfl)
  have deprecation : session.deprecation ∈ session.nodes := mem_nodes.mpr (.inr rfl)
  exact ⟨(markup info).trans shows.info, (visible deprecation).trans shows.visible,
    fun deprecated => (markup deprecation).trans (shows.deprecation deprecated)⟩

/-- Writing a suggestion to the two nodes of a session makes it show the suggestion. -/
theorem write (distinct : session.info ≠ session.deprecation)
    (live : ∀ id ∈ session.nodes, (surface.node? id).isSome) :
    session.Shows (Controller.write setup surface session suggestion) setup suggestion := by
  obtain ⟨info, atInfo⟩ := Option.isSome_iff_exists.mp (live _ (mem_nodes.mpr (.inl rfl)))
  obtain ⟨note, atNote⟩ := Option.isSome_iff_exists.mp (live _ (mem_nodes.mpr (.inr rfl)))
  rw [Controller.write]
  -- The note is written before the node is shown, and hidden text stays as it is.
  cases deprecated : suggestion.deprecation <;>
    constructor <;>
    simp [compose, composeDeprecation, deprecated, Surface.setMarkup, Surface.setVisible,
      Surface.node_update, distinct, distinct.symm, atInfo, atNote]

end Session.Shows

/-- A session that is there after an operation of its controller was filled by a selection just
now, or nothing happened. -/
theorem ControllerOperation.filled_or_unchanged {controller : Controller} {surface : Surface}
    {operation : ControllerOperation} {setup : Setup} {session : Session}
    (after : (operation.perform controller surface).1 = ⟨setup, .active session⟩) :
    (∃ suggestion list turned, operation = .select suggestion list ∧
      (operation.perform controller surface).2 =
        Controller.write setup turned session suggestion) ∨
    ((∀ suggestion list, operation ≠ .select suggestion list) ∧
      controller = ⟨setup, .active session⟩ ∧
      (operation.perform controller surface).2 = surface) := by
  cases operation with
  | select suggestion list =>
    have active := congrArg Controller.state after
    obtain ⟨turned, -, controls, written⟩ := select_of_active active
    obtain rfl : controller.setup = setup := congrArg Controller.setup (controls.symm.trans after)
    exact .inl ⟨suggestion, list, turned, rfl, written⟩
  | observe removal =>
    refine .inr ⟨fun _ _ => nofun, ?_⟩
    rw [perform, Controller.observe] at after ⊢
    split at after
    · cases congrArg Controller.state after
    next stays =>
      rw [if_neg stays]
      exact ⟨after, rfl⟩
  | beginInvocation => cases congrArg Controller.state after

theorem ControllerOperation.setup (controller : Controller) (surface : Surface)
    (operation : ControllerOperation) :
    (operation.perform controller surface).1.setup = controller.setup := by
  have moves := moves_of_operation controller surface operation
  generalize operation.perform controller surface = next at moves ⊢
  induction moves with
  | refl => rfl
  | tail _ last ih => cases last <;> exact ih

/-! ## Runs -/

namespace World

/-- The world after operations. -/
def after (world : World) (operations : List Operation) : World :=
  operations.foldl perform world

theorem after_concat (world : World) (operations : List Operation) (operation : Operation) :
    world.after (operations ++ [operation]) = (world.after operations).perform operation :=
  List.foldl_concat ..

/-- A host names no node of an overlay. -/
def Spares (world : World) : Operation → Prop
  | .host operation => ∀ id ∈ operation.names, id ∉ overlayNodes (sessions world.controllers)
  | .controller _ _ => True

instance (world : World) : ∀ operation : Operation, Decidable (world.Spares operation)
  | .host operation => inferInstanceAs
      (Decidable (∀ id ∈ operation.names, id ∉ overlayNodes (sessions world.controllers)))
  | .controller _ _ => .isTrue trivial

/-- In no operation does the host name a node that belongs to an overlay then. -/
def SparesAll (world : World) : List Operation → Prop
  | [] => True
  | operation :: rest => world.Spares operation ∧ (world.perform operation).SparesAll rest

instance decidableSparesAll (world : World) :
    ∀ operations : List Operation, Decidable (world.SparesAll operations)
  | [] => .isTrue trivial
  | operation :: rest =>
    have := decidableSparesAll (world.perform operation) rest
    inferInstanceAs (Decidable (_ ∧ _))

theorem sparesAll_concat {world : World} {operations : List Operation} {operation : Operation} :
    world.SparesAll (operations ++ [operation]) ↔
      world.SparesAll operations ∧ (world.after operations).Spares operation := by
  induction operations generalizing world with
  | nil => simp [SparesAll, after]
  | cons first rest ih =>
    simp only [List.cons_append, SparesAll, ih, and_assoc, after, List.foldl_cons]

theorem setups_of_perform (world : World) (operation : Operation) :
    (world.perform operation).controllers.map (·.setup) = world.controllers.map (·.setup) := by
  cases operation with
  | host operation => rfl
  | controller index operation =>
    cases here : world.controllers[index]? with
    | none => simp [perform, here]
    | some controller =>
      obtain ⟨inside, rfl⟩ := List.getElem?_eq_some_iff.mp here
      rw [perform_controller here, List.map_set, operation.setup, ← List.map_set,
        List.set_getElem_self]

/-- Controllers keep their setups. -/
theorem setups_after (setups : List Setup) (operations : List Operation) :
    ((start setups).after operations).controllers.map (·.setup) = setups := by
  induction operations using List.reverseRecOn with
  | nil => simp [after, start, Controller.ofSetup, Function.comp_def]
  | append_singleton operations operation ih => rw [after_concat, setups_of_perform, ih]

end World

/-! ## Latest selections -/

/-- In the run of the operations, the last selection of the controller at the index was of the
suggestion, and it has been the same controller ever since. -/
def LastSelected (start : World) (operations : List Operation) (index : Nat)
    (controller : Controller) (suggestion : Suggestion) : Prop :=
  ∃ earlier list later,
    operations = earlier ++ .controller index (.select suggestion list) :: later ∧
    (∀ other elsewhere, .controller index (.select other elsewhere) ∉ later) ∧
    ∀ between, between <+: later →
      (start.after (earlier ++ .controller index (.select suggestion list) :: between)).controllers[
        index]? = some controller

namespace LastSelected

variable {start : World} {operations : List Operation} {index : Nat} {controller : Controller}
  {suggestion : Suggestion}

theorem now {list : NodeId}
    (here : (start.after (operations ++ [.controller index (.select suggestion list)])).controllers[
      index]? = some controller) :
    LastSelected start (operations ++ [.controller index (.select suggestion list)]) index
      controller suggestion := by
  refine ⟨operations, list, [], rfl, fun _ _ => List.not_mem_nil, fun between front => ?_⟩
  rw [List.prefix_nil.mp front]
  exact here

theorem concat (last : LastSelected start operations index controller suggestion)
    {operation : Operation}
    (other : ∀ suggestion list, operation ≠ .controller index (.select suggestion list))
    (here : (start.after (operations ++ [operation])).controllers[index]? = some controller) :
    LastSelected start (operations ++ [operation]) index controller suggestion := by
  obtain ⟨earlier, list, later, rfl, none, same⟩ := last
  refine ⟨earlier, list, later ++ [operation], by simp, ?_, ?_⟩
  · intro suggestion elsewhere member
    rcases List.mem_append.mp member with old | new
    · exact none suggestion elsewhere old
    · exact other suggestion elsewhere (List.mem_singleton.mp new).symm
  · intro between front
    rcases List.prefix_concat_iff.mp front with rfl | shorter
    · simpa using here
    · exact same between shorter

end LastSelected

/-- The nodes of all sessions are there, and each session shows what its controller selected
last. -/
structure Faithful (start : World) (operations : List Operation) : Prop where
  standing : Standing (start.after operations).surface
    (sessions (start.after operations).controllers)
  shows : ∀ {index setup session},
    (start.after operations).controllers[index]? = some ⟨setup, .active session⟩ →
    ∃ suggestion, LastSelected start operations index ⟨setup, .active session⟩ suggestion ∧
      session.Shows (start.after operations).surface setup suggestion

namespace Faithful

theorem start (setups : List Setup) : Faithful (.start setups) [] := by
  refine ⟨⟨?_, ?_⟩, ?_⟩
  · simp [World.after, World.start, sessions_of_setups, overlayNodes]
  · simp [World.after, World.start, sessions_of_setups, overlayNodes]
  · intro index setup session here
    simp [World.after, World.start, Controller.ofSetup] at here

variable {start : World} {operations : List Operation}

/-- What a session shows stays the same where its controller selects nothing and its nodes display
the same. -/
theorem keeps (faithful : Faithful start operations) {operation : Operation} {index : Nat}
    {setup : Setup} {session : Session}
    (before : (start.after operations).controllers[index]? = some ⟨setup, .active session⟩)
    (here : (start.after (operations ++ [operation])).controllers[index]? =
      some ⟨setup, .active session⟩)
    (other : ∀ suggestion list, operation ≠ .controller index (.select suggestion list))
    (same : ∀ id ∈ session.nodes, (start.after (operations ++ [operation])).surface.display? id =
      (start.after operations).surface.display? id) :
    ∃ suggestion,
      LastSelected start (operations ++ [operation]) index ⟨setup, .active session⟩ suggestion ∧
      session.Shows (start.after (operations ++ [operation])).surface setup suggestion := by
  obtain ⟨suggestion, last, shows⟩ := faithful.shows before
  exact ⟨suggestion, last.concat other here, shows.congr same⟩

/-- A host that names no node of an overlay changes nothing that a session shows. -/
theorem hostOperation (faithful : Faithful start operations) {operation : HostOperation}
    (spares : (start.after operations).Spares (.host operation)) :
    Faithful start (operations ++ [.host operation]) := by
  have step := start.after_concat operations (.host operation)
  constructor
  · rw [step]
    exact faithful.standing.hostOperation spares
  · intro index setup session here
    have before : (start.after operations).controllers[index]? = some ⟨setup, .active session⟩ := by
      rw [step] at here
      exact here
    refine faithful.keeps before here (fun _ _ => nofun) fun id node => ?_
    obtain ⟨-, live⟩ := faithful.standing.session before rfl
    have member : session ∈ sessions (start.after operations).controllers :=
      mem_sessions (List.mem_of_getElem? before) rfl
    rw [step]
    exact Surface.display_hostOperation _ (live id node) fun named =>
      spares id named (List.mem_flatMap.mpr ⟨session, member, node⟩)

/-- A controller that selects fills its own session, and no operation of a controller changes
what the session of another one shows. -/
theorem controllerOperation (faithful : Faithful start operations) (index : Nat)
    (operation : ControllerOperation) :
    Faithful start (operations ++ [.controller index operation]) := by
  have step := start.after_concat operations (.controller index operation)
  have standing : Standing (start.after (operations ++ [.controller index operation])).surface
      (sessions (start.after (operations ++ [.controller index operation])).controllers) := by
    rw [step]
    exact World.controllerOperation_keeps Standing (fun known same => known.perm same)
      (fun move known => known.move move) faithful.standing index operation
  refine ⟨standing, fun {place setup session} here => ?_⟩
  have selects {other : Nat} (different : other ≠ place) (suggestion : Suggestion) (list : NodeId) :
      Operation.controller other operation ≠ .controller place (.select suggestion list) :=
    fun same => different (Operation.controller.inj same).1
  cases called : (start.after operations).controllers[index]? with
  | none =>
    have idle : start.after (operations ++ [.controller index operation]) =
        start.after operations := by
      rw [step, World.perform, called]
    have before := idle ▸ here
    refine faithful.keeps before here (selects ?_) fun id _ => by rw [idle]
    rintro rfl
    cases called.symm.trans before
  | some controller =>
    rw [World.perform_controller called] at step
    obtain ⟨inside, _⟩ := List.getElem?_eq_some_iff.mp called
    by_cases own : index = place
    · subst own
      have after : (operation.perform controller (start.after operations).surface).1 =
          ⟨setup, .active session⟩ := by
        rw [step, List.getElem?_set_self inside] at here
        exact Option.some.inj here
      rcases ControllerOperation.filled_or_unchanged after with
        ⟨suggestion, list, turned, rfl, written⟩ | ⟨other, rfl, unchanged⟩
      · obtain ⟨distinct, live⟩ := standing.session here rfl
        refine ⟨suggestion, .now here, ?_⟩
        rw [step] at live ⊢
        simp only [written] at live ⊢
        refine .write distinct fun id node => ?_
        exact ((turned.keeps_write setup session suggestion).live id).symm.trans (live id node)
      · refine faithful.keeps called here
          (fun suggestion list same => other suggestion list (Operation.controller.inj same).2)
          fun id _ => ?_
        rw [step]
        exact congrArg (Surface.display? · id) unchanged
    · have before : (start.after operations).controllers[place]? =
          some ⟨setup, .active session⟩ := by
        rw [step, List.getElem?_set_ne own] at here
        exact here
      have later : (start.after (operations ++ [.controller index operation])).controllers[
          index]? = some (operation.perform controller (start.after operations).surface).1 := by
        rw [step, List.getElem?_set_self inside]
      refine faithful.keeps before here (selects own) fun id node => ?_
      rw [step]
      exact display_controllerOperation
        (fun other shown => faithful.standing.apart (Ne.symm own) before called rfl shown node)
        (fun other shown => standing.apart (Ne.symm own) here later rfl shown node)

/-- Every run in which the host spares the overlays is faithful. -/
theorem run {setups : List Setup} {operations : List Operation}
    (spares : (World.start setups).SparesAll operations) :
    Faithful (.start setups) operations := by
  induction operations using List.reverseRecOn with
  | nil => exact .start setups
  | append_singleton operations operation ih =>
    obtain ⟨earlier, last⟩ := World.sparesAll_concat.mp spares
    have faithful := ih earlier
    cases operation with
    | host operation => exact faithful.hostOperation last
    | controller index operation => exact faithful.controllerOperation index operation

end Faithful

/-- **An overlay shows the latest selection of its controller.** As long as the host names no nodes
of overlays, whoever has a session has selected something in that session, and the nodes of the
session show the last of it, composed as the controller was set up. No operation of a controller
changes what is displayed by a node that is not of its own session. -/
theorem overlay_shows_latest_selection {setups : List Setup} {operations : List Operation}
    (spares : (World.start setups).SparesAll operations) {world : World}
    (ran : (World.start setups).after operations = world) :
    (∀ index setup session, world.controllers[index]? = some ⟨setup, .active session⟩ →
      setups[index]? = some setup ∧
      ∃ suggestion,
        LastSelected (.start setups) operations index ⟨setup, .active session⟩ suggestion ∧
        session.Shows world.surface setup suggestion) ∧
    ∀ controller ∈ world.controllers, ∀ (operation : ControllerOperation) (id : NodeId),
      (∀ session ∈ controller.session?, id ∉ session.nodes) →
      (∀ session ∈ (operation.perform controller world.surface).1.session?, id ∉ session.nodes) →
      (operation.perform controller world.surface).2.display? id = world.surface.display? id := by
  subst ran
  refine ⟨fun index setup session here => ⟨?_, (Faithful.run spares).shows here⟩, ?_⟩
  · have kept := congrArg (·[index]?) (World.setups_after setups operations)
    rw [← kept, List.getElem?_map, here, Option.map_some]
  · intro controller _ operation id old new
    exact display_controllerOperation old new

/-- The third of three overlays goes on to a suggestion that is deprecated, and the host fills and
moves the lists. -/
private def deprecatedLater : List Operation :=
  threeOverlays ++ [.host (.setMarkup 1 "id"), .host (.append 0 2),
    .controller 2 (.select ⟨"name", none, none, some "old"⟩ 1)]

/-- What the third overlay shows then, and that its list is left alone when it goes. -/
theorem overlay_shows_deprecated_selection :
    (World.start (List.replicate 3 (.standard id))).SparesAll deprecatedLater ∧
    ∃ world, (World.start (List.replicate 3 (.standard id))).after deprecatedLater = world ∧
      ∃ controller session, world.controllers[2]? = some controller ∧
        controller = ⟨.standard id, .active session⟩ ∧
        (∃ suggestion, LastSelected (.start (List.replicate 3 (.standard id))) deprecatedLater 2
            controller suggestion ∧ session.Shows world.surface (.standard id) suggestion) ∧
        1 ∉ session.nodes ∧
        (controller.beginInvocation world.surface).2.display? 1 = world.surface.display? 1 := by
  have spares : (World.start (List.replicate 3 (.standard id))).SparesAll deprecatedLater := by
    decide
  have ran : ∃ world,
      (World.start (List.replicate 3 (.standard id))).after deprecatedLater = world ∧
        ∃ session, world.controllers[2]? = some ⟨.standard id, .active session⟩ ∧
          session.nodes = [7, 8] :=
    ⟨_, rfl, _, rfl, rfl⟩
  obtain ⟨world, ran, session, here, nodes⟩ := ran
  obtain ⟨shows, leaves⟩ := overlay_shows_latest_selection spares ran
  obtain ⟨-, shown⟩ := shows 2 _ session here
  have other : 1 ∉ session.nodes := by simp [nodes]
  refine ⟨spares, world, ran, _, session, here, rfl, shown, other, ?_⟩
  refine leaves _ (List.mem_of_getElem? here) .beginInvocation 1 (fun own same => ?_) nofun
  cases same
  exact other

end SchemaGuide.Overlay
