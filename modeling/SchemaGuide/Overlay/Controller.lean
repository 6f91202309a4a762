import SchemaGuide.Overlay.Content
import SchemaGuide.Overlay.Surface

/-! The overlay beside a list of suggestions. A controller puts two nodes beside the list
when something is selected first, fills them anew at every further selection, and takes
them away when the list is removed from its parent. After that it rests until the next
invocation. -/
namespace SchemaGuide.Overlay

/-- The class of the node for documentation. -/
def infoClass : String := "hint-information"

/-- The class of the node for the note on deprecation. -/
def deprecationClass : String := "hint-deprecation"

/-- The nodes and the watch of an overlay that is shown. -/
structure Session where
  /-- The list of suggestions. -/
  container : NodeId
  info : NodeId
  deprecation : NodeId
  /-- The watch on the list's parent. -/
  watch : Watch
deriving DecidableEq, Repr

/-- The state of a controller. -/
inductive State where
  | uninitialized
  | active (session : Session)
  /-- The list is gone; nothing more happens in this invocation. -/
  | destroyed
deriving DecidableEq, Repr

/-- How a controller composes documentation. -/
structure Setup where
  renderer : TextRenderer
  style : Style
  fallback : String
  /-- Whether the owner is told of each update. -/
  notifies : Bool

/-- The setup of a controller, unless told otherwise. -/
def Setup.standard (renderer : TextRenderer) : Setup :=
  ⟨renderer, .html, defaultFallback, false⟩

/-- An overlay controller. -/
structure Controller where
  setup : Setup
  state : State

namespace Controller

/-- A controller before its first invocation. -/
def ofSetup (setup : Setup) : Controller := ⟨setup, .uninitialized⟩

/-- The nodes and the watch that are shown. -/
def session? (controller : Controller) : Option Session :=
  match controller.state with
  | .active session => some session
  | .uninitialized | .destroyed => none

/-- The surface without the nodes and the watch of a session. -/
def release (surface : Surface) (session : Session) : Surface :=
  ((surface.unwatch session.watch.id).removeNode session.info).removeNode session.deprecation

/-- The controller in another state, with its session released. -/
def close (controller : Controller) (surface : Surface) (next : State) : Controller × Surface :=
  ({ controller with state := next },
    match controller.session? with
    | some session => release surface session
    | none => surface)

/-- A new invocation begins. -/
def beginInvocation (controller : Controller) (surface : Surface) : Controller × Surface :=
  controller.close surface .uninitialized

/-- A session beside a list: two nodes and a watch at the list's parent. -/
def openSession (surface : Surface) (parent list : NodeId) : Session × Surface :=
  let (info, surface) := surface.createNode infoClass
  let (deprecation, surface) := surface.createNode deprecationClass
  let surface := (surface.appendChild parent info).appendChild parent deprecation
  let (watch, surface) := surface.watch parent
  (⟨list, info, deprecation, watch⟩, surface)

/-- A controller that shows nothing opens a session, if the list has a parent. -/
def ensureSession (controller : Controller) (surface : Surface) (list : NodeId) :
    Controller × Surface :=
  match controller.state with
  | .uninitialized =>
    match surface.parent? list with
    | none => (controller, surface)
    | some parent =>
      let (session, surface) := openSession surface parent list
      ({ controller with state := .active session }, surface)
  | .active _ | .destroyed => (controller, surface)

/-- Writes the documentation of a suggestion to the nodes of a session. -/
def write (setup : Setup) (surface : Surface) (session : Session) (suggestion : Suggestion) :
    Surface :=
  let content := compose setup.renderer setup.style setup.fallback suggestion
  let surface := surface.setMarkup session.info content.info
  match content.deprecation with
  | some markup =>
    (surface.setMarkup session.deprecation markup).setVisible session.deprecation true
  | none => surface.setVisible session.deprecation false

/-- A suggestion of a list is selected. A session beside another list is replaced. Returns
also the node to tell the owner of, if the owner is to be told. -/
def select (controller : Controller) (surface : Surface) (suggestion : Suggestion)
    (list : NodeId) : Controller × Surface × Option NodeId :=
  let (controller, surface) :=
    if controller.session?.any (·.container != list) then
      controller.close surface .uninitialized
    else (controller, surface)
  let (controller, surface) := controller.ensureSession surface list
  match controller.session? with
  | none => (controller, surface, none)
  | some session =>
    (controller, write controller.setup surface session suggestion,
      if controller.setup.notifies then some session.info else none)

/-- Whether a removal takes away the list of a session. -/
def Session.endsWith (session : Session) (removal : Removal) : Bool :=
  removal.target == session.watch.target && removal.removed.contains session.container

/-- A removal is reported. Returns whether it ended the session. -/
def observe (controller : Controller) (surface : Surface) (removal : Removal) :
    Bool × Controller × Surface :=
  if controller.session?.any (Session.endsWith · removal) then
    (true, controller.close surface .destroyed)
  else (false, controller, surface)

end Controller
end SchemaGuide.Overlay
