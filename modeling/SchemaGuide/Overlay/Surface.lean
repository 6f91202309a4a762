/-! The surface that overlays draw on: a table of nodes with links to parents and children,
and watches on the removal of children. Identifiers are given out in order and never
again, so a released node or watch leaves an empty place behind. A program counts nodes in 32 bits
and watches in 64; the numbers here are unbounded, and both counters are assumed not to wrap. -/
namespace SchemaGuide.Overlay

/-- The identifier of a node. It stands for a number of 32 bits, of which more are never given
out. -/
abbrev NodeId := Nat

/-- The identifier as text. -/
def nodeLabel (id : NodeId) : String :=
  "#" ++ toString id

/-- A node of the surface. -/
structure SurfaceNode where
  className : String
  parent : Option NodeId
  children : List NodeId
  markup : String
  visible : Bool
deriving DecidableEq, Repr

/-- A watch on the removal of a node's children. -/
structure Watch where
  /-- Stands for a number of 64 bits, likewise. -/
  id : Nat
  /-- The node whose children are watched. -/
  target : NodeId
deriving DecidableEq, Repr

/-- What a watch reports: nodes that are no longer children of the target. -/
structure Removal where
  target : NodeId
  removed : List NodeId
deriving DecidableEq, Repr

/-- A surface. -/
structure Surface where
  /-- The nodes by their identifiers, with empty places for those that are released. -/
  nodes : List (Option SurfaceNode)
  /-- The targets of the watches by their identifiers, likewise. -/
  watches : List (Option NodeId)
deriving DecidableEq, Repr

namespace Surface

/-- The surface without nodes. -/
def empty : Surface := ⟨[], []⟩

/-- The node of that identifier. -/
def node? (surface : Surface) (id : NodeId) : Option SurfaceNode :=
  surface.nodes[id]?.join

/-- The parent of a node. -/
def parent? (surface : Surface) (id : NodeId) : Option NodeId :=
  (surface.node? id).bind (·.parent)

/-- The children of a node. -/
def children (surface : Surface) (id : NodeId) : List NodeId :=
  ((surface.node? id).map (·.children)).getD []

/-- The number of nodes. -/
def nodeCount (surface : Surface) : Nat :=
  surface.nodes.countP (·.isSome)

/-- The number of watches. -/
def watchCount (surface : Surface) : Nat :=
  surface.watches.countP (·.isSome)

/-- Whether a watch is on the node. -/
def isWatched (surface : Surface) (id : NodeId) : Bool :=
  surface.watches.contains (some id)

/-- The surface with another content of a node; a node that is not there stays away. -/
def update (surface : Surface) (id : NodeId) (change : SurfaceNode → SurfaceNode) : Surface :=
  { surface with nodes := surface.nodes.modify id (·.map change) }

/-- A new node without a parent, with its identifier. -/
def createNode (surface : Surface) (className : String) : NodeId × Surface :=
  (surface.nodes.length,
    { surface with nodes := surface.nodes ++ [some ⟨className, none, [], "", true⟩] })

/-- The node as a child of no node. -/
def dropChild (surface : Surface) (parent child : NodeId) : Surface :=
  surface.update parent fun node => { node with children := node.children.filter (· != child) }

/-- The node with another parent. -/
def setParent (surface : Surface) (id : NodeId) (parent : Option NodeId) : Surface :=
  surface.update id fun node => { node with parent }

/-- Moves a node to the end of a node's children. -/
def appendChild (surface : Surface) (parent child : NodeId) : Surface :=
  if (surface.node? parent).isNone then surface
  else
    let detached := match surface.parent? child with
      | some old => surface.dropChild old child
      | none => surface
    (detached.setParent child (some parent)).update parent fun node =>
      { node with children := node.children ++ [child] }

/-- Takes a child from a node, with the report to its watches if there are any. -/
def removeChild (surface : Surface) (parent child : NodeId) : Option Removal × Surface :=
  if (surface.children parent).contains child then
    let detached := (surface.dropChild parent child).setParent child none
    (if detached.isWatched parent then some ⟨parent, [child]⟩ else none, detached)
  else (none, surface)

/-- Releases a node. Its children lose their parent, and no watch reports it. -/
def removeNode (surface : Surface) (id : NodeId) : Surface :=
  match surface.node? id with
  | none => surface
  | some node =>
    let released := { surface with nodes := surface.nodes.set id none }
    let detached := match node.parent with
      | some parent => released.dropChild parent id
      | none => released
    node.children.foldl (fun surface child => surface.setParent child none) detached

/-- Replaces the content of a node. -/
def setMarkup (surface : Surface) (id : NodeId) (markup : String) : Surface :=
  surface.update id fun node => { node with markup }

/-- Shows or hides a node. -/
def setVisible (surface : Surface) (id : NodeId) (visible : Bool) : Surface :=
  surface.update id fun node => { node with visible }

/-- A new watch. -/
def watch (surface : Surface) (target : NodeId) : Watch × Surface :=
  (⟨surface.watches.length, target⟩, { surface with watches := surface.watches ++ [some target] })

/-- Releases a watch. -/
def unwatch (surface : Surface) (id : Nat) : Surface :=
  { surface with watches := surface.watches.set id none }

end Surface
end SchemaGuide.Overlay
