import SchemaGuide.Explorer.History
import SchemaGuide.Explorer.Source

/-! The guard in front of a render. It keeps what the last render was made from and tells
whether any of it is another now. Schemas and errors are compared by their stamps. -/
namespace SchemaGuide.Explorer

/-- What a render is made from, as far as the guard sees it. -/
structure Snapshot where
  /-- The stamp of the schema. -/
  schema : Option Nat
  pending : Bool
  /-- The stamp of the errors. -/
  errors : Option Nat
  /-- The revision of the history. -/
  revision : Nat
deriving DecidableEq, Repr

/-- The snapshot of a source and a history. -/
def Snapshot.of (source : Source) (history : History) : Snapshot where
  schema := source.schema?.map (·.stamp)
  pending := match source.slot with
    | .pending => true
    | .absent | .loaded _ => false
  errors := source.errors.map (·.stamp)
  revision := history.revision

/-- A guard with the snapshot of the last render, if there was one. -/
structure Guard where
  last : Option Snapshot
deriving DecidableEq, Repr

namespace Guard

/-- The guard before the first render. -/
def initial : Guard := ⟨none⟩

/-- Whether anything is another than at the last call, and the guard after this one. -/
def changed (guard : Guard) (source : Source) (history : History) : Bool × Guard :=
  let snapshot := Snapshot.of source history
  (guard.last != some snapshot, ⟨some snapshot⟩)

/-- The guard that lets the next render pass. -/
def invalidate (_ : Guard) : Guard := ⟨none⟩

end Guard
end SchemaGuide.Explorer
