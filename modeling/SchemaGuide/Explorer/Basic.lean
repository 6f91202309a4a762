import SchemaGuide.Explorer.Guard
import SchemaGuide.Explorer.Panel

/-! The documentation explorer: a history with a guard in front of its renders. -/
namespace SchemaGuide.Explorer

/-- The matches that a group of search results shows at most, unless told otherwise. -/
def defaultSearchLimit : Nat := 100

/-- A documentation explorer. -/
structure DocExplorer where
  history : History
  guard : Guard
  searchLimit : Nat
  trailing : Option String

/-- Why an explorer cannot be mounted. -/
inductive MountError where
  | missingHistory

/-- The message of the error. -/
def MountError.message : MountError → String
  | .missingHistory => "doc explorer mounted without a navigation history"

namespace DocExplorer

/-- An explorer over a history. -/
def ofHistory (history : History) : DocExplorer :=
  ⟨history, .initial, defaultSearchLimit, none⟩

/-- An explorer over the history that its owner supplies. -/
def mount (history : Option History) : Except MountError DocExplorer :=
  match history with
  | some history => .ok (ofHistory history)
  | none => .error .missingHistory

/-- What the explorer makes its panels with. -/
def presentation (explorer : DocExplorer) (source : Source) : Presentation where
  schema := source.schema?.map (·.value)
  text := Markdown.render
  matcher := ignoringCase
  searchLimit := explorer.searchLimit
  trailing := explorer.trailing

/-- The panel as it is now. -/
def renderNow (explorer : DocExplorer) (source : Source) : Panel :=
  (View.of source.availability explorer.history).panel (explorer.presentation source)

/-- The panel, unless the guard sees that nothing changed since the last one. -/
def render (explorer : DocExplorer) (source : Source) : Option Panel × DocExplorer :=
  let (changed, guard) := explorer.guard.changed source explorer.history
  (if changed then some (explorer.renderNow source) else none, { explorer with guard })

end DocExplorer
end SchemaGuide.Explorer
