import SchemaGuide.Schema.Basic

/-! The history of a reader's steps through a schema. It is a stack that never loses its
lowest entry, so there always is a current one; entries below the current one do not
change while it is there. A revision counts the steps that changed anything. -/
namespace SchemaGuide.Explorer

/-- One step of the history. -/
structure Entry where
  /-- A short name, which also labels the way back from the entry above. -/
  name : String
  /-- The title, if it differs from the name. -/
  title : Option String
  /-- The visited definition, or none for the whole schema. -/
  definition : Option Definition
  /-- The term that the reader searches for here. -/
  search : Option String
deriving DecidableEq

namespace Entry

/-- The entry for the whole schema. -/
def root : Entry where
  name := "Docs"
  title := some "Documentation Explorer"
  definition := none
  search := none

/-- The entry for a definition, named after it. -/
def ofDefinition (definition : Definition) : Entry where
  name := definition.name
  title := none
  definition := some definition
  search := none

/-- The search term; an empty one is none. -/
def searchTerm? (entry : Entry) : Option String :=
  entry.search.filter fun term => !term.isEmpty

/-- The title under which the entry is shown. -/
def displayTitle (entry : Entry) : String :=
  entry.title.getD entry.name

end Entry

/-- The steps of a reader. -/
structure History where
  current : Entry
  /-- The entries below the current one, nearest first. -/
  below : List Entry
  /-- The number of changes so far. A program counts them in 64 bits; here they are unbounded, and
  the count is assumed not to wrap. -/
  revision : Nat
deriving DecidableEq

namespace History

/-- The history before the first step. -/
def initial : History := ⟨.root, [], 0⟩

/-- The entry below the current one. -/
def previous? (history : History) : Option Entry :=
  history.below.head?

/-- The number of entries. -/
def depth (history : History) : Nat :=
  history.below.length + 1

/-- All entries, the lowest first. -/
def entries (history : History) : List Entry :=
  history.below.reverse ++ [history.current]

/-- A step to an entry. -/
def push (history : History) (entry : Entry) : History :=
  ⟨entry, history.current :: history.below, history.revision + 1⟩

/-- A step back, with the entry that is left. At the lowest entry there is none. -/
def pop (history : History) : Option Entry × History :=
  match history.below with
  | [] => (none, history)
  | entry :: below => (some history.current, ⟨entry, below, history.revision + 1⟩)

/-- A search at the current entry. An empty term ends the search. -/
def setSearch (history : History) (term : String) : History :=
  { history with
    current := { history.current with search := if term.isEmpty then none else some term }
    revision := history.revision + 1 }

/-- The way back to the lowest entry, as it was at first. -/
def reset (history : History) : History :=
  ⟨.root, [], history.revision + 1⟩

end History
end SchemaGuide.Explorer
