import SchemaGuide.Explorer.History
import Mathlib.Data.List.Basic
import Mathlib.Data.List.Induction

/-! A history is a stack over a lowest entry that stays. The stack is defined on the list of its
entries, apart from the history, and operations do the same to both. An entry stays what it was
pushed as, but for the searches that are made while it is the current one, so an excursion to
entries above it leaves it and everything below as they were. -/
namespace SchemaGuide.Explorer

/-- What is done to a history. -/
inductive Operation where
  | push (entry : Entry)
  | pop
  | setSearch (term : String)
  | reset
deriving DecidableEq

/-- The entry with a search for a term. An empty term is no search. -/
def Entry.searching (term : String) (entry : Entry) : Entry :=
  { entry with search := if term = "" then none else some term }

/-! ## The stack -/

namespace Operation

/-- The entries of a stack, the lowest first, after an operation. -/
def onStack (stack : List Entry) : Operation → List Entry
  | .push entry => stack ++ [entry]
  | .pop => if stack.length = 1 then stack else stack.dropLast
  | .setSearch term => stack.dropLast ++ (stack.getLast?.map (Entry.searching term)).toList
  | .reset => [.root]

/-- How many of the operations are no step back from the lowest entry. -/
def changes : List Entry → List Operation → Nat
  | _, [] => 0
  | stack, operation :: rest =>
    (if operation = .pop ∧ stack.length = 1 then 0 else 1) + changes (operation.onStack stack) rest

end Operation

namespace History

variable {history : History} {entry : Entry} {depth : Nat}

/-- The history after an operation. -/
def perform (history : History) : Operation → History
  | .push entry => history.push entry
  | .pop => history.pop.2
  | .setSearch term => history.setSearch term
  | .reset => history.reset

/-- The history after operations. -/
def after (history : History) (operations : List Operation) : History :=
  operations.foldl perform history

@[simp] theorem after_nil (history : History) : history.after [] = history := rfl

@[simp] theorem after_cons (history : History) (operation : Operation)
    (rest : List Operation) :
    history.after (operation :: rest) = (history.perform operation).after rest := rfl

theorem after_append (history : History) (first second : List Operation) :
    history.after (first ++ second) = (history.after first).after second :=
  List.foldl_append

/-! ## What one operation does -/

@[simp] theorem length_entries (history : History) : history.entries.length = history.depth := by
  simp [entries, depth]

theorem depth_pos (history : History) : 0 < history.depth :=
  Nat.succ_pos _

@[simp] theorem getLast?_entries (history : History) :
    history.entries.getLast? = some history.current := by
  simp [entries]

@[simp] theorem entries_push (history : History) (entry : Entry) :
    (history.push entry).entries = history.entries ++ [entry] := by
  simp [entries, push]

theorem entries_setSearch (history : History) (term : String) :
    (history.setSearch term).entries =
      history.entries.dropLast ++ [history.current.searching term] := by
  simp [entries, setSearch, Entry.searching]

/-- A step back hands out the current entry, unless it is the lowest one. -/
theorem pop_fst (history : History) :
    history.pop.1 = if history.depth = 1 then none else some history.current := by
  obtain ⟨current, below, revision⟩ := history
  cases below with
  | nil => rfl
  | cons entry below => simp [pop, depth]

theorem pop_of_lowest (lowest : history.depth = 1) : history.pop.2 = history := by
  obtain ⟨current, below, revision⟩ := history
  cases below with
  | nil => rfl
  | cons entry below => simp [depth] at lowest

theorem entries_pop (history : History) :
    history.pop.2.entries =
      if history.depth = 1 then history.entries else history.entries.dropLast := by
  obtain ⟨current, below, revision⟩ := history
  cases below with
  | nil => rfl
  | cons entry below => simp [pop, depth, entries]

/-- An operation does to the entries what it does to the stack. -/
theorem entries_perform (history : History) (operation : Operation) :
    (history.perform operation).entries = operation.onStack history.entries := by
  cases operation with
  | push entry => exact entries_push history entry
  | pop => simp [perform, Operation.onStack, entries_pop]
  | setSearch term => simp [perform, Operation.onStack, entries_setSearch]
  | reset => rfl

theorem revision_perform (history : History) (operation : Operation) :
    (history.perform operation).revision =
      history.revision + if operation = .pop ∧ history.entries.length = 1 then 0 else 1 := by
  cases operation with
  | push entry => simp [perform, push]
  | pop =>
    obtain ⟨current, below, revision⟩ := history
    cases below with
    | nil => rfl
    | cons entry below => simp [perform, pop, entries]
  | setSearch term => simp [perform, setSearch]
  | reset => simp [perform, reset]

/-- No operation but a reset touches what lies below the current entry. -/
theorem below_perform (history : History) {operation : Operation} (kept : operation ≠ .reset) :
    history.entries.dropLast <+: (history.perform operation).entries := by
  cases operation with
  | push entry =>
    rw [perform, entries_push]
    exact (List.dropLast_prefix _).trans (List.prefix_append _ _)
  | pop =>
    rw [perform, entries_pop]
    split
    · exact List.dropLast_prefix _
    · exact List.prefix_refl _
  | setSearch term =>
    rw [perform, entries_setSearch]
    exact List.prefix_append _ _
  | reset => exact absurd rfl kept

/-! ## Runs -/

theorem entries_after (history : History) (operations : List Operation) :
    (history.after operations).entries = operations.foldl Operation.onStack history.entries := by
  induction operations generalizing history with
  | nil => rfl
  | cons operation rest ih => rw [after_cons, ih, entries_perform, List.foldl_cons]

theorem revision_after (history : History) (operations : List Operation) :
    (history.after operations).revision =
      history.revision + Operation.changes history.entries operations := by
  induction operations generalizing history with
  | nil => rfl
  | cons operation rest ih =>
    rw [after_cons, ih, revision_perform, entries_perform, Operation.changes, Nat.add_assoc]

/-- The lowest entry is the one for the whole schema, whatever is searched for there. -/
def OverRoot (history : History) : Prop :=
  ∃ search, history.entries.head? = some { Entry.root with search }

theorem OverRoot.perform (rooted : history.OverRoot) (operation : Operation) :
    (history.perform operation).OverRoot := by
  obtain ⟨search, lowest⟩ := rooted
  cases operation with
  | push entry =>
    exact ⟨search, by rw [History.perform, entries_push, List.head?_append, lowest]; rfl⟩
  | pop =>
    obtain ⟨current, below, revision⟩ := history
    cases below with
    | nil => exact ⟨search, lowest⟩
    | cons entry below => exact ⟨search, by simpa [History.perform, pop, entries] using lowest⟩
  | setSearch term =>
    obtain ⟨current, below, revision⟩ := history
    cases h : below.reverse with
    | nil =>
      obtain rfl : current = { Entry.root with search } := by simpa [entries, h] using lowest
      exact ⟨_, by simp [History.perform, setSearch, entries, h]; rfl⟩
    | cons entry above =>
      exact ⟨search, by simpa [History.perform, setSearch, entries, h] using lowest⟩
  | reset => exact ⟨none, rfl⟩

theorem overRoot_after (operations : List Operation) : (initial.after operations).OverRoot := by
  induction operations using List.reverseRecOn with
  | nil => exact ⟨none, rfl⟩
  | append_singleton operations operation ih =>
    rw [after_append]
    exact ih.perform operation

/-! ## Excursions -/

/-- The operations leave the lowest entries of that number to themselves: nothing is reset, they
stay below, and no search is made at the uppermost of them. -/
inductive Excursion (depth : Nat) : History → List Operation → Prop where
  | nil {history : History} : Excursion depth history []
  | push {history : History} {entry : Entry} {rest : List Operation}
    (later : Excursion depth (history.push entry) rest) :
    Excursion depth history (.push entry :: rest)
  | pop {history : History} {rest : List Operation} (reaches : depth ≤ history.pop.2.depth)
    (later : Excursion depth history.pop.2 rest) : Excursion depth history (.pop :: rest)
  | setSearch {history : History} {term : String} {rest : List Operation}
    (above : depth < history.depth) (later : Excursion depth (history.setSearch term) rest) :
    Excursion depth history (.setSearch term :: rest)

/-- What lies below the current entry, and is not reached, stays the same. -/
theorem take_perform {operation : Operation} (kept : operation ≠ .reset)
    (above : depth < history.depth) :
    (history.perform operation).entries.take depth = history.entries.take depth := by
  obtain ⟨more, same⟩ := history.below_perform kept
  have inside : depth ≤ history.entries.dropLast.length := by
    rw [List.length_dropLast, length_entries]
    omega
  rw [← same, List.take_append_of_le_length inside, List.dropLast_eq_take, List.take_take,
    length_entries, Nat.min_eq_left (by omega)]

/-- An excursion leaves the lowest entries as they were, with their searches. -/
theorem Excursion.take {operations : List Operation}
    (excursion : Excursion depth history operations) (reached : depth ≤ history.depth) :
    (history.after operations).entries.take depth = history.entries.take depth := by
  induction excursion with
  | nil => rfl
  | @push history entry rest later ih =>
    have start : depth ≤ (history.push entry).depth := Nat.le_succ_of_le reached
    rw [after_cons]
    exact (ih start).trans
      (by rw [entries_push, List.take_append_of_le_length (by simpa using reached)])
  | @pop history rest reaches later ih =>
    rw [after_cons]
    refine (ih reaches).trans ?_
    by_cases lowest : history.depth = 1
    · rw [pop_of_lowest lowest]
    · have shorter : history.pop.2.depth = history.depth - 1 := by
        rw [← length_entries, entries_pop, if_neg lowest, List.length_dropLast, length_entries]
      have positive := history.depth_pos
      have kept : (history.perform .pop).entries.take depth = history.entries.take depth :=
        take_perform nofun (by omega)
      exact kept
  | @setSearch history term rest above later ih =>
    rw [after_cons]
    have kept : (history.perform (.setSearch term)).entries.take depth =
        history.entries.take depth := take_perform nofun above
    exact (ih reached).trans kept

/-! ## Where an entry comes from -/

/-- The term that is searched for, if there are that many entries. -/
def searchAt (depth : Nat) (history : History) : Operation → List String
  | .setSearch term => if history.depth = depth then [term] else []
  | .push _ | .pop | .reset => []

/-- The terms that are searched for while there are that many entries. -/
def searchesAt (depth : Nat) : History → List Operation → List String
  | _, [] => []
  | history, operation :: rest =>
    history.searchAt depth operation ++ searchesAt depth (history.perform operation) rest

theorem searchesAt_concat (history : History) (operations : List Operation)
    (last : Operation) :
    searchesAt depth history (operations ++ [last]) =
      searchesAt depth history operations ++ (history.after operations).searchAt depth last := by
  induction operations generalizing history with
  | nil => simp [searchesAt]
  | cons operation rest ih =>
    rw [List.cons_append, searchesAt, searchesAt, ih, List.append_assoc, after_cons]

/-- The entry is the one that was pushed last to that depth, with the latest search that was made
there. Since then there have always been that many entries. -/
def IsLastPushed (operations : List Operation) (depth : Nat) (entry : Entry) : Prop :=
  ∃ earlier pushed later, operations = earlier ++ .push pushed :: later ∧
    let start := (initial.after earlier).push pushed
    start.depth = depth ∧
    (∀ first, first <+: later → depth ≤ (start.after first).depth) ∧
    entry = (searchesAt depth start later).getLast?.elim pushed (Entry.searching · pushed)

namespace IsLastPushed

variable {operations : List Operation} {operation : Operation}

/-- One more operation above the entry, or a search at it. -/
theorem concat (pushed : IsLastPushed operations depth entry)
    (above : depth ≤ (initial.after (operations ++ [operation])).depth) :
    IsLastPushed (operations ++ [operation]) depth
      (((initial.after operations).searchAt depth operation).getLast?.elim entry
        (Entry.searching · entry)) := by
  obtain ⟨earlier, pushed, later, rfl, start, reached, rfl⟩ := pushed
  have behind : initial.after (earlier ++ .push pushed :: later) =
      ((initial.after earlier).push pushed).after later := by
    rw [after_append, after_cons, perform]
  refine ⟨earlier, pushed, later ++ [operation], by simp, start, fun first inside => ?_, ?_⟩
  · rcases List.prefix_concat_iff.mp inside with rfl | inside
    · rwa [after_append, behind, ← after_append] at above
    · exact reached first inside
  · rw [searchesAt_concat, behind, List.getLast?_append]
    cases (searchAt depth (((initial.after earlier).push pushed).after later)
      operation).getLast? with
    | none => rfl
    | some term =>
      cases (searchesAt depth ((initial.after earlier).push pushed) later).getLast? <;> rfl

end IsLastPushed

private theorem getElem?_of_below {below : Nat}
    (found : history.entries.dropLast[below]? = some entry) :
    history.entries[below]? = some entry ∧ below + 1 < history.depth := by
  rw [List.getElem?_dropLast, length_entries] at found
  split at found
  · exact ⟨found, by omega⟩
  · cases found

/-- Every entry above the lowest one was pushed last to its depth. -/
theorem isLastPushed (operations : List Operation) {below : Nat} (higher : 0 < below)
    (found : (initial.after operations).entries[below]? = some entry) :
    IsLastPushed operations (below + 1) entry := by
  induction operations using List.reverseRecOn generalizing entry with
  | nil => simp [initial, entries, Nat.ne_of_gt higher] at found
  | append_singleton operations operation ih =>
    have inside : below + 1 ≤ (initial.after (operations ++ [operation])).depth := by
      rw [← length_entries]
      exact (List.getElem?_eq_some_iff.mp found).1
    have done : initial.after (operations ++ [operation]) =
        (initial.after operations).perform operation := after_append _ _ _
    rw [done] at found
    cases operation with
    | push pushed =>
      rw [perform, entries_push] at found
      rcases Nat.lt_or_ge below (initial.after operations).entries.length with old | new
      · rw [List.getElem?_append_left old] at found
        exact (ih found).concat inside
      · have place : below = (initial.after operations).depth := by
          rw [done, perform, ← length_entries, entries_push, List.length_append] at inside
          rw [← length_entries]
          exact Nat.le_antisymm (by simpa using inside) new
        rw [place, ← length_entries, List.getElem?_concat_length] at found
        obtain rfl := Option.some.inj found
        refine ⟨operations, pushed, [], rfl, ?_, fun first none => ?_, rfl⟩
        · rw [place]
          rfl
        · rw [List.prefix_nil.mp none, after_nil, place]
          exact Nat.le_refl _
    | pop =>
      have kept : (initial.after operations).entries[below]? = some entry := by
        rw [perform, entries_pop] at found
        split at found
        · exact found
        · exact (getElem?_of_below found).1
      exact (ih kept).concat inside
    | setSearch term =>
      have same : (initial.after operations).depth = (initial.after operations).entries.length :=
        (length_entries _).symm
      rw [perform, entries_setSearch, List.getElem?_append, List.length_dropLast] at found
      split at found
      · obtain ⟨kept, lower⟩ := getElem?_of_below found
        have later := (ih kept).concat inside
        rwa [searchAt, if_neg (Nat.ne_of_gt lower)] at later
      · -- The search is made at the entry itself, which is the current one.
        have place : (initial.after operations).depth = below + 1 := by
          have reached := (List.getElem?_eq_some_iff.mp found).1
          rw [List.length_singleton] at reached
          have positive := (initial.after operations).depth_pos
          omega
        have top : (initial.after operations).entries[below]? =
            some (initial.after operations).current := by
          rw [← getLast?_entries, List.getLast?_eq_getElem?, ← same, place, Nat.add_sub_cancel]
        have later := (ih top).concat inside
        rw [searchAt, if_pos place] at later
        rw [← same, place, Nat.add_sub_cancel, Nat.sub_self] at found
        exact Option.some.inj found ▸ later
    | reset => simp [perform, reset, entries, Nat.ne_of_gt higher] at found

/-! ## The refinement -/

/-- The history is what the operations make of a stack over the entry for the whole schema. -/
structure IsStackAfter (history : History) (operations : List Operation) : Prop where
  entries : history.entries = operations.foldl Operation.onStack [.root]
  /-- The lowest entry is the one for the whole schema, whatever is searched for there. -/
  lowest : history.OverRoot
  depth : history.depth = history.entries.length ∧ 1 ≤ history.depth
  current : history.entries.getLast? = some history.current
  previous : history.previous? = history.entries.dropLast.getLast? ∧
    (history.previous?.isSome ↔ 1 < history.depth)
  /-- A search changes nothing but the search of the current entry. -/
  search (term : String) : (history.setSearch term).entries =
    history.entries.dropLast ++ [history.current.searching term]
  reset : history.reset.entries = [.root]
  /-- What lies below the current entry is not altered, except by a reset. -/
  below (operation : Operation) : operation ≠ .reset →
    history.entries.dropLast <+: (history.perform operation).entries
  /-- The lowest entries are the same after an excursion from them. -/
  excursion (depth : Nat) (later : List Operation) : depth ≤ history.depth →
    Excursion depth history later →
    (history.after later).entries.take depth = history.entries.take depth
  /-- There is no step back from the lowest entry, and only from there. -/
  pop_none : (history.pop.1 = none ↔ history.depth = 1) ∧
    (history.depth = 1 → history.pop.2 = history)
  /-- A step back takes the uppermost entry away and hands it out: the one that was pushed last to
  its depth, with the latest search there. -/
  pop_some (entry : Entry) : history.pop.1 = some entry →
    history.entries = history.pop.2.entries ++ [entry] ∧
      IsLastPushed operations history.depth entry
  revision : history.revision = Operation.changes [.root] operations

/-- **A history is a stack over a lowest entry that stays.** -/
theorem history_is_stack (operations : List Operation) :
    (initial.after operations).IsStackAfter operations where
  entries := entries_after initial operations
  lowest := overRoot_after operations
  depth := ⟨(length_entries _).symm, depth_pos _⟩
  current := getLast?_entries _
  previous := by
    generalize initial.after operations = history
    obtain ⟨current, below, revision⟩ := history
    cases below with
    | nil => simp [previous?, History.depth, History.entries]
    | cons entry below => simp [previous?, History.depth, History.entries]
  search := entries_setSearch _
  reset := rfl
  below _ kept := below_perform _ kept
  excursion _ _ reached excursion := excursion.take reached
  pop_none := by
    refine ⟨?_, pop_of_lowest⟩
    rw [pop_fst]
    split <;> simp_all
  pop_some entry popped := by
    rw [pop_fst] at popped
    split at popped
    · cases popped
    · rename_i higher
      obtain rfl := Option.some.inj popped
      have positive := (initial.after operations).depth_pos
      have top : (initial.after operations).entries[(initial.after operations).depth - 1]? =
          some (initial.after operations).current := by
        rw [← length_entries, ← List.getLast?_eq_getElem?, getLast?_entries]
      have pushed := isLastPushed operations (by omega) top
      rw [Nat.sub_add_cancel positive] at pushed
      refine ⟨?_, pushed⟩
      rw [entries_pop, if_neg higher]
      exact (List.dropLast_append_getLast? _ (Option.mem_def.mpr (getLast?_entries _))).symm
  revision := by
    rw [revision_after]
    exact Nat.zero_add _

/-- Behind a search above it, the entry has its own search again. -/
example : (initial.after [.push .root, .setSearch "id", .push .root, .setSearch "at", .pop]).pop.1 =
    some (Entry.root.searching "id") := rfl

end History
end SchemaGuide.Explorer
