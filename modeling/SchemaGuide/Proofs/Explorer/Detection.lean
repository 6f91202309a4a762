import Mathlib.Data.List.Induction
import Mathlib.Logic.Function.Basic
import SchemaGuide.Proofs.Explorer.Guard

/-! What a guard detects. Any number of guards can stand in front of one history, and each of
them is asked at moments of its own. The revision of the history counts the steps that changed
it and nothing else, so a guard that compares revisions sees every step since it was asked
last, however many there were, and no step that was none. -/
namespace SchemaGuide.Explorer

/-! ## References -/

/-- Both slots refer to one loaded schema, or both are at the same point without one. -/
inductive Slot.Same : Slot → Slot → Prop where
  | pending : Same .pending .pending
  | absent : Same .absent .absent
  | loaded (stamp : Nat) (first second : Schema) :
    Same (.loaded ⟨stamp, first⟩) (.loaded ⟨stamp, second⟩)

/-- Both sources refer to the same schema and to the same errors. -/
structure Source.Same (first second : Source) : Prop where
  slot : first.slot.Same second.slot
  errors : first.errors.map (·.stamp) = second.errors.map (·.stamp)

/-- Snapshots are those of one revision and of sources that refer to the same. -/
theorem snapshot_eq_iff {past now : Source} {before after : History} :
    Snapshot.of past before = Snapshot.of now after ↔
      past.Same now ∧ before.revision = after.revision := by
  obtain ⟨pastSlot, pastErrors⟩ := past
  obtain ⟨nowSlot, nowErrors⟩ := now
  constructor
  · intro same
    have schema := congrArg Snapshot.schema same
    have pending := congrArg Snapshot.pending same
    refine ⟨⟨?_, congrArg Snapshot.errors same⟩, congrArg Snapshot.revision same⟩
    cases pastSlot with
    | pending =>
      cases nowSlot with
      | pending => exact .pending
      | absent => cases pending
      | loaded schema => cases pending
    | absent =>
      cases nowSlot with
      | pending => cases pending
      | absent => exact .absent
      | loaded loaded => cases schema
    | loaded loaded =>
      cases nowSlot with
      | pending => cases pending
      | absent => cases schema
      | loaded other =>
        obtain ⟨stamp, first⟩ := loaded
        obtain ⟨otherStamp, second⟩ := other
        obtain rfl : stamp = otherStamp := Option.some.inj schema
        exact .loaded stamp first second
  · rintro ⟨⟨slot, errors⟩, revision⟩
    cases slot <;> simp_all [Snapshot.of, Source.schema?]

/-! ## Events -/

/-- What happens to a history and to the guards in front of it, one for each index. -/
inductive Event (ι : Type) where
  | push (entry : Entry)
  | pop
  | setSearch (term : String)
  | reset
  /-- A guard is asked whether anything changed. -/
  | changed (guard : ι) (source : Source)
  | invalidate (guard : ι)

namespace Event

variable {ι : Type}

/-- The history after an event. -/
def history (history : History) : Event ι → History
  | .push entry => history.push entry
  | .pop => history.pop.2
  | .setSearch term => history.setSearch term
  | .reset => history.reset
  | .changed _ _ | .invalidate _ => history

/-- The event is a change of the history. A step back is none at the lowest entry. -/
def Alters (history : History) : Event ι → Prop
  | .push _ | .setSearch _ | .reset => True
  | .pop => 1 < history.depth
  | .changed _ _ | .invalidate _ => False

/-- The event is one of a guard. -/
def Concerns (guard : ι) : Event ι → Prop
  | .changed other _ | .invalidate other => other = guard
  | .push _ | .pop | .setSearch _ | .reset => False

/-- None of the events is a change of the history, from this history on. -/
def Quiet : History → List (Event ι) → Prop
  | _, [] => True
  | history, event :: rest => ¬ event.Alters history ∧ Quiet (event.history history) rest

theorem history_of_alters {history : History} {event : Event ι} (alters : event.Alters history) :
    (event.history history).revision = history.revision + 1 := by
  cases event with
  | push entry => rfl
  | pop =>
    obtain ⟨current, below, revision⟩ := history
    cases below with
    | nil => exact absurd alters (Nat.lt_irrefl 1)
    | cons entry below => rfl
  | setSearch term => rfl
  | reset => rfl
  | changed guard source => exact alters.elim
  | invalidate guard => exact alters.elim

theorem history_of_not_alters {history : History} {event : Event ι}
    (keeps : ¬ event.Alters history) : event.history history = history := by
  cases event with
  | push entry => exact (keeps trivial).elim
  | pop =>
    obtain ⟨current, below, revision⟩ := history
    cases below with
    | nil => rfl
    | cons entry below => exact (keeps (Nat.succ_lt_succ (Nat.zero_lt_succ _))).elim
  | setSearch term => exact (keeps trivial).elim
  | reset => exact (keeps trivial).elim
  | changed guard source => rfl
  | invalidate guard => rfl

end Event

/-! ## Runs -/

/-- A history with guards in front of it. -/
structure Guarded (ι : Type) where
  history : History
  guards : ι → Guard

namespace Guarded

variable {ι : Type}

/-- A history before the first step, with guards that were never asked. -/
def start : Guarded ι := ⟨.initial, fun _ => .initial⟩

/-- What a guard says to a source now. -/
def changed (guarded : Guarded ι) (guard : ι) (source : Source) : Bool :=
  ((guarded.guards guard).changed source guarded.history).1

/-- What a guard says is that it does not hold the snapshot of now. -/
theorem changed_eq_false_iff {guarded : Guarded ι} {guard : ι} {source : Source} :
    guarded.changed guard source = false ↔
      (guarded.guards guard).last = some (Snapshot.of source guarded.history) := by
  simp [changed, Guard.changed]

variable [DecidableEq ι]

/-- History and guards after an event. -/
def step (guarded : Guarded ι) (event : Event ι) : Guarded ι where
  history := event.history guarded.history
  guards :=
    match event with
    | .changed guard source => Function.update guarded.guards guard
        ((guarded.guards guard).changed source guarded.history).2
    | .invalidate guard => Function.update guarded.guards guard (guarded.guards guard).invalidate
    | .push _ | .pop | .setSearch _ | .reset => guarded.guards

/-- History and guards after events. -/
def after (guarded : Guarded ι) (events : List (Event ι)) : Guarded ι :=
  events.foldl step guarded

theorem after_append (guarded : Guarded ι) (first second : List (Event ι)) :
    guarded.after (first ++ second) = (guarded.after first).after second :=
  List.foldl_append

/-! ### The history -/

theorem revision_le_after (guarded : Guarded ι) (events : List (Event ι)) :
    guarded.history.revision ≤ (guarded.after events).history.revision := by
  induction events generalizing guarded with
  | nil => exact Nat.le_refl _
  | cons event rest ih =>
    refine Nat.le_trans ?_ (ih (guarded.step event))
    by_cases alters : event.Alters guarded.history
    · exact Nat.le_of_lt (Event.history_of_alters alters ▸ Nat.lt_succ_self _)
    · exact Nat.le_of_eq (congrArg _ (Event.history_of_not_alters alters).symm)

theorem history_of_quiet (guarded : Guarded ι) {events : List (Event ι)}
    (quiet : Event.Quiet guarded.history events) :
    (guarded.after events).history = guarded.history := by
  induction events generalizing guarded with
  | nil => rfl
  | cons event rest ih =>
    exact (ih (guarded.step event) quiet.2).trans (Event.history_of_not_alters quiet.1)

/-- The revision stays exactly where nothing changes the history. -/
theorem quiet_iff_revision (guarded : Guarded ι) {events : List (Event ι)} :
    Event.Quiet guarded.history events ↔
      guarded.history.revision = (guarded.after events).history.revision := by
  refine ⟨fun quiet => congrArg _ (guarded.history_of_quiet quiet).symm, fun same => ?_⟩
  induction events generalizing guarded with
  | nil => trivial
  | cons event rest ih =>
    have later := revision_le_after (guarded.step event) rest
    by_cases alters : event.Alters guarded.history
    · have raised : (guarded.step event).history.revision = guarded.history.revision + 1 :=
        Event.history_of_alters alters
      rw [raised] at later
      exact absurd same (Nat.ne_of_lt later)
    · have kept : (guarded.step event).history = guarded.history :=
        Event.history_of_not_alters alters
      exact ⟨alters, ih (guarded.step event) (kept.symm ▸ same)⟩

/-! ### The guards -/

theorem guard_of_step_of_not_concerns {guard : ι} {event : Event ι}
    (other : ¬ event.Concerns guard) (guarded : Guarded ι) :
    (guarded.step event).guards guard = guarded.guards guard := by
  cases event with
  | changed asked source => exact Function.update_of_ne (Ne.symm other) _ _
  | invalidate asked => exact Function.update_of_ne (Ne.symm other) _ _
  | _ => rfl

theorem guard_of_step_changed (guarded : Guarded ι) (guard : ι) (source : Source) :
    (guarded.step (.changed guard source)).guards guard =
      ⟨some (Snapshot.of source guarded.history)⟩ :=
  Function.update_self _ _ _

theorem guard_of_step_invalidate (guarded : Guarded ι) (guard : ι) :
    (guarded.step (.invalidate guard)).guards guard = .initial :=
  Function.update_self _ _ _

/-- Events that are none of a guard leave it as it is. -/
theorem guard_of_after {guard : ι} {events : List (Event ι)}
    (others : ∀ event ∈ events, ¬ event.Concerns guard) (guarded : Guarded ι) :
    (guarded.after events).guards guard = guarded.guards guard := by
  induction events generalizing guarded with
  | nil => rfl
  | cons event rest ih =>
    obtain ⟨other, others⟩ := List.forall_mem_cons.mp others
    exact (ih others (guarded.step event)).trans (guard_of_step_of_not_concerns other guarded)

/-- A guard that is not asked keeps what it holds, or holds nothing. -/
theorem guard_since_call {guard : ι} {events : List (Event ι)}
    (unasked : ∀ source, .changed guard source ∉ events) (guarded : Guarded ι) :
    (guarded.after events).guards guard = guarded.guards guard ∨
      (guarded.after events).guards guard = .initial := by
  induction events generalizing guarded with
  | nil => exact .inl rfl
  | cons event rest ih =>
    have later := ih (fun source member => unasked source (List.mem_cons_of_mem _ member))
      (guarded.step event)
    by_cases concerns : event.Concerns guard
    · have forgotten : (guarded.step event).guards guard = .initial := by
        cases event with
        | changed asked source =>
          obtain rfl : asked = guard := concerns
          exact (unasked source List.mem_cons_self).elim
        | invalidate asked =>
          obtain rfl : asked = guard := concerns
          exact guarded.guard_of_step_invalidate asked
        | _ => exact concerns.elim
      exact .inr (later.elim (·.trans forgotten) id)
    · rw [guard_of_step_of_not_concerns concerns guarded] at later
      exact later

/-- A guard holds the snapshot of the last call, unless it was made to forget it. -/
theorem last_eq_some_iff {events : List (Event ι)} {guard : ι} {snapshot : Snapshot} :
    ((start.after events).guards guard).last = some snapshot ↔
      ∃ earlier past later, events = earlier ++ .changed guard past :: later ∧
        (∀ event ∈ later, ¬ event.Concerns guard) ∧
        snapshot = Snapshot.of past (start.after earlier).history := by
  constructor
  · intro held
    induction events using List.reverseRecOn with
    | nil => cases held
    | append_singleton events event ih =>
      rw [after_append] at held
      by_cases concerns : event.Concerns guard
      · cases event with
        | changed asked source =>
          obtain rfl : asked = guard := concerns
          rw [after, List.foldl_cons, List.foldl_nil, guard_of_step_changed] at held
          exact ⟨events, source, [], rfl, by simp, (Option.some.inj held).symm⟩
        | invalidate asked =>
          obtain rfl : asked = guard := concerns
          rw [after, List.foldl_cons, List.foldl_nil, guard_of_step_invalidate] at held
          cases held
        | _ => exact concerns.elim
      · rw [after, List.foldl_cons, List.foldl_nil,
          guard_of_step_of_not_concerns concerns] at held
        obtain ⟨earlier, past, later, rfl, others, made⟩ := ih held
        refine ⟨earlier, past, later ++ [event], by simp, ?_, made⟩
        intro other member
        rcases List.mem_append.mp member with old | new
        · exact others other old
        · exact List.mem_singleton.mp new ▸ concerns
  · rintro ⟨earlier, past, later, rfl, others, rfl⟩
    rw [after_append, after, List.foldl_cons, ← after, guard_of_after others,
      guard_of_step_changed]

/-! ### The last call -/

theorem after_call (earlier : List (Event ι)) (guard : ι) (past : Source)
    (later : List (Event ι)) :
    start.after (earlier ++ .changed guard past :: later) =
      ((start.after earlier).step (.changed guard past)).after later :=
  after_append _ earlier _

/-- Since a call nothing changed the history exactly where the revision is the same. -/
theorem quiet_since_call_iff {earlier : List (Event ι)} {guard : ι} {past : Source}
    {later : List (Event ι)} :
    Event.Quiet (start.after earlier).history later ↔
      (start.after earlier).history.revision =
        (start.after (earlier ++ .changed guard past :: later)).history.revision := by
  rw [after_call]
  exact ((start.after earlier).step (.changed guard past)).quiet_iff_revision

/-- Where a guard says that nothing changed, the history is the one of its last call. -/
theorem history_of_unchanged {earlier : List (Event ι)} {guard : ι} {past : Source}
    {later : List (Event ι)} (unasked : ∀ other, .changed guard other ∉ later) {source : Source}
    (unchanged :
      (start.after (earlier ++ .changed guard past :: later)).changed guard source = false) :
    (start.after (earlier ++ .changed guard past :: later)).history =
      (start.after earlier).history := by
  rw [changed_eq_false_iff] at unchanged
  rcases guard_since_call unasked ((start.after earlier).step (.changed guard past)) with
    kept | forgotten
  · have held : Snapshot.of past (start.after earlier).history =
        Snapshot.of source (start.after (earlier ++ .changed guard past :: later)).history := by
      rw [after_call earlier, kept, guard_of_step_changed, ← after_call earlier] at unchanged
      exact Option.some.inj unchanged
    have quiet := quiet_since_call_iff.mpr (snapshot_eq_iff.mp held).2
    rw [after_call]
    exact ((start.after earlier).step (.changed guard past)).history_of_quiet quiet
  · rw [after_call, forgotten] at unchanged
    cases unchanged

end Guarded

variable {ι : Type} [DecidableEq ι]

/-- **A guard detects exactly the changes.** Whatever happens to a history and to the guards in
front of it, a guard says that nothing changed exactly where it was asked before and not made to
forget since, the history did not change since it was asked last, and the source refers to the
same as the one of then. So it never says so where the entries are others than at its last
call. -/
theorem unchanged_iff_quiet_since_call (events : List (Event ι)) (guard : ι) (source : Source) :
    ((Guarded.start.after events).changed guard source = false ↔
      ∃ earlier past later, events = earlier ++ .changed guard past :: later ∧
        (∀ event ∈ later, ¬ event.Concerns guard) ∧
        Event.Quiet (Guarded.start.after earlier).history later ∧ past.Same source) ∧
    ∀ earlier past later, events = earlier ++ .changed guard past :: later →
      (∀ other, .changed guard other ∉ later) →
      (Guarded.start.after events).history.entries ≠
        (Guarded.start.after earlier).history.entries →
      (Guarded.start.after events).changed guard source = true := by
  constructor
  · rw [Guarded.changed_eq_false_iff, Guarded.last_eq_some_iff]
    constructor
    · rintro ⟨earlier, past, later, rfl, others, made⟩
      obtain ⟨same, revision⟩ := snapshot_eq_iff.mp made.symm
      exact ⟨earlier, past, later, rfl, others, Guarded.quiet_since_call_iff.mpr revision, same⟩
    · rintro ⟨earlier, past, later, rfl, others, quiet, same⟩
      refine ⟨earlier, past, later, rfl, others, Eq.symm ?_⟩
      exact snapshot_eq_iff.mpr ⟨same, Guarded.quiet_since_call_iff.mp quiet⟩
  · rintro earlier past later rfl unasked different
    rw [← Bool.not_eq_false]
    intro unchanged
    exact different (congrArg History.entries (Guarded.history_of_unchanged unasked unchanged))

/-- Two guards are asked before and after a search begins. A step back from the lowest entry
follows, which is none. -/
private def askedAround : List (Event Nat) :=
  [.changed 1 .initial, .setSearch "id", .changed 0 .initial, .pop]

theorem unchanged_for_one_of_two_guards :
    (Guarded.start.after askedAround).changed 0 .initial = false ∧
      (Guarded.start.after askedAround).changed 1 .initial = true := by
  refine ⟨(unchanged_iff_quiet_since_call askedAround 0 .initial).1.mpr ?_,
    (unchanged_iff_quiet_since_call askedAround 1 .initial).2 [] .initial
      [.setSearch "id", .changed 0 .initial, .pop] rfl (by simp) (by decide)⟩
  exact ⟨[.changed 1 .initial, .setSearch "id"], .initial, [.pop], rfl,
    by simp [Event.Concerns], ⟨Nat.lt_irrefl 1, trivial⟩, .pending, rfl⟩

end SchemaGuide.Explorer
