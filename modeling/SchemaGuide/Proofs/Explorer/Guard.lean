import SchemaGuide.Explorer.Action

/-! What the guard of an explorer can rely on. An action keeps the history or raises its
revision, so that one revision is one history, and a render is skipped only where the guard
holds the snapshot of what it would be made from. -/
namespace SchemaGuide.Explorer

namespace History

/-- The other history is this one or a later one. -/
def Precedes (before after : History) : Prop :=
  before = after ∨ before.revision < after.revision

theorem Precedes.trans {first second third : History} (one : first.Precedes second)
    (two : second.Precedes third) : first.Precedes third := by
  rcases one with rfl | lower
  · exact two
  · rcases two with rfl | higher
    · exact .inr lower
    · exact .inr (Nat.lt_trans lower higher)

theorem Precedes.eq {before after : History} (precedes : before.Precedes after)
    (same : before.revision = after.revision) : before = after :=
  precedes.resolve_right fun lower => absurd same (Nat.ne_of_lt lower)

theorem precedes_push (history : History) (entry : Entry) : history.Precedes (history.push entry) :=
  .inr (Nat.lt_succ_self _)

theorem precedes_pop (history : History) : history.Precedes history.pop.2 := by
  rw [pop]
  split
  · exact .inl rfl
  · exact .inr (Nat.lt_succ_self _)

theorem precedes_setSearch (history : History) (term : String) :
    history.Precedes (history.setSearch term) :=
  .inr (Nat.lt_succ_self _)

theorem precedes_reset (history : History) : history.Precedes history.reset :=
  .inr (Nat.lt_succ_self _)

end History

namespace DocExplorer

/-- An action changes nothing but the history, and that only with its revision. -/
theorem history_of_act {explorer acted : DocExplorer} {source : Source} {action : Action}
    (done : explorer.act source action = (.ok (), acted)) :
    ∃ history, acted = { explorer with history } ∧ explorer.history.Precedes history := by
  have opened (done : explorer.openTarget source action = (.ok (), acted)) :
      ∃ history, acted = { explorer with history } ∧ explorer.history.Precedes history := by
    rw [openTarget] at done
    split at done
    · cases done
    · split at done
      · cases done
      · cases done
        exact ⟨_, rfl, History.precedes_push _ _⟩
  cases action with
  | refresh => cases done; exact ⟨_, rfl, .inl rfl⟩
  | reset => cases done; exact ⟨_, rfl, History.precedes_reset _⟩
  | pop => cases done; exact ⟨_, rfl, History.precedes_pop _⟩
  | search term => cases done; exact ⟨_, rfl, History.precedes_setSearch _ _⟩
  | openType name => exact opened done
  | openField typeName field => exact opened done
  | openArgument typeName field argument => exact opened done

/-- What a step opens is looked up before anything is done, so a refused action leaves the explorer
as it is. -/
theorem explorer_of_refused {explorer after : DocExplorer} {source : Source} {action : Action}
    {error : ActionError} (refused : explorer.act source action = (.error error, after)) :
    after = explorer := by
  have opened (refused : explorer.openTarget source action = (.error error, after)) :
      after = explorer := by
    rw [openTarget] at refused
    split at refused
    · exact (congrArg Prod.snd refused).symm
    · split at refused
      · exact (congrArg Prod.snd refused).symm
      · cases refused
  cases action with
  | refresh | reset | pop | search term => cases refused
  | openType name => exact opened refused
  | openField typeName field => exact opened refused
  | openArgument typeName field argument => exact opened refused

/-- A render is skipped where the guard holds the snapshot already. Otherwise the panel is
shown as it is now, and the guard holds the snapshot from then on. -/
theorem render_cases (explorer : DocExplorer) (source : Source) :
    explorer.guard.last = some (Snapshot.of source explorer.history) ∧
        explorer.render source = (none, explorer) ∨
      explorer.render source =
        (some (explorer.renderNow source),
          { explorer with guard := ⟨some (Snapshot.of source explorer.history)⟩ }) := by
  obtain ⟨history, ⟨last⟩, searchLimit, trailing⟩ := explorer
  by_cases known : last = some (Snapshot.of source history)
  · subst known
    exact .inl ⟨rfl, by simp [render, Guard.changed]⟩
  · exact .inr (by simp [render, Guard.changed, known])

/-- The panel depends on the history, the limit of searches and what stands behind the title,
and not on the guard. -/
theorem render_congr {first second : DocExplorer} (history : first.history = second.history)
    (limit : first.searchLimit = second.searchLimit) (trailing : first.trailing = second.trailing)
    (source : Source) : first.renderNow source = second.renderNow source := by
  simp [renderNow, presentation, history, limit, trailing]

end DocExplorer
end SchemaGuide.Explorer
