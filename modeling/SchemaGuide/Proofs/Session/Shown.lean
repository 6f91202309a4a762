import SchemaGuide.Proofs.Explorer.Guard
import SchemaGuide.Proofs.Session.Run
import SchemaGuide.Proofs.Settings.Binding

/-! A panel that is not shown again is the one that is shown. The guard in front of the
renders compares stamps and a revision, and neither the settings nor the panels. That is
enough: each loading brings a stamp of its own, unless it finds no schema and no errors, and
where there is no schema the panel does not depend on the settings. -/
namespace SchemaGuide

open Explorer

/-- The source that the last of so many loadings brought. -/
inductive Brought : Nat → Source → Prop where
  | atStart : Brought 0 .initial
  | byLoading (outcome : SchemaOutcome) (number : Nat) :
    Brought (number + 1) (outcome.source number)

/-- The source of a loading that found neither a schema nor errors. -/
def emptySource : Source := ⟨.absent, none⟩

/-- What looks the same to the guard came from one loading, or from loadings that found
nothing. -/
theorem Brought.same {first second : Source} {number other : Nat} (one : Brought number first)
    (two : Brought other second) {before after : History}
    (same : Snapshot.of first before = Snapshot.of second after) :
    number = other ∨ first = emptySource ∧ second = emptySource := by
  have schema := congrArg Snapshot.schema same
  have pending := congrArg Snapshot.pending same
  have errors := congrArg Snapshot.errors same
  have settled (outcome : SchemaOutcome) (number : Nat) (history : History) :
      (Snapshot.of (outcome.source number) history).pending = false := by
    cases outcome <;> rfl
  cases one with
  | atStart =>
    cases two with
    | atStart => exact .inl rfl
    | byLoading outcome other => exact absurd (pending.trans (settled ..)) Bool.noConfusion
  | byLoading outcome number =>
    cases two with
    | atStart => exact absurd ((settled ..).symm.trans pending) Bool.noConfusion
    | byLoading found other =>
      cases outcome <;> cases found <;>
        simp_all [Snapshot.of, SchemaOutcome.source, Source.schema?, emptySource]

/-- Without a schema, the panel is the same for all settings. -/
theorem render_of_emptySource {first second : DocExplorer}
    (history : first.history = second.history) (trailing : first.trailing = second.trailing) :
    first.renderNow emptySource = second.renderNow emptySource := by
  rw [DocExplorer.renderNow, DocExplorer.renderNow, DocExplorer.presentation,
    DocExplorer.presentation, history, trailing]
  rfl

namespace Session

/-- The session came from one with that explorer and that source, which so many loadings had
brought. -/
structure Follows (session : Session) (past : DocExplorer) (source : Source) (number : Nat) :
    Prop where
  brought : Brought number source
  earlier : number ≤ session.loads
  sameLoading : number = session.loads →
    source = session.source ∧ past.searchLimit = session.explorer.searchLimit
  history : past.history.Precedes session.explorer.history
  trailing : past.trailing = session.explorer.trailing

/-- If the guard sees no difference from the past, the panel is the one of then. -/
theorem Follows.panel {session : Session} {past : DocExplorer} {source : Source} {number : Nat}
    (follows : session.Follows past source number) (current : Brought session.loads session.source)
    (same : Snapshot.of source past.history =
      Snapshot.of session.source session.explorer.history) :
    past.renderNow source = session.explorer.renderNow session.source := by
  have history : past.history = session.explorer.history :=
    follows.history.eq (congrArg Snapshot.revision same)
  rcases follows.brought.same current same with number | ⟨empty, emptyNow⟩
  · obtain ⟨source, limit⟩ := follows.sameLoading number
    rw [source]
    exact DocExplorer.render_congr history limit follows.trailing session.source
  · rw [empty, emptyNow]
    exact render_of_emptySource history follows.trailing

end Session

/-- The guard remembers the panel that is shown. -/
structure Run.Faithful (run : Run) : Prop where
  brought : Brought run.session.loads run.session.source
  guarded : ∀ snapshot, run.session.explorer.guard.last = some snapshot →
    ∃ past source number, snapshot = Snapshot.of source past.history ∧
      run.shown = some (past.renderNow source) ∧ run.session.Follows past source number

namespace Run

/-- The guard remembers nothing before the first panel. -/
theorem faithful_start (options : LaunchOptions) : Faithful ⟨.start options, none⟩ :=
  ⟨.atStart, fun _ held => nomatch held⟩

/-- What the guard remembers stays the panel that is shown, whatever a change does. -/
theorem Faithful.change {before after : Session} {shown panel : Option Panel}
    (faithful : Faithful ⟨before, shown⟩) (change : before.Change after panel) :
    Faithful ⟨after, panel.or shown⟩ := by
  obtain ⟨brought, guarded⟩ := faithful
  cases change with
  | kept _ source loads explorer =>
    refine ⟨by rw [loads, source]; exact brought, fun snapshot held => ?_⟩
    rw [explorer] at held
    obtain ⟨past, first, number, made, panel, follows⟩ := guarded snapshot held
    exact ⟨past, first, number, made, panel, follows.brought, loads ▸ follows.earlier,
      by rw [loads, source, explorer]; exact follows.sameLoading, explorer ▸ follows.history,
      explorer ▸ follows.trailing⟩
  | loaded outcome source loads explorer =>
    refine ⟨by rw [loads, source]; exact .byLoading outcome _, fun snapshot held => ?_⟩
    rw [explorer] at held
    obtain ⟨past, first, number, made, panel, follows⟩ := guarded snapshot held
    have older : number < after.loads := by
      rw [loads]
      exact Nat.lt_succ_of_le follows.earlier
    exact ⟨past, first, number, made, panel, follows.brought, Nat.le_of_lt older,
      fun same => absurd same (Nat.ne_of_lt older), explorer ▸ follows.history,
      explorer ▸ follows.trailing⟩
  | explored action done =>
    obtain ⟨acted, moved, rfl, rfl⟩ := Session.explore_cases done
    obtain ⟨history, rfl, precedes⟩ := DocExplorer.history_of_act moved
    rcases DocExplorer.render_cases { before.explorer with history } before.source with
      ⟨_, skipped⟩ | rendered
    · rw [skipped]
      refine ⟨brought, fun snapshot held => ?_⟩
      obtain ⟨past, first, number, made, panel, follows⟩ := guarded snapshot held
      exact ⟨past, first, number, made, panel, follows.brought, follows.earlier,
        follows.sameLoading, follows.history.trans precedes, follows.trailing⟩
    · rw [rendered]
      refine ⟨brought, fun snapshot held => ?_⟩
      obtain rfl : Snapshot.of before.source history = snapshot := Option.some.inj held
      exact ⟨{ before.explorer with history }, before.source, before.loads, rfl, rfl, brought,
        Nat.le_refl _, fun _ => ⟨rfl, rfl⟩, .inl rfl, rfl⟩

/-- In every run, the guard remembers the panel that is shown. -/
theorem faithful (options : LaunchOptions) (calls : List Call) : (of options calls).Faithful :=
  of_induction options (faithful_start options)
    (fun run call known => known.change (run.session.change_of_call call)) calls

end Run

/-- **A skipped panel is the one that is shown.** In every run of a session, an action that
shows no panel finds the panel as it is now shown already, so the first one is never skipped. -/
theorem skipped_panel_is_shown (options : LaunchOptions) (calls : List Call) (action : Action)
    (after : Session)
    (skipped : (Run.of options calls).session.explore action = (.ok none, after)) :
    (Run.of options calls).shown = some (after.explorer.renderNow after.source) := by
  obtain ⟨brought, guarded⟩ := (Run.faithful options calls).change (.explored action skipped)
  obtain ⟨past, source, number, same, shown, follows⟩ :=
    guarded _ (Session.guard_of_explore skipped)
  rw [follows.panel brought same.symm] at shown
  exact shown

/-! ## Another limit where there is no schema -/

private def limited (limit : Nat) : Settings := { Settings.standard with searchLimit := limit }

private def lowText : String := "search_limit = 7"

private def highText : String := "search_limit = 9"

private theorem lowText_describes : Settings.parse? lowText = some (limited 7) := by
  decide +kernel

private theorem highText_describes : Settings.parse? highText = some (limited 9) := by
  decide +kernel

/-- Files that all have that text. -/
private def saying (text : String) : FileSystem := fun _ => .ok (.file text.toUTF8)

/-- The session where settings with that limit are loaded, which name no schema. -/
private def limitedSession (session : Session) (limit : Nat) : Session :=
  { session with
    settings := limited limit
    source := ⟨.absent, none⟩
    loads := session.loads + 1
    explorer := { session.explorer with searchLimit := limit } }

private theorem limited_loaded {session : Session} {text : String} {limit : Nat}
    (settingsFile : session.settingsFile = some ⟨"settings.toml"⟩)
    (workspace : session.workspace = none) (named : session.schemaOverride = none)
    (describes : Settings.parse? text = some (limited limit)) :
    (session.load (saying text) ⟨none, none⟩).1 = limitedSession session limit := by
  have candidates : Settings.candidates (some ⟨"settings.toml"⟩) none ⟨none, none⟩ =
      [⟨"settings.toml"⟩] := rfl
  have loads : session.loadSettings (saying text) ⟨none, none⟩ = .ok (limited limit) := by
    rw [Session.loadSettings, settingsFile, workspace]
    exact Settings.load_of_first (fun _ same => (Option.some.inj same).symm) candidates rfl
      describes
  have path : session.schemaPath (limited limit) = none := by
    rw [Session.schemaPath, named]
    rfl
  simp only [Session.load, loads, Session.settingsAfter, path]
  rfl

private def limitOptions : LaunchOptions := ⟨some ⟨"settings.toml"⟩, none⟩

/-- A look at the panel. -/
private def lookingOn : Call :=
  ⟨saying lowText, ⟨none, none⟩, .explore, .object [(some "action", .array [.ofText "refresh"])]⟩

/-- The panel is shown, and then settings with another limit are loaded. -/
private def limitCalls : List Call :=
  [.greet (saying lowText) ⟨none, none⟩, .ready (saying lowText) ⟨none, none⟩, lookingOn,
    .ready (saying highText) ⟨none, none⟩]

private def lookedOn : Session :=
  lookingOn.session (limitedSession (.greeted limitOptions) 7)

private theorem limit_run :
    (Run.of limitOptions limitCalls).session = limitedSession lookedOn 9 := by
  have first : ((Session.greeted limitOptions).load (saying lowText) ⟨none, none⟩).1 =
      limitedSession (.greeted limitOptions) 7 := limited_loaded rfl rfl rfl lowText_describes
  have second : (lookedOn.load (saying highText) ⟨none, none⟩).1 = limitedSession lookedOn 9 :=
    limited_loaded rfl rfl rfl highText_describes
  rw [limitCalls, Run.of_begun, first]
  exact (Session.session_of_ready rfl ..).trans second

/-- Both settings name no schema, so the second limit makes no other panel. -/
theorem skipped_panel_after_loading_twice :
    let session := (Run.of limitOptions limitCalls).session
    lookedOn.explorer.searchLimit = 7 ∧ session.explorer.searchLimit = 9 ∧
      session.explore .refresh = (.ok none, session) ∧
      (Run.of limitOptions limitCalls).shown =
        some (session.explorer.renderNow session.source) := by
  intro session
  have skipped : session.explore .refresh = (.ok none, session) := by
    rw [show session = limitedSession lookedOn 9 from limit_run]
    rfl
  have limit : session.explorer.searchLimit = 9 := by
    rw [show session = limitedSession lookedOn 9 from limit_run]
    rfl
  exact ⟨rfl, limit, skipped, skipped_panel_is_shown _ _ .refresh _ skipped⟩

end SchemaGuide
