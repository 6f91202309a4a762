import SchemaGuide.Proofs.Session.Following
import SchemaGuide.Proofs.Settings.Binding
import SchemaGuide.Proofs.Settings.Naming
import SchemaGuide.Proofs.Uri.Absolute

/-! A schema that an editor names in its options. It goes before the schema of the settings,
whatever they say and whether or not they can be read. To name it in the options should be the same
as to name it in the settings. It is the same exactly for a path that is absolute, or where there is
no workspace: the settings take a path from the workspace, the options take it as it is written. If
the two paths differ, so do the schemas in some files, because one of the paths is not that of the
settings and anything may stand there. -/
namespace SchemaGuide

/-! ## What an editor tells at the start -/

/-- Options that name a schema. -/
def schemaOptions (path : FilePath) : Json :=
  .object [(some "schema", .ofText path.text)]

/-- The parameters of a greeting: the address of the workspace, and the options of the editor. -/
def greetingParams (address options : Json) : Json :=
  .object [(some "capabilities", .object []), (some "rootUri", address),
    (some "initializationOptions", options)]

section Greeting

variable {address : Json} {workspace : Option FilePath}

theorem read_greeting (told : Message.workspaceAt? address = some workspace) (options : Json) :
    Message.read? .greet (greetingParams address options) =
      some (.greeting workspace (Message.schemaOption? options)) := by
  change (Message.workspaceAt? address).bind _ = _
  rw [told]
  rfl

/-- A workspace has an absolute path. -/
theorem isAbsolute_of_workspace {root : FilePath}
    (told : Message.workspaceAt? address = some (some root)) : root.isAbsolute = true := by
  unfold Message.workspaceAt? at told
  split at told
  · cases told
  · obtain ⟨uri, _, path⟩ := Option.map_eq_some_iff.mp told
    exact isAbsolute_of_filePath path

end Greeting

/-! ## What a session loads -/

/-- The session after its start: it is launched, greeted with these parameters, and loads. -/
def Session.started (launch : LaunchOptions) (params : Json) (files : FileSystem)
    (environment : Settings.Environment) : Session :=
  (Run.of launch [⟨files, environment, .greet, params⟩, .ready files environment]).session

/-- A path as it is taken from a workspace. -/
def FilePath.takenFrom (workspace : Option FilePath) (path : FilePath) : FilePath :=
  match workspace with
  | some root => root.join path
  | none => path

theorem Settings.schemaPath_of_named {settings : Settings} {path : FilePath}
    (named : settings.schema = some path) (workspace : Option FilePath) :
    settings.schemaPath workspace = some (path.takenFrom workspace) := by
  rw [Settings.schemaPath, named, Option.map_some]
  cases workspace <;> rfl

/-- The schema that is named first is loaded: by the editor, at the launch, or in the settings. -/
theorem source_of_started (launch : LaunchOptions) {params : Json}
    {workspace schema : Option FilePath}
    (read : Message.read? .greet params = some (.greeting workspace schema)) (files : FileSystem)
    (environment : Settings.Environment) :
    (Session.started launch params files environment).source =
      (SchemaOutcome.of files ((schema.or launch.schema).or
        ((Session.settingsAfter (Settings.load files launch.settingsFile workspace
          environment)).schemaPath workspace))).source 0 := by
  have greeted : (Run.of launch [⟨files, environment, .greet, params⟩]).session =
      (Session.start launch).configure workspace schema := by
    simp only [Run.of, List.foldl_cons, List.foldl_nil, Run.step, Call.session, Session.call,
      Phase.accept_of_read read]
    rfl
  have started : Session.started launch params files environment =
      (((Session.start launch).configure workspace schema).load files environment).1 := by
    rw [← Session.session_of_ready rfl, ← greeted]
    rfl
  rw [started]
  show (SchemaOutcome.of files ((schema.or launch.schema).or
    ((Session.settingsAfter (Settings.load files launch.settingsFile (workspace.or none)
      environment)).schemaPath (workspace.or none)))).source 0 = _
  rw [Option.or_none]

/-- Only what stands at its path matters for a schema. -/
theorem outcome_congr {files others : FileSystem} {path : FilePath}
    (same : others path = files path) :
    SchemaOutcome.of others (some path) = SchemaOutcome.of files (some path) := by
  simp only [SchemaOutcome.of, readSchema, FileSystem.readText, same]

private def emptyText : String := "\x7b\"__schema\":\x7b\x7d\x7d"

private theorem emptyText_describes :
    Introspection.parse emptyText = .ok ⟨none, none, none, none, .ofList []⟩ := by
  decide +kernel

/-- The files with something else at one path, which is no regular file. -/
def FileSystem.withStream (files : FileSystem) (path : FilePath)
    (content : Except ReadError ByteArray) : FileSystem :=
  fun place => if place = path then .ok (.stream content) else files place

/-- What stands at a path can always be such that the schema there is another one than the schema
at a second path. -/
theorem sources_can_differ (files : FileSystem) {path other : FilePath} (apart : other ≠ path) :
    ∃ content, (SchemaOutcome.of (files.withStream path content) (some path)).source 0 ≠
      (SchemaOutcome.of (files.withStream path content) (some other)).source 0 := by
  have there (content : Except ReadError ByteArray) :
      files.withStream path content path = .ok (.stream content) := if_pos rfl
  have elsewhere (content : Except ReadError ByteArray) :
      files.withStream path content other = files other := if_neg apart
  cases found : SchemaOutcome.of files (some other) with
  | notNamed =>
    rw [SchemaOutcome.of] at found
    split at found
    · cases found
    · cases found
  | loaded place schema =>
    refine ⟨.error .notFound, ?_⟩
    rw [outcome_congr (elsewhere _), found]
    simp [SchemaOutcome.of, readSchema, FileSystem.readText, there, FileNode.bytes,
      SchemaOutcome.source]
  | failed error =>
    refine ⟨.ok emptyText.toUTF8, ?_⟩
    have valid : String.fromUTF8? emptyText.toUTF8 = some emptyText := dif_pos emptyText.isValidUTF8
    have text : (files.withStream path (.ok emptyText.toUTF8)).readText path = .ok emptyText := by
      rw [FileSystem.readText]
      simp only [there, FileNode.bytes, valid]
    have loaded : SchemaOutcome.of (files.withStream path (.ok emptyText.toUTF8)) (some path) =
        .loaded path ⟨none, none, none, none, .ofList []⟩ := by
      simp only [SchemaOutcome.of, readSchema, text, emptyText_describes]
    rw [loaded, outcome_congr (elsewhere _), found]
    simp [SchemaOutcome.source]

/-! ## A schema in the settings -/

namespace Settings

/-- The settings that are loaded name a schema at the path. -/
def NameSchema (asked workspace : Option FilePath) (path : FilePath) (files : FileSystem)
    (environment : Environment) : Prop :=
  ∃ settings, load files asked workspace environment = .ok settings ∧ settings.schema = some path

/-- There is always a place where settings are looked for first. -/
theorem exists_first_candidate (asked workspace : Option FilePath) :
    ∃ place elsewhere, (∀ path ∈ asked, path = place) ∧
      ∃ more, candidates asked workspace elsewhere = place :: more := by
  cases asked with
  | some path => exact ⟨path, ⟨none, none⟩, by simp, _, rfl⟩
  | none =>
    cases workspace with
    | some root => exact ⟨root.join workspaceFile, ⟨none, none⟩, by simp, _, rfl⟩
    | none => exact ⟨_, ⟨some ⟨"/home"⟩, none⟩, by simp, [], rfl⟩

end Settings

/-- In some files the settings name a schema, and the schemas at two paths are not the same. -/
theorem exists_naming_files (asked workspace : Option FilePath) (path : FilePath)
    {first second : FilePath} (apart : first ≠ second) :
    ∃ files environment, Settings.NameSchema asked workspace path files environment ∧
      (SchemaOutcome.of files (some first)).source 0 ≠
        (SchemaOutcome.of files (some second)).source 0 := by
  obtain ⟨place, environment, only, more, candidates⟩ :=
    Settings.exists_first_candidate asked workspace
  let named : FileSystem := fun _ => .ok (.file (Settings.naming path).toUTF8)
  have names (other : FilePath) (beside : place ≠ other) (content : Except ReadError ByteArray) :
      Settings.NameSchema asked workspace path (named.withStream other content) environment :=
    ⟨_, Settings.load_of_first only candidates (if_neg beside) (Settings.parse_naming path), rfl⟩
  -- One of the two paths is not that of the settings.
  by_cases here : place = first
  · have beside : place ≠ second := fun same => apart (here.symm.trans same)
    obtain ⟨content, differ⟩ := sources_can_differ named apart
    exact ⟨_, environment, names second beside content, differ.symm⟩
  · obtain ⟨content, differ⟩ := sources_can_differ named apart.symm
    exact ⟨_, environment, names first here content, differ⟩

/-! ## Options and settings -/

/-- A path that is taken from a workspace stays as it is exactly if there is none, or if the path is
absolute. -/
theorem takenFrom_eq_self_iff {address : Json} {workspace : Option FilePath}
    (told : Message.workspaceAt? address = some workspace) (path : FilePath) :
    path.takenFrom workspace = path ↔ workspace = none ∨ path.isAbsolute = true := by
  cases workspace with
  | none => simp [FilePath.takenFrom]
  | some root =>
    rw [FilePath.takenFrom, FilePath.join_eq_self_iff (isAbsolute_of_workspace told)]
    simp

/-- Two paths lead to the same schema wherever the settings name a third one only if they are the
same. -/
theorem eq_of_same_sources {asked workspace : Option FilePath} {path first second : FilePath}
    (same : ∀ files environment, Settings.NameSchema asked workspace path files environment →
      (SchemaOutcome.of files (some first)).source 0 =
        (SchemaOutcome.of files (some second)).source 0) : first = second := by
  by_contra apart
  obtain ⟨files, environment, names, differ⟩ := exists_naming_files asked workspace path apart
  exact differ (same files environment names)

section Sources

variable (launch : LaunchOptions) {address : Json} {workspace : Option FilePath}
  (told : Message.workspaceAt? address = some workspace)

include told

/-- A schema in the options is loaded from the path as it is written. -/
theorem source_of_option (path : FilePath) (files : FileSystem)
    (environment : Settings.Environment) :
    (Session.started launch (greetingParams address (schemaOptions path)) files
      environment).source = (SchemaOutcome.of files (some path)).source 0 := by
  have named : Message.schemaOption? (schemaOptions path) = some path := rfl
  have source := source_of_started launch (read_greeting told (schemaOptions path)) files
    environment
  rw [named, Option.some_or, Option.some_or] at source
  exact source

/-- Without one, the schema of the launch is loaded, or else that of the settings, from a path that
is taken from the workspace. -/
theorem source_of_setting {others : Json} (unnamed : Message.schemaOption? others = none)
    {path : FilePath} {files : FileSystem} {environment : Settings.Environment}
    (names : Settings.NameSchema launch.settingsFile workspace path files environment) :
    (Session.started launch (greetingParams address others) files environment).source =
      (SchemaOutcome.of files
        (launch.schema.or (some (path.takenFrom workspace)))).source 0 := by
  obtain ⟨settings, loads, schema⟩ := names
  have source := source_of_started launch (read_greeting told others) files environment
  rw [unnamed, Option.none_or, loads, Session.settingsAfter,
    Settings.schemaPath_of_named schema] at source
  exact source

end Sources

/-- **A schema in the options is one in the settings.** A session that is told a schema in the
options of its editor loads it from the path as it is written, whatever the settings are and also if
they cannot be read. One that is told none loads the schema of its launch, or else the one of the
settings, whose path is taken from the workspace. So, wherever the settings name the same path, both
load the same exactly if the launch names that path too, or if it names none and the path is
absolute or there is no workspace. -/
theorem schema_option_is_setting_iff (launch : LaunchOptions) {address : Json}
    {workspace : Option FilePath} (told : Message.workspaceAt? address = some workspace)
    {others : Json} (unnamed : Message.schemaOption? others = none) (path : FilePath) :
    let asked := Session.started launch (greetingParams address (schemaOptions path))
    let configured := Session.started launch (greetingParams address others)
    let SettingsName := Settings.NameSchema launch.settingsFile workspace path
    (∀ files environment,
      (asked files environment).source = (SchemaOutcome.of files (some path)).source 0) ∧
    (∀ files environment, SettingsName files environment →
      (configured files environment).source = (SchemaOutcome.of files
        (launch.schema.or (some (path.takenFrom workspace)))).source 0) ∧
    ((∀ files environment, SettingsName files environment →
        (asked files environment).source = (configured files environment).source) ↔
      launch.schema = some path ∨
        launch.schema = none ∧ (workspace = none ∨ path.isAbsolute = true)) := by
  intro asked configured SettingsName
  have option := source_of_option launch told path
  have setting (files : FileSystem) (environment : Settings.Environment)
      (names : SettingsName files environment) :=
    source_of_setting launch told unnamed names
  refine ⟨option, setting, ?_, ?_⟩
  · intro same
    have sources (files : FileSystem) (environment : Settings.Environment)
        (names : SettingsName files environment) :=
      (option files environment).symm.trans
        ((same files environment names).trans (setting files environment names))
    cases launched : launch.schema with
    | none =>
      simp only [launched, Option.none_or] at sources
      exact .inr ⟨rfl, (takenFrom_eq_self_iff told path).mp (eq_of_same_sources sources).symm⟩
    | some other =>
      simp only [launched, Option.some_or] at sources
      exact .inl (congrArg some (eq_of_same_sources sources).symm)
  · intro agrees files environment names
    rw [option, setting files environment names]
    rcases agrees with launched | ⟨launched, taken⟩
    · rw [launched, Option.some_or]
    · rw [launched, Option.none_or, (takenFrom_eq_self_iff told path).mpr taken]

/-! ## A workspace with a schema -/

private def workAddress : Json := .ofText "file:///work"

private theorem work_told : Message.workspaceAt? workAddress = some (some ⟨"/work"⟩) := by
  decide +kernel

/-- In a workspace, an absolute path is the same in the options and in the settings, but a relative
one is not. -/
theorem absolute_schema_option_is_setting :
    Message.workspaceAt? workAddress = some (some ⟨"/work"⟩) ∧ Message.schemaOption? .null = none ∧
      (∀ files environment,
        Settings.NameSchema none (some ⟨"/work"⟩) ⟨"/schema.json"⟩ files environment →
        (Session.started ⟨none, none⟩ (greetingParams workAddress (schemaOptions ⟨"/schema.json"⟩))
            files environment).source =
          (Session.started ⟨none, none⟩ (greetingParams workAddress .null)
            files environment).source) ∧
      ¬ ∀ files environment,
        Settings.NameSchema none (some ⟨"/work"⟩) ⟨"schema.json"⟩ files environment →
        (Session.started ⟨none, none⟩ (greetingParams workAddress (schemaOptions ⟨"schema.json"⟩))
            files environment).source =
          (Session.started ⟨none, none⟩ (greetingParams workAddress .null)
            files environment).source := by
  have unnamed : Message.schemaOption? .null = none := rfl
  have absolute := schema_option_is_setting_iff ⟨none, none⟩ work_told unnamed ⟨"/schema.json"⟩
  have relative := schema_option_is_setting_iff ⟨none, none⟩ work_told unnamed ⟨"schema.json"⟩
  refine ⟨work_told, unnamed, absolute.2.2.mpr (.inr ⟨rfl, .inr (by decide)⟩), ?_⟩
  intro same
  rcases relative.2.2.mp same with launched | ⟨-, missing | absolute⟩
  · cases launched
  · cases missing
  · exact absurd absolute (by decide)

/-- A workspace with a schema beside the settings that name it. -/
private def workFiles : FileSystem := fun path =>
  if path = ⟨"/work/.graphql-docs.toml"⟩ then
    .ok (.file (Settings.naming ⟨"schema.json"⟩).toUTF8)
  else if path = ⟨"/work/schema.json"⟩ then .ok (.file emptyText.toUTF8)
  else .error .notFound

/-- The schema that the settings name is not found if the options name it. -/
theorem option_is_not_taken_from_workspace :
    Settings.NameSchema none (some ⟨"/work"⟩) ⟨"schema.json"⟩ workFiles ⟨none, none⟩ ∧
      (Session.started ⟨none, none⟩ (greetingParams workAddress .null)
        workFiles ⟨none, none⟩).source = ⟨.loaded ⟨0, none, none, none, none, .ofList []⟩, none⟩ ∧
      (Session.started ⟨none, none⟩ (greetingParams workAddress (schemaOptions ⟨"schema.json"⟩))
        workFiles ⟨none, none⟩).source = ⟨.absent, some ⟨0, ["failed to read schema file " ++
          "schema.json: No such file or directory (os error 2)"]⟩⟩ := by
  have candidates : Settings.candidates none (some ⟨"/work"⟩) ⟨none, none⟩ =
      [⟨"/work/.graphql-docs.toml"⟩] := rfl
  have settings : Settings.load workFiles none (some ⟨"/work"⟩) ⟨none, none⟩ =
      .ok { Settings.standard with schema := some ⟨"schema.json"⟩ } :=
    Settings.load_of_first (by simp) candidates (if_pos rfl) (Settings.parse_naming _)
  have path : Settings.schemaPath { Settings.standard with schema := some ⟨"schema.json"⟩ }
      (some ⟨"/work"⟩) = some ⟨"/work/schema.json"⟩ := rfl
  have held : workFiles ⟨"/work/schema.json"⟩ = .ok (.file emptyText.toUTF8) := rfl
  have missing : workFiles ⟨"schema.json"⟩ = .error .notFound := rfl
  have named : Message.schemaOption? (schemaOptions ⟨"schema.json"⟩) = some ⟨"schema.json"⟩ := rfl
  refine ⟨⟨_, settings, rfl⟩, ?_, ?_⟩
  · rw [source_of_started _ (read_greeting work_told .null), settings, Session.settingsAfter, path]
    exact congrArg (·.source 0) (outcome_of_text held emptyText_describes)
  · rw [source_of_started _ (read_greeting work_told _), named, Option.some_or, Option.some_or]
    simp only [SchemaOutcome.of, readSchema, FileSystem.readText, missing]
    rfl

end SchemaGuide
