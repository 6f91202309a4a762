import SchemaGuide.Settings.Location

/-! Which file the settings come from. The first file among the candidates decides, be it that
its text describes settings or that it cannot be read as any, and where none of them is a file
the standard settings are in force. A path that is asked for is to bind: nothing but what stands
there should matter. It does so exactly if a file stands there or nothing at all. Whether
anything stands there is looked at before the candidates are tried, and whether it is a file only
then, so that a directory, a pipe or a device at the path is passed over in silence. -/
namespace SchemaGuide.Settings

/-- The path that an error names. -/
def LoadError.path : LoadError → FilePath
  | .missing path | .unreadable path _ | .malformed path => path

/-- What a path can tell of the settings: those that the text there describes, or an error that
names the path. -/
inductive ToldAt (files : FileSystem) (path : FilePath) : Except LoadError Settings → Prop where
  | described {text : String} {settings : Settings} (read : files.readText path = .ok text)
      (describes : parse? text = some settings) : ToldAt files path (.ok settings)
  | refused {error : LoadError} (names : error.path = path) : ToldAt files path (.error error)

/-- A path that is asked for binds: it tells what the settings are, and no other file, no
workspace and no directory of the user has a part in it. -/
def Binds (files : FileSystem) (path : FilePath) : Prop :=
  ∃ result, ToldAt files path result ∧ ∀ others : FileSystem, others path = files path →
    ∀ workspace environment, load others (some path) workspace environment = result

variable {files others : FileSystem} {path : FilePath} {workspace : Option FilePath}
  {environment : Environment}

/-! ## One path -/

/-- A file tells the settings in it. -/
theorem toldAt_read (files : FileSystem) (path : FilePath) :
    ToldAt files path (read files path) := by
  unfold read
  split
  · exact .refused rfl
  · rename_i text found
    split
    · rename_i settings describes
      exact .described found describes
    · exact .refused rfl

/-- What stands at the path is all that matters for the settings in it. -/
theorem read_congr (same : others path = files path) : read others path = read files path := by
  simp only [read, FileSystem.readText, same]

theorem isFile_congr (same : others path = files path) :
    others.isFile path = files.isFile path := by
  simp only [FileSystem.isFile, same]

theorem holds_congr (same : others path = files path) :
    others.holds path = files.holds path := by
  simp only [FileSystem.holds, same]

/-- Where a file stands, something stands. -/
theorem holds_of_isFile (file : files.isFile path = true) : files.holds path = true := by
  unfold FileSystem.isFile at file
  split at file
  · rename_i found
    simp [FileSystem.holds, found, Except.isOk, Except.toBool]
  · rename_i found
    simp [FileSystem.holds, found, Except.isOk, Except.toBool]
  · cases file

/-! ## Candidates -/

/-- The first file decides. -/
theorem readFirst_eq (files : FileSystem) (paths : List FilePath) :
    readFirst files paths = match paths.find? files.isFile with
      | some first => read files first
      | none => .ok standard := by
  induction paths with
  | nil => rfl
  | cons path rest ih =>
    by_cases file : files.isFile path = true
    · simp [readFirst, file]
    · simp [readFirst, file, ih]

/-- A path that is asked for decides if a file stands there, and is refused if nothing does.
Otherwise it is as if nothing were asked for. -/
theorem load_of_asked (files : FileSystem) (path : FilePath) (workspace : Option FilePath)
    (environment : Environment) :
    load files (some path) workspace environment =
      if files.isFile path then read files path
      else if files.holds path then load files none workspace environment
      else .error (.missing path) := by
  by_cases file : files.isFile path = true
  · simp [load, candidates, readFirst, holds_of_isFile file, file]
  · by_cases held : files.holds path = true
    · simp [load, candidates, readFirst, held, file]
    · simp [load, held, file]

/-- A file that is tried first decides what the settings are, if it describes any. -/
theorem load_of_first {asked : Option FilePath} {place : FilePath} {more : List FilePath}
    {text : String} {settings : Settings} (only : ∀ path ∈ asked, path = place)
    (first : candidates asked workspace environment = place :: more)
    (held : files place = .ok (.file text.toUTF8)) (describes : parse? text = some settings) :
    load files asked workspace environment = .ok settings := by
  have file : files.isFile place = true := by simp only [FileSystem.isFile, held]
  have told : read files place = .ok settings := by
    simp only [read, FileSystem.readText_of_file held, describes]
  have firstRead : readFirst files (candidates asked workspace environment) = .ok settings := by
    rw [first, readFirst, if_pos file, told]
  cases asked with
  | none => exact firstRead
  | some path =>
    have here := only path rfl
    have holds : files.holds path = true := by
      rw [here]
      exact holds_of_isFile file
    rw [load, if_pos holds]
    exact firstRead

/-- The settings of a workspace stand elsewhere than the workspace itself. -/
theorem join_workspaceFile_ne (path : FilePath) : path.join workspaceFile ≠ path := by
  intro same
  have relative : workspaceFile.isAbsolute = false := by decide
  have lengths := congrArg (fun place : FilePath => place.text.length) same
  have longer : 0 < workspaceFile.text.length := by decide
  rw [FilePath.join, if_neg (by simp [relative])] at lengths
  split at lengths
  · simp only [String.length_append] at lengths
    omega
  · simp only [String.length_append] at lengths
    omega

/-- What is no file is passed over for the settings of a workspace. -/
theorem not_binds_of_other (held : files.holds path = true) (other : files.isFile path = false) :
    ¬ Binds files path := by
  intro binds
  obtain ⟨result, told, only⟩ := binds
  let others : FileSystem := fun place =>
    if place = path then files path else .ok (.locked .notFound)
  have same : others path = files path := if_pos rfl
  have apart : others (path.join workspaceFile) = .ok (.locked .notFound) :=
    if_neg (join_workspaceFile_ne path)
  have file : others.isFile (path.join workspaceFile) = true := by
    simp only [FileSystem.isFile, apart]
  have loaded : load others (some path) (some path) ⟨none, none⟩ =
      .error (.unreadable (path.join workspaceFile) .notFound) := by
    rw [load_of_asked, isFile_congr same, other, holds_congr same, held]
    simp [load, candidates, Environment.userFile?, Environment.settingsDirectory?, readFirst, file,
      read, FileSystem.readText, apart, FileNode.bytes]
  have elsewhere := only others same (some path) ⟨none, none⟩
  rw [loaded] at elsewhere
  subst elsewhere
  cases told with
  | refused names => exact join_workspaceFile_ne path names

/-- A path that is asked for binds exactly if what stands there, if anything, is a file. -/
theorem binds_iff (files : FileSystem) (path : FilePath) :
    Binds files path ↔ files.holds path = files.isFile path := by
  constructor
  · intro binds
    by_cases file : files.isFile path = true
    · rw [file, holds_of_isFile file]
    · by_cases held : files.holds path = true
      · exact absurd binds (not_binds_of_other held (Bool.eq_false_iff.mpr file))
      · rw [Bool.eq_false_iff.mpr file, Bool.eq_false_iff.mpr held]
  · intro onlyFile
    by_cases file : files.isFile path = true
    · refine ⟨read files path, toldAt_read files path, ?_⟩
      intro others same workspace environment
      rw [load_of_asked, isFile_congr same, if_pos file, read_congr same]
    · refine ⟨.error (.missing path), .refused rfl, ?_⟩
      intro others same workspace environment
      rw [load_of_asked, isFile_congr same, if_neg file, holds_congr same, onlyFile, if_neg file]

/-- The first file decides, so the standard settings are those of no file or those that the first
one describes. -/
theorem first_is_standard_iff (files : FileSystem) (paths : List FilePath) :
    (match paths.find? files.isFile with
      | some first => read files first
      | none => .ok standard) = .ok standard ↔
      paths.all (!files.isFile ·) ∨
        ∃ first, paths.find? files.isFile = some first ∧ read files first = .ok standard := by
  cases found : paths.find? files.isFile with
  | none =>
    have noFile := List.find?_eq_none.mp found
    simpa using noFile
  | some first =>
    have file := List.find?_some found
    have member := List.mem_of_find?_eq_some found
    constructor
    · intro same
      exact .inr ⟨first, rfl, same⟩
    · rintro (none | ⟨other, same, standard⟩)
      · have noFile := List.all_eq_true.mp none first member
        simp [file] at noFile
      · cases same
        exact standard

/-- **The path that is asked for, and no other.** A path that is asked for binds exactly if what
stands there, if anything, is a file; something else there is as if nothing were asked for.
Without a path that is asked for, the first file among the candidates decides, readable or not,
so the settings are the standard ones exactly if there is no file among them, or if that file
says just the same. -/
theorem asked_path_binds_iff (files : FileSystem) (path : FilePath) (workspace : Option FilePath)
    (environment : Environment) :
    (Binds files path ↔ files.holds path = files.isFile path) ∧
    load files (some path) workspace environment =
      (if files.isFile path then read files path
      else if files.holds path then load files none workspace environment
      else .error (.missing path)) ∧
    load files none workspace environment =
      (match (candidates none workspace environment).find? files.isFile with
      | some first => read files first
      | none => .ok standard) ∧
    (load files none workspace environment = .ok standard ↔
      (candidates none workspace environment).all (!files.isFile ·) ∨
      ∃ first, (candidates none workspace environment).find? files.isFile = some first ∧
        read files first = .ok standard) := by
  have implicit : load files none workspace environment =
      (match (candidates none workspace environment).find? files.isFile with
      | some first => read files first
      | none => .ok standard) := readFirst_eq files _
  refine ⟨binds_iff files path, load_of_asked files path workspace environment, implicit, ?_⟩
  rw [implicit]
  exact first_is_standard_iff files _

/-! ## A directory that is asked for -/

private def limitText : String := "search_limit = 7"

private theorem limitText_describes :
    parse? limitText = some { standard with searchLimit := 7 } := by
  decide +kernel

/-- A directory, and beside it a workspace with settings. -/
private def besideWorkspace : FileSystem := fun path =>
  if path = ⟨"/asked"⟩ then .ok .directory
  else if path = ⟨"/work/.graphql-docs.toml"⟩ then .ok (.file limitText.toUTF8)
  else .error .notFound

/-- A directory at the path that is asked for is no error: the settings of the workspace are in
force, though the path tells no settings. -/
theorem directory_asked_for_is_passed_over :
    load besideWorkspace (some ⟨"/asked"⟩) (some ⟨"/work"⟩) ⟨none, none⟩ =
        .ok { standard with searchLimit := 7 } ∧
      ¬ ToldAt besideWorkspace ⟨"/asked"⟩ (.ok { standard with searchLimit := 7 }) := by
  have directory : besideWorkspace ⟨"/asked"⟩ = .ok .directory := if_pos rfl
  have file : besideWorkspace ⟨"/work/.graphql-docs.toml"⟩ = .ok (.file limitText.toUTF8) := by
    simp [besideWorkspace]
  have told : read besideWorkspace ⟨"/work/.graphql-docs.toml"⟩ =
      .ok { standard with searchLimit := 7 } := by
    rw [read, FileSystem.readText_of_file file]
    simp only [limitText_describes]
  have place : candidates none (some ⟨"/work"⟩) ⟨none, none⟩ = [⟨"/work/.graphql-docs.toml"⟩] := by
    decide
  constructor
  · rw [load_of_asked]
    simp [FileSystem.isFile, FileSystem.holds, directory, load, place, readFirst, file, told,
      Except.isOk, Except.toBool]
  · intro told
    cases told with
    | described read describes => simp [FileSystem.readText, directory, FileNode.bytes] at read

end SchemaGuide.Settings
