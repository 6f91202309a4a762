import SchemaGuide.Files.System
import SchemaGuide.Settings.Basic

/-! Where settings are looked for: in a file that is asked for, in the workspace, and in the
directory that a user keeps settings in. The first file that exists is read, and no file at
all means the standard settings. -/
namespace SchemaGuide.Settings

/-- What the environment tells of a user's directories. -/
structure Environment where
  home : Option FilePath
  /-- The directory of all settings, which counts only if it is absolute. -/
  configHome : Option FilePath
deriving DecidableEq

/-- The directory that a user keeps settings in. -/
def Environment.settingsDirectory? (environment : Environment) : Option FilePath :=
  environment.home.map fun home =>
    match environment.configHome with
    | some directory => if directory.isAbsolute then directory else home.join ⟨".config"⟩
    | none => home.join ⟨".config"⟩

/-- The settings of a user. -/
def Environment.userFile? (environment : Environment) : Option FilePath :=
  environment.settingsDirectory?.map fun directory =>
    (directory.join ⟨"graphql-docs"⟩).join ⟨"config.toml"⟩

/-- The name of the settings of a workspace. -/
def workspaceFile : FilePath := ⟨".graphql-docs.toml"⟩

/-- The files to try, the first one first. -/
def candidates (asked workspace : Option FilePath) (environment : Environment) : List FilePath :=
  asked.toList ++ (workspace.map (·.join workspaceFile)).toList ++ environment.userFile?.toList

/-- Why settings cannot be loaded. -/
inductive LoadError where
  /-- Nothing stands at the path that is asked for. -/
  | missing (path : FilePath)
  /-- The file cannot be read. -/
  | unreadable (path : FilePath) (reason : ReadError)
  /-- The text of the file describes no settings. -/
  | malformed (path : FilePath)
deriving DecidableEq

/-- The error in words. For a text that describes no settings, one wording stands for all in which a
reader of such texts tells what is wrong and where. -/
def LoadError.message : LoadError → String
  | .missing path => "failed to read config file " ++ path.text ++ ": config file not found"
  | .unreadable path reason =>
    "failed to read config file " ++ path.text ++ ": " ++ reason.message
  | .malformed path => "invalid config file " ++ path.text ++ ": not a table of known settings"

/-- The settings in a file. -/
def read (files : FileSystem) (path : FilePath) : Except LoadError Settings :=
  match files.readText path with
  | .error reason => .error (.unreadable path reason)
  | .ok text =>
    match parse? text with
    | some settings => .ok settings
    | none => .error (.malformed path)

/-- The settings in the first of these files that exists. -/
def readFirst (files : FileSystem) : List FilePath → Except LoadError Settings
  | [] => .ok standard
  | path :: rest => if files.isFile path then read files path else readFirst files rest

/-- The settings in force. A file that is asked for has to exist. -/
def load (files : FileSystem) (asked workspace : Option FilePath) (environment : Environment) :
    Except LoadError Settings :=
  match asked with
  | some path =>
    if files.holds path then readFirst files (candidates asked workspace environment)
    else .error (.missing path)
  | none => readFirst files (candidates asked workspace environment)

end SchemaGuide.Settings
