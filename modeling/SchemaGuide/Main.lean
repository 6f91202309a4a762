import SchemaGuide.Session.Envelope

/-! The command line: a session with an editor over standard input and output. -/
namespace SchemaGuide.Main

/-- Why the system refuses to read a file. -/
def readErrorOf (error : IO.Error) : ReadError :=
  match error with
  | .noFileOrDirectory .. => .notFound
  | .inappropriateType _ code _ => if code = 21 then .isADirectory else .notADirectory
  | other => .other (toString other)

/-- What stands at a path now. -/
def look (path : FilePath) : IO (Except ReadError FileNode) := do
  try
    return .ok (.file (← IO.FS.readBinFile path.text))
  catch error =>
    match error, readErrorOf error with
    | .permissionDenied .., reason => return .ok (.locked reason)
    | _, .isADirectory => return .ok .directory
    | _, reason => return .error reason

/-- The files at these paths, as they are now. -/
def snapshot (paths : List FilePath) : IO FileSystem := do
  let seen ← paths.mapM fun path => return (path, ← look path)
  return fun path => ((seen.find? (·.1 == path)).map (·.2)).getD (.error .notFound)

/-- The directories of the user. -/
def environment : IO Settings.Environment := do
  return ⟨(← IO.getEnv "HOME").map FilePath.mk, (← IO.getEnv "XDG_CONFIG_HOME").map FilePath.mk⟩

/-- The files that a session reads if it loads now. -/
def filesFor (session : Session) (environment : Settings.Environment) : IO FileSystem := do
  let candidates := Settings.candidates session.settingsFile session.workspace environment
  let settings := Session.settingsAfter (session.loadSettings (← snapshot candidates) environment)
  snapshot (candidates ++ (session.schemaPath settings).toList)

/-- Writes a value to the editor. -/
def send (output : IO.FS.Stream) (value : Json) : IO Unit := do
  output.putStr (Envelope.framed value)
  output.flush

/-- Reads header lines up to the empty one, and gives the length that they announce. Nothing
is announced at the end of the input. -/
partial def readLength (input : IO.FS.Stream) (length : Option Nat) : IO (Option Nat) := do
  let line ← input.getLine
  if line.isEmpty then return none
  else if line = "\r\n" || line = "\n" then return length
  else readLength input ((Envelope.announcedLength? line).or length)

/-- Reads that many bytes, or fewer where the input ends. -/
partial def readBytes (input : IO.FS.Stream) (bytes : ByteArray) (count : Nat) : IO ByteArray := do
  if bytes.size ≥ count then return bytes
  else
    let more ← input.read (count - bytes.size).toUSize
    if more.isEmpty then return bytes else readBytes input (bytes ++ more) count

/-- Answers messages until the editor leaves. -/
partial def serve (input output : IO.FS.Stream) (session : Session) : IO Unit := do
  let some length ← readLength input none | return
  let bytes ← readBytes input .empty length
  match (String.fromUTF8? bytes).bind Envelope.parse? with
  | none => serve input output session
  | some envelope =>
    if envelope.method = "exit" then return
    match Method.ofName? envelope.method with
    | none =>
      (Envelope.ofUnknownMethod envelope.id).forM (send output)
      serve input output session
    | some method =>
      let environment ← environment
      let files ← if method = .ready then filesFor session environment else snapshot []
      let (session, answer) := session.call files environment method envelope.params
      (Envelope.ofAnswer envelope.id answer).forM (send output)
      serve input output session

/-- How the program is called. -/
def usage : String :=
  "Usage: schema-guide [--config PATH] [--schema PATH] [--log-level FILTER]"

end SchemaGuide.Main

open SchemaGuide in
def main (arguments : List String) : IO UInt32 := do
  match LaunchOptions.ofArguments ⟨none, none⟩ arguments with
  | .error argument =>
    IO.eprintln ("unexpected argument: " ++ argument ++ "\n" ++ Main.usage)
    return 2
  | .ok options =>
    Main.serve (← IO.getStdin) (← IO.getStdout) (.start options)
    return 0
