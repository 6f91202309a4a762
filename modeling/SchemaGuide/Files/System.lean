import SchemaGuide.Files.Path

/-! What a reader of files sees: at each path a directory, a file with its bytes or with the
reason why they cannot be had, something that is neither, or the reason why there is nothing. -/
namespace SchemaGuide

/-- Why a file cannot be read. -/
inductive ReadError where
  /-- Nothing stands at the path. -/
  | notFound
  /-- The path leads through a file. -/
  | notADirectory
  /-- A directory stands at the path. -/
  | isADirectory
  /-- The path, or one of its names, is longer than any can be. -/
  | nameTooLong
  /-- The path holds a character that no path can hold. -/
  | invalidName
  /-- The bytes of the file are not those of a text. -/
  | notText
  /-- Any other reason, in the words of the system. -/
  | other (reason : String)
deriving DecidableEq, Repr

/-- The reason in words. -/
def ReadError.message : ReadError → String
  | .notFound => "No such file or directory (os error 2)"
  | .notADirectory => "Not a directory (os error 20)"
  | .isADirectory => "Is a directory (os error 21)"
  | .nameTooLong => "File name too long (os error 36)"
  | .invalidName => "file name contained an unexpected NUL byte"
  | .notText => "stream did not contain valid UTF-8"
  | .other reason => reason

/-- What stands at a path. -/
inductive FileNode where
  | directory
  | file (content : ByteArray)
  /-- A file that its reader is kept from, and the reason. -/
  | locked (reason : ReadError)
  /-- A pipe or a device, with what reading it gives. -/
  | stream (content : Except ReadError ByteArray)

/-- The bytes that a reader gets. -/
def FileNode.bytes : FileNode → Except ReadError ByteArray
  | .directory => .error .isADirectory
  | .file content => .ok content
  | .locked reason => .error reason
  | .stream content => content

/-- The files that can be seen. -/
def FileSystem : Type := FilePath → Except ReadError FileNode

namespace FileSystem

/-- Whether anything stands at the path. -/
def holds (files : FileSystem) (path : FilePath) : Bool :=
  (files path).isOk

/-- Whether a file stands at the path. -/
def isFile (files : FileSystem) (path : FilePath) : Bool :=
  match files path with
  | .ok (.file _) | .ok (.locked _) => true
  | _ => false

/-- The text at a path. -/
def readText (files : FileSystem) (path : FilePath) : Except ReadError String :=
  match files path with
  | .error reason => .error reason
  | .ok node =>
    match node.bytes with
    | .error reason => .error reason
    | .ok content =>
      match String.fromUTF8? content with
      | some text => .ok text
      | none => .error .notText

/-- A file with the bytes of a text has that text. -/
theorem readText_of_file {files : FileSystem} {path : FilePath} {text : String}
    (held : files path = .ok (.file text.toUTF8)) : files.readText path = .ok text := by
  have valid : String.fromUTF8? text.toUTF8 = some text := dif_pos text.isValidUTF8
  rw [readText]
  simp only [held, FileNode.bytes, valid]

end FileSystem
end SchemaGuide
