import SchemaGuide.Files.System
import SchemaGuide.Text.Offset

/-! Directories in memory, and how a path leads through them. A path enters what it names
segment by segment, so each segment but the last has to name a directory, also where the
next one leads back out of it. -/
namespace SchemaGuide

/-- A file, or a directory with the files and directories in it. -/
inductive FileTree where
  | file (content : ByteArray)
  | directory (entries : List (String × FileTree))

namespace FileTree

/-- The directory with nothing in it. -/
def empty : FileTree := .directory []

/-- What a reader sees of it. -/
def node : FileTree → FileNode
  | .file content => .file content
  | .directory _ => .directory

/-- What is in it under a name. -/
def child? (name : String) : FileTree → Option FileTree
  | .file _ => none
  | .directory entries => (entries.find? (·.1 == name)).map (·.2)

/-- The tree with something in it under a name, where a file gives way to a directory. -/
def setChild (name : String) (child : FileTree) : FileTree → FileTree
  | .file _ => .directory [(name, child)]
  | .directory entries => .directory ((name, child) :: entries.filter (·.1 != name))

/-- The tree with something in it at a place. Directories on the way are made. -/
def insert (leaf : FileTree) : List String → FileTree → FileTree
  | [], _ => leaf
  | name :: rest, tree => setChild name (insert leaf rest ((tree.child? name).getD empty)) tree

/-- The bytes that a name can have at most. -/
def maxNameBytes : Nat := 255

/-- The bytes that a path can have at most. -/
def maxPathBytes : Nat := 4095

/-- Follows segments from a place in a tree. `above` are the directories around that place,
the nearest first; the root is around itself. -/
def walk (above : List FileTree) (here : FileTree) : List String → Except ReadError FileTree
  | [] => .ok here
  | segment :: rest =>
    match here with
    | .file _ => .error .notADirectory
    | .directory _ =>
      if segment = "" || segment = "." then walk above here rest
      else if segment = ".." then
        match above with
        | [] => walk [] here rest
        | parent :: higher => walk higher parent rest
      else if maxNameBytes < Text.byteLength segment.toList then .error .nameTooLong
      else match here.child? segment with
        | none => .error .notFound
        | some child => walk (here :: above) child rest

/-- What a path leads to. A relative path starts in an empty directory. -/
def lookup (tree : FileTree) (path : FilePath) : Except ReadError FileTree :=
  if path.text.toList.contains '\x00' then .error .invalidName
  else if path.text.isEmpty then .error .notFound
  else if maxPathBytes < Text.byteLength path.text.toList then .error .nameTooLong
  else if path.isAbsolute then walk [] tree path.segments
  else walk [] empty path.segments

/-- The tree as a reader sees it. -/
def toFileSystem (tree : FileTree) : FileSystem :=
  fun path => (tree.lookup path).map node

end FileTree
end SchemaGuide
