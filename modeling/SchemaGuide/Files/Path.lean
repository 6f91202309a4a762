/-! Paths of files. A path is kept as it is written, and only joining looks inside. -/
namespace SchemaGuide

/-- The path of a file, with its segments divided by slashes. -/
structure FilePath where
  text : String
deriving DecidableEq, Repr

namespace FilePath

/-- Whether the path starts at the root and not at a working directory. -/
def isAbsolute (path : FilePath) : Bool :=
  path.text.toList.head? = some '/'

/-- A path taken from a base directory. An absolute path stands as it is, and a slash
divides the two unless the base is empty or ends with one. -/
def join (base path : FilePath) : FilePath :=
  if path.isAbsolute then path
  else if base.text.toList.getLast?.all (· = '/') then ⟨base.text ++ path.text⟩
  else ⟨base.text ++ "/" ++ path.text⟩

/-- The pieces of a text between its slashes. -/
def piecesOf : List Char → List (List Char)
  | [] => [[]]
  | c :: rest =>
    if c = '/' then [] :: piecesOf rest
    else match piecesOf rest with
      | [] => [[c]]
      | piece :: pieces => (c :: piece) :: pieces

/-- The segments of a path. An empty one stands before a leading slash, after a trailing
one, and between two that are next to each other. -/
def segments (path : FilePath) : List String :=
  (piecesOf path.text.toList).map String.ofList

end FilePath
end SchemaGuide
