import SchemaGuide.Files.Path
import SchemaGuide.Uri.Percent

/-! Addresses of documents and directories. An address is read into its parts, each in a
normal form, so that two spellings of one address are one document. The parts and their normal
forms are those of `url` 2, which reads an address by the URL standard without a base. Names of
hosts are taken in ASCII only, and a host that is a number stays as it is written. -/
namespace SchemaGuide

namespace Uri

/-- What stands between the scheme and the path of an address. -/
structure Authority where
  /-- The name of a user with the sign behind it, or nothing. -/
  user : String
  host : String
  /-- The number behind the host, unless it is the one that the scheme stands for. -/
  number : Option Nat
deriving DecidableEq, Repr

/-- The path of an address. -/
inductive Path where
  /-- Segments with a slash before each. -/
  | segments (names : List String)
  /-- A text that is divided into nothing. -/
  | undivided (text : String)
deriving DecidableEq, Repr

end Uri

/-- The address of a document or of a directory. -/
structure Uri where
  scheme : String
  authority : Option Uri.Authority
  path : Uri.Path
  query : Option String
  fragment : Option String
deriving DecidableEq, Repr

namespace Uri

/-- An authority as it is written. -/
def Authority.text (authority : Authority) : String :=
  authority.user ++ authority.host ++
    match authority.number with
    | some number => ":" ++ toString number
    | none => ""

/-- A path as it is written. -/
def Path.text : Path → String
  | .segments names => String.join (names.map ("/" ++ ·))
  | .undivided text => text

/-- A part that may be missing, with the sign before it. -/
def partText (sign : String) : Option String → String
  | some text => sign ++ text
  | none => ""

/-- An address as it is written. -/
def text (uri : Uri) : String :=
  uri.scheme ++ ":" ++ partText "//" (uri.authority.map (·.text)) ++ uri.path.text ++
    partText "?" uri.query ++ partText "#" uri.fragment

/-- Whether the address names a host other than this one. -/
def isRemote (uri : Uri) : Bool :=
  match uri.authority with
  | some authority => authority.host != "" && authority.host != "localhost"
  | none => false

/-- The bytes of a path with a slash at its end if nothing but the letter of a drive is
there. -/
def closeDrive (bytes : List UInt8) : List UInt8 :=
  match bytes.reverse with
  | sign :: letter :: _ :: _ =>
    if (sign = 0x3A || sign = 0x7C) && (Char.ofNat letter.toNat).isAlpha then bytes ++ [0x2F]
    else bytes
  | _ => bytes

/-- The path of the file at an address. Only one on this host with a divided path has one. -/
def filePath? (uri : Uri) : Option FilePath :=
  match uri.path with
  | .segments (name :: names) =>
    if uri.isRemote then none
    else some ⟨textOfBytes (closeDrive
      ((name :: names).flatMap fun name => 0x2F :: decode name.toList))⟩
  | .segments [] | .undivided _ => none

end Uri
end SchemaGuide
