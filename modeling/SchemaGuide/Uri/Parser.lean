import SchemaGuide.Uri.Basic

/-! Reading of addresses. What a slash is, which hosts there may be and where a path starts
depends on the scheme: addresses of files and of a few other schemes have always a divided
path, and a backslash divides it as well. -/
namespace SchemaGuide.Uri

/-- What the rules of a scheme are. -/
inductive SchemeKind where
  | file
  /-- A scheme whose addresses have a host, with the number that it stands for. -/
  | hosted (number : Nat)
  | other
deriving DecidableEq, Repr

/-- The rules of a scheme. -/
def SchemeKind.ofName (name : String) : SchemeKind :=
  if name = "file" then .file
  else if name = "http" || name = "ws" then .hosted 80
  else if name = "https" || name = "wss" then .hosted 443
  else if name = "ftp" then .hosted 21
  else .other

/-- Whether the character divides a path. -/
def SchemeKind.isSlash (kind : SchemeKind) (c : Char) : Bool :=
  c = '/' || c = '\\' && kind != .other

/-- The text without blanks and control characters at its ends, and without tabs and ends of
lines anywhere. -/
def clean (chars : List Char) : List Char :=
  let isEdge (c : Char) : Bool := c.toNat ≤ 0x20
  ((chars.dropWhile isEdge).reverse.dropWhile isEdge).reverse.filter
    fun c => !(['\t', '\n', '\r'].contains c)

/-- The scheme, in lower case, and what follows its colon. -/
def scheme? (chars : List Char) : Option (String × List Char) :=
  let isSchemeChar (c : Char) : Bool := c.isAlphanum || ['+', '-', '.'].contains c
  match chars.takeWhile isSchemeChar, chars.dropWhile isSchemeChar with
  | first :: more, ':' :: rest =>
    if first.isAlpha then some ((String.ofList (first :: more)).toLower, rest) else none
  | _, _ => none

/-! ## Hosts -/

/-- Whether a host cannot hold the character. -/
def isForbidden (c : Char) : Bool :=
  c.toNat ≤ 0x20 || ['#', '/', ':', '<', '>', '?', '@', '[', '\\', ']', '^', '|'].contains c

/-- Whether brackets may hold the text: digits with colons between them. -/
def isBracketed (chars : List Char) : Bool :=
  chars.contains ':' && chars.all fun c => (Text.hexDigit? c).isSome || c = ':' || c = '.'

/-- The host that is written so. The name of a host is in lower case and in ASCII; other
schemes keep a host as it is. -/
def host? (kind : SchemeKind) (chars : List Char) : Option String :=
  if chars.head? = some '[' then
    if chars.getLast? = some ']' && isBracketed (chars.tail.dropLast) then
      some (String.ofList chars).toLower
    else none
  else match kind with
    | .other => if chars.any isForbidden then none else some (String.ofList (encode [] chars))
    | .file | .hosted _ =>
      let name := (textOfBytes (decode chars)).toLower
      if name.toList.any fun c => isForbidden c || c = '%' || 0x7F ≤ c.toNat then none
      else some name

/-- The number behind a host that is written so: nothing, or a number of sixteen bits. -/
def number? (kind : SchemeKind) (chars : List Char) : Option (Option Nat) :=
  if chars.isEmpty then some none
  else if !chars.all Char.isDigit then none
  else
    let number := chars.foldl (fun n c => n * 10 + (c.toNat - '0'.toNat)) 0
    if 0xFFFF < number then none
    else some (if kind = .hosted number then none else some number)

/-- The characters that are encoded in the name of a user. -/
def userSigns : List Char :=
  [' ', '\x22', '#', '<', '>', '?', '\x60', '{', '}', '/', ';', '=', '@', '[', '\\', ']', '^', '|']

/-- The authority that is written so. A host may be missing, but then so is the number. -/
def authority? (kind : SchemeKind) (chars : List Char) : Option Authority := do
  let backwards := chars.reverse
  let place := (backwards.takeWhile (· ≠ '@')).reverse
  let user := (backwards.dropWhile (· ≠ '@')).drop 1 |>.reverse
  let inBrackets := place.head? = some '['
  let hostPart :=
    if inBrackets then place.takeWhile (· ≠ ']') ++ [']'] else place.takeWhile (· ≠ ':')
  let host ← host? kind hostPart
  let number ← match place.drop hostPart.length with
    | [] => some none
    | ':' :: digits => number? kind digits
    | _ => none
  if host.isEmpty && (kind != .other || number.isSome) then none
  else some ⟨if user.isEmpty || user = [':'] then ""
    else String.ofList (encode userSigns user) ++ "@", host, number⟩

/-! ## Paths -/

/-- The characters that are encoded in a path. -/
def pathSigns : List Char := [' ', '\x22', '#', '<', '>', '?', '\x60', '{', '}']

/-- Whether the segment stands for the directory that it is in. -/
def isHere (segment : List Char) : Bool :=
  [".", "%2e"].contains (String.ofList segment).toLower

/-- Whether the segment stands for the directory around. -/
def isUp (segment : List Char) : Bool :=
  ["..", ".%2e", "%2e.", "%2e%2e"].contains (String.ofList segment).toLower

/-- Whether the segment is the letter of a drive. -/
def isDrive : List Char → Bool
  | [letter, sign] => letter.isAlpha && (sign = ':' || sign = '|')
  | _ => false

/-- The pieces between the slashes of a path. -/
def pieces (kind : SchemeKind) : List Char → List (List Char)
  | [] => [[]]
  | c :: rest =>
    if kind.isSlash c then [] :: pieces kind rest
    else match pieces kind rest with
      | [] => [[c]]
      | piece :: more => (c :: piece) :: more

/-- The segments with one less at the end. The letter of a drive stays. -/
def shorten (kind : SchemeKind) (kept : List String) : List String :=
  match kept with
  | [only] => if kind = .file && isDrive only.toList then kept else []
  | _ => kept.tail

/-- The segments that pieces lead to. `kept` are those before them, the last one first. -/
def follow (kind : SchemeKind) (kept : List String) : List (List Char) → List String
  | [] => kept.reverse
  | piece :: rest =>
    if isUp piece || isHere piece then
      let kept := if isUp piece then shorten kind kept else kept
      if rest.isEmpty then ("" :: kept).reverse else follow kind kept rest
    else if kind = .file && kept.isEmpty && isDrive piece then
      follow kind [String.ofList (piece.take 1 ++ [':'])] rest
    else follow kind (String.ofList (encode pathSigns piece) :: kept) rest

/-- The segments without the empty ones in front of another. -/
def dropEmpty : List String → List String
  | "" :: next :: rest => dropEmpty (next :: rest)
  | names => names

/-- The segments of a path, with or without the slash before it. -/
def segments (kind : SchemeKind) (chars : List Char) : List String :=
  let names := match chars with
    | c :: rest => follow kind [] (pieces kind (if kind.isSlash c then rest else c :: rest))
    | [] => [""]
  if kind = .file then dropEmpty names else names

/-- The characters behind slashes at the front, at most so many of them. -/
def dropSlashes (kind : SchemeKind) : Nat → List Char → List Char
  | 0, chars => chars
  | _ + 1, [] => []
  | count + 1, c :: rest => if kind.isSlash c then dropSlashes kind count rest else c :: rest

/-- Whether the text starts with two slashes. -/
def hasAuthority (kind : SchemeKind) : List Char → Bool
  | first :: second :: _ => kind.isSlash first && kind.isSlash second
  | _ => false

/-- The authority and the path of the address of a file. -/
def filePlace? (chars : List Char) : Option (Authority × Path) :=
  let path (chars : List Char) : Path := .segments (segments .file chars)
  let here : Authority := ⟨"", "", none⟩
  if hasAuthority .file chars then
    let chars := dropSlashes .file 2 chars
    let hostPart := chars.takeWhile fun c => !SchemeKind.file.isSlash c
    if hostPart.isEmpty || isDrive hostPart then some (here, path chars)
    else do
      let host ← host? .file hostPart
      some (if host = "localhost" then here else ⟨"", host, none⟩,
        path (chars.drop hostPart.length))
  else some (here, path chars)

/-- The authority and the path of any other address. -/
def place? (kind : SchemeKind) (chars : List Char) : Option (Option Authority × Path) :=
  match kind with
  | .file => (filePlace? chars).map fun place => (some place.1, place.2)
  | .hosted _ => do
    let chars := dropSlashes kind chars.length chars
    let written := chars.takeWhile fun c => !kind.isSlash c
    let authority ← authority? kind written
    some (some authority, .segments (segments kind (chars.drop written.length)))
  | .other =>
    if hasAuthority kind chars then do
      let chars := dropSlashes kind 2 chars
      let written := chars.takeWhile fun c => !kind.isSlash c
      let authority ← authority? kind written
      let rest := chars.drop written.length
      some (some authority, .segments (if rest.isEmpty then [] else segments kind rest))
    else if chars.head? = some '/' then some (none, .segments (segments kind chars))
    else some (none, .undivided (String.ofList (encode [] chars)))

/-! ## Whole addresses -/

/-- The characters that are encoded in a query. -/
def querySigns (kind : SchemeKind) : List Char :=
  [' ', '\x22', '#', '<', '>'] ++ if kind = .other then [] else ['\x27']

/-- The characters that are encoded in a fragment. -/
def fragmentSigns : List Char := [' ', '\x22', '<', '>', '\x60']

/-- The text behind a sign, with some of its characters encoded, if the sign is there. -/
def behind (sign : Char) (signs : List Char) (chars : List Char) : Option String :=
  match chars.dropWhile (· ≠ sign) with
  | [] => none
  | _ :: rest => some (String.ofList (encode signs rest))

/-- The address that a text spells. -/
def parse? (text : String) : Option Uri := do
  let (scheme, rest) ← scheme? (clean text.toList)
  let kind := SchemeKind.ofName scheme
  let beforeFragment := rest.takeWhile (· ≠ '#')
  let (authority, path) ← place? kind (beforeFragment.takeWhile (· ≠ '?'))
  some {
    scheme
    authority
    path
    query := behind '?' (querySigns kind) beforeFragment
    fragment := behind '#' fragmentSigns rest }

end SchemaGuide.Uri
