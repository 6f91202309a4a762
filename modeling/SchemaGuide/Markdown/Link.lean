import SchemaGuide.Markdown.Entity
import SchemaGuide.Markdown.Source
import SchemaGuide.Text.CaseFold

/-! The parts of links: destinations, titles and labels, the definitions that labels refer
to, and addresses between angle brackets. Each reader takes a part from the front of a
source and returns what follows it. -/
namespace SchemaGuide.Markdown

/-- Where a link leads. -/
structure Target where
  destination : List Char
  title : List Char

/-- Link targets by label, the first definition of a label first. -/
abbrev Definitions := List (List Char × Target)

/-- The rest of a destination between angle brackets, as written. -/
def pointedDestination? : Source → Option (List Char × Source)
  | [] => none
  | .gap _ :: _ => none
  | .char '\\' :: .char c :: rest =>
    (pointedDestination? rest).map fun read => ('\\' :: c :: read.1, read.2)
  | .char c :: rest =>
    if c = '<' then none
    else if c = '>' then some ([], rest)
    else (pointedDestination? rest).map fun read => (c :: read.1, read.2)

/-- The rest of a destination without brackets, as written: up to a blank or to a
parenthesis that it does not open. Parentheses may nest as deep as `limit` says. -/
def plainDestination? (limit : Nat) : Nat → Source → Option (List Char × Source)
  | depth, [] => if depth = 0 then some ([], []) else none
  | depth, .gap between :: rest => if depth = 0 then some ([], .gap between :: rest) else none
  | depth, .char '\\' :: .char c :: rest =>
    if Text.isAsciiPunctuation c then
      (plainDestination? limit depth rest).map fun read => ('\\' :: c :: read.1, read.2)
    else (plainDestination? limit depth (.char c :: rest)).map fun read => ('\\' :: read.1, read.2)
  | depth, .char c :: rest =>
    if c.toNat ≤ 0x20 || (c = ')' && depth = 0) then
      if depth = 0 then some ([], .char c :: rest) else none
    else if c = '(' then
      if limit < depth then none
      else (plainDestination? limit (depth + 1) rest).map fun read => (c :: read.1, read.2)
    else
      (plainDestination? limit (if c = ')' then depth - 1 else depth) rest).map fun read =>
        (c :: read.1, read.2)

/-- A destination as written. -/
def destination? (limit : Nat) : Source → Option (List Char × Source)
  | .char '<' :: rest => pointedDestination? rest
  | source => plainDestination? limit 0 source

/-- The rest of a title up to its closing mark, within as many steps. A title in
parentheses may not open another one. -/
def titleWithin (opening closing : Char) : Nat → Source → Option (List Char × Source)
  | 0, _ => none
  | _, [] => none
  | steps + 1, .gap _ :: rest =>
    (titleWithin opening closing steps rest).map fun read => ('\n' :: read.1, read.2)
  | steps + 1, .char c :: rest =>
    if c = closing then some ([], rest)
    else if c = opening then none
    else match c, rest with
      | '\\', .char escaped :: after =>
        if Text.isAsciiPunctuation escaped then
          (titleWithin opening closing steps after).map fun read => (escaped :: read.1, read.2)
        else (titleWithin opening closing steps rest).map fun read => (c :: read.1, read.2)
      | '&', rest =>
        match reference? (Source.line rest) with
        | some (value, after) =>
          let taken := (Source.line rest).length - after.length
          (titleWithin opening closing steps (rest.drop taken)).map fun read =>
            (value ++ read.1, read.2)
        | none => (titleWithin opening closing steps rest).map fun read => (c :: read.1, read.2)
      | _, _ => (titleWithin opening closing steps rest).map fun read => (c :: read.1, read.2)

/-- A title, with its references and escapes read. -/
def title? : Source → Option (List Char × Source)
  | .char c :: rest =>
    if c = '\x22' || c = '\x27' then titleWithin c c (rest.length + 1) rest
    else if c = '(' then titleWithin '(' ')' (rest.length + 1) rest
    else none
  | _ => none

/-- The cells of a label after its opening bracket, and what follows its closing one. A
label of a thousand characters or more is none. -/
def labelCells? : Nat → Source → Option (Source × Source)
  | 0, _ => none
  | _, [] => none
  | room + 1, .gap between :: rest =>
    if between.interrupts then none
    else (labelCells? room rest).map fun read => (.gap between :: read.1, read.2)
  | room + 1, .char '\\' :: cell :: rest =>
    (labelCells? (room - 1) rest).map fun read => (.char '\\' :: cell :: read.1, read.2)
  | room + 1, .char c :: rest =>
    if c = '[' then none
    else if c = ']' then some ([], rest)
    else (labelCells? room rest).map fun read => (.char c :: read.1, read.2)

/-- The words of a label: what stands between its blanks and gaps. -/
def labelWords (cells : Source) : List (List Char) :=
  (cells.splitBy fun a b => a.isSpace == b.isSpace).filterMap fun run =>
    if run.any (·.isSpace) then none else some (run.filterMap (·.char?))

/-- The form in which labels are compared: words set apart by one space, without regard
to case. `none` for a label without words. -/
def labelKey? (cells : Source) : Option (List Char) :=
  match labelWords cells with
  | [] => none
  | words => some (Text.caseFold ([' '].intercalate words))

/-- The key of the label that follows an opening bracket, and what follows the label. -/
def label? (source : Source) : Option (List Char × Source) := do
  let (cells, rest) ← labelCells? 1000 source
  some (← labelKey? cells, rest)

/-- The parentheses that a destination in a text may nest. -/
def inlineNesting : Nat := 5

/-- The parentheses that a destination in a definition may nest. -/
def definitionNesting : Nat := 1

/-- The target in parentheses after a link text. -/
def inlineTarget? (source : Source) : Option (Target × Source) := do
  let rest := (← source.strip? ['(']).skipSeparator
  let (destination, rest) ← destination? inlineNesting rest
  let rest := rest.skipSeparator
  let (title, rest) := match title? rest with
    | some (title, rest) => (title, rest.skipSeparator)
    | none => ([], rest)
  some (⟨unescape destination, title⟩, ← rest.strip? [')'])

/-! ## Addresses between angle brackets -/

/-- The characters of a scheme after its first letter. -/
def isSchemeChar (c : Char) : Bool :=
  c.isAlphanum || c = '.' || c = '-' || c = '+'

/-- An absolute address after its opening bracket: a scheme of 2 to 32 characters, a colon,
and neither blanks nor brackets up to the closing one. -/
def absoluteAddress? (source : Source) : Option (List Char × Source) := do
  let chars := source.line
  let first ← chars.head?
  if !first.isAlpha then none
  else
    let scheme := chars.takeWhile isSchemeChar
    if scheme.length < 2 || 32 < scheme.length then none
    else match chars.drop scheme.length with
      | ':' :: rest =>
        let path := rest.takeWhile fun c => c.toNat > 0x20 && c ≠ '<' && c ≠ '>'
        match rest.drop path.length with
        | '>' :: _ =>
          let address := scheme ++ ':' :: path
          some (address, source.drop (address.length + 1))
        | _ => none
      | _ => none

/-- The characters before the sign of a mail address. -/
def isMailboxChar (c : Char) : Bool :=
  c.isAlphanum || ['.', '!', '#', '$', '%', '&', '\x27', '*', '+', '/', '=', '?', '^', '_', '\x60',
    '{', '|', '}', '~', '-'].contains c

/-- Whether the characters can be one part of a host name. -/
def isHostLabel (chars : List Char) : Bool :=
  !chars.isEmpty && chars.length ≤ 63 && chars.head? ≠ some '-' && chars.getLast? ≠ some '-'

/-- A mail address after its opening bracket. -/
def mailAddress? (source : Source) : Option (List Char × Source) :=
  let chars := source.line
  let mailbox := chars.takeWhile isMailboxChar
  match mailbox, chars.drop mailbox.length with
  | [], _ => none
  | _, '@' :: rest =>
    let host := rest.takeWhile fun c => c.isAlphanum || c = '-' || c = '.'
    match rest.drop host.length with
    | '>' :: _ =>
      if (host.splitOn '.').all isHostLabel then
        let address := mailbox ++ '@' :: host
        some (address, source.drop (address.length + 1))
      else none
    | _ => none
  | _, _ => none

end SchemaGuide.Markdown
