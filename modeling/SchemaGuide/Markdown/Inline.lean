import SchemaGuide.Markdown.Emphasis
import SchemaGuide.Markdown.Link
import SchemaGuide.Markdown.RawHtml

/-! Inline content of a source text. One pass from left to right finds code, markup,
addresses and links, which bind tighter than emphasis; what it leaves between them are
texts and runs of marks, from which emphasis is made per link text and for the whole. The order
of the passes and their limits are those of `pulldown-cmark` 0.13. -/
namespace SchemaGuide.Markdown

/-- An opening bracket that no closing one has met yet. -/
structure Bracket where
  isImage : Bool
  /-- Whether it may still become a link: a link holds no other link. -/
  enabled : Bool
  /-- The source behind the bracket. -/
  inside : Source
  /-- The pieces in front of the bracket, last first. -/
  earlier : List Piece

/-- The characters of an opening bracket that opens nothing. -/
def Bracket.text (bracket : Bracket) : List Char :=
  if bracket.isImage then ['!', '['] else ['[']

/-- The state of the pass. -/
structure Scan where
  rest : Source
  /-- The character that was read last, if it stands on the same line. -/
  before : Option Char
  /-- The pieces since the innermost open bracket, last first. -/
  pieces : List Piece
  /-- The open brackets, innermost first. -/
  brackets : List Bracket
  /-- The length of the source behind a label that is known to have no definition. -/
  undefinedLabel : Option Nat

namespace Scan

/-- The state with more content. -/
def add (scan : Scan) (content : Inline) : Scan :=
  { scan with pieces := .inline content :: scan.pieces }

/-- The state with more text. -/
def addText (scan : Scan) (chars : List Char) : Scan :=
  if chars.isEmpty then scan else scan.add (.text chars)

/-- The state with everything read up to `rest`. -/
def goTo (scan : Scan) (rest : Source) : Scan :=
  { scan with rest, before := (scan.rest.upTo rest).getLast?.bind (·.char?) }

/-- A backslash: in front of a line ending it breaks the line, in front of punctuation it
takes away any meaning of it. -/
def readBackslash (scan : Scan) : Source → Scan
  | .gap _ :: rest => (scan.add .hardBreak).goTo rest
  | .char c :: rest =>
    if Text.isAsciiPunctuation c then (scan.addText [c]).goTo rest
    else (scan.addText ['\\']).goTo (.char c :: rest)
  | [] => (scan.addText ['\\']).goTo []

/-- The content of a code span of `ticks` backticks up to a run of the same length; `run`
backticks were read already. -/
def codeSpan? (ticks : Nat) : Nat → Source → Option (Source × Source)
  | run, [] => if run = ticks then some ([], []) else none
  | run, cell :: rest =>
    if cell.is '\x60' then codeSpan? ticks (run + 1) rest
    else if run = ticks then some ([], cell :: rest)
    else (codeSpan? ticks 0 rest).map fun read =>
      (List.replicate run (.char '\x60') ++ cell :: read.1, read.2)

/-- The text of a code span: a line ending is a space, and one space is dropped on either
side if both are there and there is more than spaces. -/
def codeText (content : Source) : List Char :=
  let chars := content.flatMap fun
    | .char c => [c]
    | .gap between => ' ' :: between.indent
  if chars.head? = some ' ' && chars.getLast? = some ' ' && chars.any (· != ' ') then
    (chars.drop 1).dropLast
  else chars

/-- A run of backticks. -/
def readBackticks (scan : Scan) : Scan :=
  let ticks := (scan.rest.takeWhile (·.is '\x60')).length
  let rest := scan.rest.drop ticks
  match codeSpan? ticks 0 rest with
  | some (content, after) => (scan.add (.code (codeText content))).goTo after
  | none => (scan.addText (List.replicate ticks '\x60')).goTo rest

/-- A run of marks that may stand for emphasis. -/
def readMarks (scan : Scan) (mark : Char) : Scan :=
  let length := (scan.rest.takeWhile (·.is mark)).length
  let rest := scan.rest.drop length
  let next := rest.head?.map fun cell => cell.char?.getD '\n'
  let opens := mayOpen mark length scan.before next
  let closes := mayClose mark length scan.before next
  if (opens || closes) && (mark != '~' || length ≤ 2) then
    let pieces := .run ⟨mark, length, opens, closes⟩ :: scan.pieces
    { scan.goTo rest with pieces }
  else (scan.addText (List.replicate length mark)).goTo rest

/-- An opening angle bracket: an address, markup, or itself. -/
def readAngle (scan : Scan) (rest : Source) : Scan :=
  match absoluteAddress? rest with
  | some (address, after) => (scan.add (.link address [] [.text address])).goTo after
  | none =>
    match mailAddress? rest with
    | some (address, after) =>
      (scan.add (.link ("mailto:".toList ++ address) [] [.text address])).goTo after
    | none =>
      match RawHtml.scan? rest with
      | some (markup, after) => (scan.add (.markup markup)).goTo after
      | none => (scan.addText ['<']).goTo rest

/-- An ampersand: a character reference, or itself. -/
def readAmpersand (scan : Scan) (rest : Source) : Scan :=
  match reference? rest.line with
  | some (value, after) => (scan.addText value).goTo (rest.drop (rest.line.length - after.length))
  | none => (scan.addText ['&']).goTo rest

/-- An opening bracket. -/
def openBracket (scan : Scan) (isImage : Bool) (rest : Source) : Scan :=
  { scan.goTo rest with
    pieces := []
    brackets := ⟨isImage, true, rest, scan.pieces⟩ :: scan.brackets }

/-- The innermost bracket is text. -/
def dropBracket (scan : Scan) : Scan :=
  match scan.brackets with
  | [] => scan
  | bracket :: outer =>
    { scan with
      pieces := scan.pieces ++ .inline (.text bracket.text) :: bracket.earlier
      brackets := outer }

/-- The innermost bracket becomes a link or an image, and the source goes on at `rest`. -/
def closeBracket (scan : Scan) (target : Target) (rest : Source) : Scan :=
  match scan.brackets with
  | [] => scan
  | bracket :: outer =>
    let content := emphasise scan.pieces.reverse
    let link := if bracket.isImage then Inline.image target.destination target.title content
      else .link target.destination target.title content
    { scan.goTo rest with
      pieces := .inline link :: bracket.earlier
      brackets := if bracket.isImage then outer
        else outer.map fun other => { other with enabled := other.enabled && other.isImage } }

/-- The innermost bracket and the closing one, behind which comes `rest`, are text. -/
def abandonBracket (scan : Scan) (rest : Source) : Scan :=
  (scan.dropBracket.addText [']']).goTo rest

/-- The target of a bracket by reference: a label may follow, be empty, or be left out, in
which case the bracket's own text is the label. -/
def reference (definitions : Definitions) (scan : Scan) (bracket : Bracket) (rest : Source) :
    Scan :=
  let ownLabel (after : Source) : Scan :=
    if scan.undefinedLabel = some rest.length then scan.abandonBracket rest
    else match label? (bracket.inside.upTo rest) with
      | some (key, []) =>
        match definitions.lookup key with
        | some target => scan.closeBracket target after
        | none => scan.abandonBracket rest
      | _ => scan.abandonBracket rest
  match rest with
  | .char '[' :: .char ']' :: after => ownLabel after
  | .char '[' :: behind =>
    match label? behind with
    | some (key, after) =>
      match definitions.lookup key with
      | some target => scan.closeBracket target after
      | none => { scan.abandonBracket rest with undefinedLabel := some after.length }
    | none => ownLabel rest
  | _ => ownLabel rest

/-- A closing bracket, behind which comes `rest`. -/
def readClosing (definitions : Definitions) (scan : Scan) (rest : Source) : Scan :=
  match scan.brackets with
  | [] => (scan.addText [']']).goTo rest
  | bracket :: _ =>
    if !bracket.enabled then scan.abandonBracket rest
    else match inlineTarget? rest with
      | some (target, after) => scan.closeBracket target after
      | none => scan.reference definitions bracket rest

/-- Characters without a meaning of their own. -/
def isPlain (c : Char) : Bool :=
  !(['\\', '\x60', '*', '_', '~', '<', '!', '[', ']', '&'].contains c)

/-- Plain text. Blanks at the end of a line are dropped; two of them break it. -/
def readText (scan : Scan) : Scan :=
  let cells := scan.rest.takeWhile (·.isIn isPlain)
  let chars := cells.filterMap (·.char?)
  let rest := scan.rest.drop cells.length
  let kept := (chars.reverse.dropWhile isLineBlank).reverse
  match rest with
  | [] => (scan.addText kept).goTo []
  | .gap _ :: after =>
    let lineBreak := if kept.length + 2 ≤ chars.length then Inline.hardBreak else .softBreak
    ((scan.addText kept).add lineBreak).goTo after
  | _ => (scan.addText chars).goTo rest

/-- The state after the next piece. -/
def step (definitions : Definitions) (scan : Scan) : Scan :=
  match scan.rest with
  | [] => scan
  | .gap _ :: rest => (scan.add .softBreak).goTo rest
  | .char c :: rest =>
    if c = '\\' then scan.readBackslash rest
    else if c = '\x60' then scan.readBackticks
    else if c = '*' || c = '_' || c = '~' then scan.readMarks c
    else if c = '<' then
      match rest with
      | .char '\\' :: _ => (scan.addText ['<']).goTo rest
      | _ => scan.readAngle rest
    else if c = '!' then
      match rest with
      | .char '[' :: after => scan.openBracket true after
      | _ => (scan.addText ['!']).goTo rest
    else if c = '[' then scan.openBracket false rest
    else if c = ']' then scan.readClosing definitions rest
    else if c = '&' then scan.readAmpersand rest
    else scan.readText

/-- The state when the source is read, within as many steps. -/
def run (definitions : Definitions) : Nat → Scan → Scan
  | 0, scan => scan
  | steps + 1, scan =>
    if scan.rest.isEmpty then scan else run definitions steps (scan.step definitions)

/-- All pieces, the brackets that are still open among them as text. -/
def finish (scan : Scan) : List Piece :=
  (scan.brackets.foldl (fun scan _ => scan.dropBracket) scan).pieces.reverse

end Scan

/-- The inline content of a source. -/
def inlines (definitions : Definitions) (source : Source) : List Inline :=
  emphasise ((Scan.run definitions source.length ⟨source, none, [], [], none⟩).finish)

end SchemaGuide.Markdown
