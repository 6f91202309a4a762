import SchemaGuide.Markdown.Tree
import SchemaGuide.Text.Punctuation

/-! Emphasis. Runs of stars, underscores and tildes open and close it; which of the two a
run may do follows from the characters beside it. A closing run takes the nearest open run
that fits it, and every run between the two is text. -/
namespace SchemaGuide.Markdown

/-- A run of one mark. -/
structure MarkRun where
  mark : Char
  length : Nat
  opens : Bool
  closes : Bool

/-- Whether a run may open emphasis. `before` is the character in front of it on its line,
`next` the one behind it. -/
def mayOpen (mark : Char) (length : Nat) (before next : Option Char) : Bool :=
  match next, before with
  | none, _ => false
  | some next, none => !Text.isBlank next
  | some next, some before =>
    !Text.isBlank next &&
      ((mark = '*' && !Text.isPunctuation next) || (mark = '~' && 1 < length) ||
        (mark = '~' && before = '~' && !Text.isPunctuation next) ||
        Text.isBlank before || Text.isPunctuation before)

/-- Whether a run may close emphasis. -/
def mayClose (mark : Char) (length : Nat) (before next : Option Char) : Bool :=
  match before, next with
  | none, _ => false
  | some before, none => !Text.isBlank before
  | some before, some next =>
    !Text.isBlank before &&
      (((mark = '*' || (mark = '~' && 1 < length)) && !Text.isPunctuation before) ||
        (mark = '~' && before = '~') || Text.isBlank next || Text.isPunctuation next)

/-- A part of a line of text before emphasis is known. -/
inductive Piece where
  | inline (content : Inline)
  | run (marks : MarkRun)

/-- An open run with the content after it, last first. -/
structure OpenRun where
  run : MarkRun
  /-- The marks that are still open. -/
  left : Nat
  content : List Inline

/-- Open runs, innermost first, over the content in front of them. -/
structure EmphasisStack where
  opened : List OpenRun
  base : List Inline
  /-- The outermost runs of this number are closed to tildes. -/
  tildeFloor : Nat

/-- Marks that emphasise nothing. -/
def marksAsText (mark : Char) (count : Nat) : List Inline :=
  if count = 0 then [] else [.text (List.replicate count mark)]

namespace EmphasisStack

/-- The stack with more content at its end; the content stands last first. -/
def add (stack : EmphasisStack) (content : List Inline) : EmphasisStack :=
  match stack.opened with
  | [] => { stack with base := content ++ stack.base }
  | top :: below => { stack with opened := { top with content := content ++ top.content } :: below }

/-- The innermost run is text after all. -/
def settle (stack : EmphasisStack) : EmphasisStack :=
  match stack.opened with
  | [] => stack
  | top :: below =>
    { stack with opened := below }.add (top.content ++ marksAsText top.run.mark top.left)

/-- The innermost runs of that number are text. -/
def settleMany : Nat → EmphasisStack → EmphasisStack
  | 0, stack => stack
  | count + 1, stack => settleMany count stack.settle

/-- Whether a closing run fits an open one: tildes need the same number, and where one of
two runs can both open and close, the sum of the numbers is no multiple of three unless
both are. -/
def fits (closing : MarkRun) (candidate : OpenRun) : Bool :=
  let opening := candidate.run
  opening.mark == closing.mark &&
    (closing.mark != '~' || closing.length == opening.length) &&
    ((!(closing.opens && closing.closes) && !(opening.opens && opening.closes)) ||
      (closing.length + opening.length) % 3 != 0 || closing.length % 3 == 0)

/-- How many open runs lie inside the nearest one that fits. -/
def nearest? (closing : MarkRun) (stack : EmphasisStack) : Option Nat :=
  let floor := if closing.mark = '~' then stack.tildeFloor else 0
  (stack.opened.take (stack.opened.length - floor)).findIdx? (fits closing)

/-- Content between a number of marks on each side: pairs of marks are inside. -/
def wrap (mark : Char) (content : List Inline) : Nat → List Inline
  | 0 => content
  | 1 => [if mark = '~' then .strikethrough content else .emphasis content]
  | count + 2 =>
    wrap mark [if mark = '~' then .strikethrough content else .strong content] count

/-- Closes as many of `count` marks as the innermost run has open. Returns the marks that
are left over. -/
def closeInnermost (count : Nat) (stack : EmphasisStack) : Nat × EmphasisStack :=
  match stack.opened with
  | [] => (count, stack)
  | top :: below =>
    let matched := min count top.left
    let wrapped := (wrap top.run.mark top.content.reverse matched).reverse
    if matched < top.left then
      (count - matched,
        { stack with
          opened := { top with left := top.left - matched, content := wrapped } :: below })
    else (count - matched, { stack with opened := below }.add wrapped)

/-- Closes emphasis with the marks of a run that are left, within as many steps. -/
def close (run : MarkRun) : Nat → Nat → EmphasisStack → Nat × EmphasisStack
  | 0, left, stack => (left, stack)
  | _, 0, stack => (0, stack)
  | steps + 1, left, stack =>
    match stack.nearest? run with
    | none =>
      (left, if run.mark = '~' then { stack with tildeFloor := stack.opened.length } else stack)
    | some inside =>
      let stack := stack.settleMany inside
      let stack := { stack with tildeFloor := min stack.tildeFloor (stack.opened.length - 1) }
      let (left, stack) := stack.closeInnermost left
      close run steps left stack

/-- The stack after one more piece. -/
def take (stack : EmphasisStack) : Piece → EmphasisStack
  | .inline content => stack.add [content]
  | .run run =>
    let (left, stack) :=
      if run.closes then close run run.length run.length stack else (run.length, stack)
    if left = 0 then stack
    else if run.opens then { stack with opened := ⟨run, left, []⟩ :: stack.opened }
    else stack.add (marksAsText run.mark left)

/-- The content when nothing more comes: every run that is open is text. -/
def finish (stack : EmphasisStack) : List Inline :=
  (stack.settleMany stack.opened.length).base.reverse

end EmphasisStack

/-- The content that the pieces of a text make. -/
def emphasise (pieces : List Piece) : List Inline :=
  (pieces.foldl EmphasisStack.take ⟨[], [], 0⟩).finish

end SchemaGuide.Markdown
