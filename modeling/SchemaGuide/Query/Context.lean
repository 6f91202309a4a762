import SchemaGuide.Query.Token
import SchemaGuide.Text.Offset

/-! Where in a query a place lies: the selection sets around it and, inside an argument
list, the field that it belongs to. The tokens in front of the place are enough for that,
so the query may be as incomplete as it is while it is being typed. -/
namespace SchemaGuide.Query

/-- One level of nested selection sets. -/
inductive Step where
  /-- The selection set of an operation of that keyword. -/
  | operation (keyword : String)
  /-- A fragment on that type. -/
  | typeCondition (name : String)
  /-- The selection set of that field. -/
  | field (name : String)
deriving DecidableEq, Repr

/-- What a place asks for. -/
inductive Context where
  /-- A selection in the innermost set of the path. -/
  | selection (path : List Step)
  /-- An argument of a field in the innermost set of the path. -/
  | arguments (path : List Step) (field : String)
deriving DecidableEq, Repr

/-- An open bracket. -/
inductive Frame where
  | selection (step : Step)
  /-- Arguments of a field; without one, arguments of a directive or variables. -/
  | arguments (field : Option String)
  /-- A list, or an object in an argument value. -/
  | value
deriving DecidableEq, Repr

/-- What the tokens read so far say about the next brace. -/
structure Tracker where
  /-- The open brackets, innermost first. -/
  frames : List Frame
  /-- The keyword of the operation whose selection set comes next. -/
  operation : Option String
  /-- The type of the fragment whose selection set comes next. -/
  fragmentType : Option String
  /-- The field that was selected last. -/
  field : Option String
  /-- The type of the inline fragment whose selection set comes next. -/
  typeCondition : Option String
  /-- Whether the next name is a type. -/
  expectsType : Bool
  /-- Whether parentheses belong to a directive. -/
  inDirective : Bool
  previous : Option Token
deriving DecidableEq, Repr

namespace Tracker

/-- Before the first token. -/
def initial : Tracker := ⟨[], none, none, none, none, false, false, none⟩

/-- Whether the innermost bracket is that of a selection set. -/
def inSelection (tracker : Tracker) : Bool :=
  match tracker.frames with
  | .selection _ :: _ => true
  | _ => false

/-- Whether the word starts an operation. -/
def isOperation (word : String) : Bool :=
  word = "query" || word = "mutation" || word = "subscription"

/-- A name outside of all brackets. -/
def definitionName (tracker : Tracker) (word : String) : Tracker :=
  if isOperation word then { tracker with operation := some word, fragmentType := none }
  else if word = "fragment" then { tracker with operation := none, fragmentType := none }
  else if word = "on" then { tracker with expectsType := true }
  else if tracker.expectsType then
    { tracker with fragmentType := some word, expectsType := false }
  else tracker

/-- A name in a selection set. -/
def selectionName (tracker : Tracker) (word : String) : Tracker :=
  if tracker.previous = some .spread then
    if word = "on" then { tracker with expectsType := true, field := none }
    else { tracker with field := none, typeCondition := none }
  else if tracker.expectsType then
    { tracker with typeCondition := some word, expectsType := false }
  else { tracker with field := some word, typeCondition := none, inDirective := false }

/-- A name. -/
def readName (tracker : Tracker) (word : String) : Tracker :=
  if tracker.previous = some (.punctuator '@') then { tracker with inDirective := true }
  else if tracker.frames.isEmpty then tracker.definitionName word
  else if tracker.inSelection then tracker.selectionName word
  else tracker

/-- The selection set that a brace outside of all brackets opens. -/
def definitionStep (tracker : Tracker) : Step :=
  match tracker.fragmentType, tracker.operation with
  | some type, _ => .typeCondition type
  | none, some keyword => .operation keyword
  | none, none => .operation "query"

/-- What a brace in a selection set opens. -/
def selectionFrame (tracker : Tracker) : Frame :=
  match tracker.typeCondition, tracker.field with
  | some type, _ => .selection (.typeCondition type)
  | none, some field => .selection (.field field)
  | none, none => .value

/-- An opening brace. -/
def openBrace (tracker : Tracker) : Tracker :=
  let opened :=
    if tracker.frames.isEmpty then
      { tracker with
        frames := [.selection tracker.definitionStep], operation := none, fragmentType := none }
    else if tracker.inSelection then
      { tracker with
        frames := tracker.selectionFrame :: tracker.frames, field := none, typeCondition := none }
    else { tracker with frames := .value :: tracker.frames }
  { opened with expectsType := false, inDirective := false }

/-- A closing brace. -/
def closeBrace (tracker : Tracker) : Tracker :=
  { tracker with
    frames := tracker.frames.tail
    field := none
    typeCondition := none
    expectsType := false
    inDirective := false }

/-- An opening parenthesis. -/
def openParenthesis (tracker : Tracker) : Tracker :=
  let owner := if tracker.inSelection && !tracker.inDirective then tracker.field else none
  { tracker with frames := .arguments owner :: tracker.frames }

/-- A punctuator. -/
def readPunctuator (tracker : Tracker) (sign : Char) : Tracker :=
  if sign = '{' then tracker.openBrace
  else if sign = '}' then tracker.closeBrace
  else if sign = '(' then tracker.openParenthesis
  else if sign = ')' then { tracker with frames := tracker.frames.tail, inDirective := false }
  else if sign = '[' then { tracker with frames := .value :: tracker.frames }
  else if sign = ']' then { tracker with frames := tracker.frames.tail }
  else tracker

/-- The tracker after one more token. -/
def step (tracker : Tracker) (token : Token) : Tracker :=
  let next := match token with
    | .name word => tracker.readName word
    | .punctuator sign => tracker.readPunctuator sign
    | .spread => tracker
  { next with previous := some token }

/-- The steps of the frames, innermost last, if all of them are selection sets. -/
def path? : List Frame → Option (List Step)
  | [] => some []
  | .selection step :: outer => (path? outer).map (· ++ [step])
  | _ :: _ => none

/-- What is asked for behind the last token. -/
def context? (tracker : Tracker) : Option Context :=
  match tracker.frames with
  | [] => none
  | .selection step :: outer => (path? outer).map fun path => .selection (path ++ [step])
  | .arguments (some field) :: outer => (path? outer).map fun path => .arguments path field
  | .arguments none :: _ => none
  | .value :: _ => none

end Tracker

/-- What is asked for behind a text. -/
def contextAfter? (chars : List Char) : Option Context :=
  ((tokens chars).foldl Tracker.step .initial).context?

/-- What is asked for at a byte of a text. -/
def contextAt? (text : String) (offset : Nat) : Option Context :=
  contextAfter? (Text.upToByte offset text.toList)

end SchemaGuide.Query
