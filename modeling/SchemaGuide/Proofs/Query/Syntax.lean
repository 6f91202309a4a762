import SchemaGuide.Proofs.Query.Lexeme
import SchemaGuide.Query.Context

/-! The syntax of query documents, and the document that is still open at a place: complete
definitions, then the header of one more, then selection sets that are open one inside the
other, each with complete selections in front of the header that opens the next. Every part
says which lexemes it is written with, and an open document says what is asked for at its
end. Nothing here looks at brackets or keeps a state. -/
namespace SchemaGuide.Query

/-! ## Words -/

/-- The keyword of an operation. -/
inductive Keyword where
  | query
  | mutation
  | subscription
deriving DecidableEq, Repr

/-- The keyword as a name. -/
def Keyword.name : Keyword → Name
  | .query => .ofChars 'q' ['u', 'e', 'r', 'y'] rfl rfl
  | .mutation => .ofChars 'm' ['u', 't', 'a', 't', 'i', 'o', 'n'] rfl rfl
  | .subscription =>
    .ofChars 's' ['u', 'b', 's', 'c', 'r', 'i', 'p', 't', 'i', 'o', 'n'] rfl rfl

/-- The word in front of the name of a fragment. -/
def fragmentWord : Name := .ofChars 'f' ['r', 'a', 'g', 'm', 'e', 'n', 't'] rfl rfl

/-- The word in front of a type condition. -/
def onWord : Name := .ofChars 'o' ['n'] rfl rfl

/-- The name of a fragment, which is any name but the word in front of a type condition. -/
structure FragmentName where
  name : Name
  notOn : name.text ≠ onWord.text

/-! ## Values, arguments and directives -/

/-- A value. -/
inductive Value where
  /-- A variable. -/
  | parameter (gap : Gap) (name : Name)
  | number (number : Number)
  | string (pieces : List StringPiece)
  | block (content : List Char) (isContent : BlockContent content)
  /-- A truth value, null, or a value of an enum. -/
  | word (name : Name)
  | list (items : List Value)
  | object (fields : List (Name × Value))

namespace Value

mutual

/-- The lexemes of a value. -/
def lexemes : Value → List Lexeme
  | .parameter gap name => [.dollar gap name]
  | .number value => [.number value]
  | .string pieces => [.string pieces]
  | .block content isContent => [.block content isContent]
  | .word name => [.name name]
  | .list items => .sign .openBracket :: itemLexemes items ++ [.sign .closeBracket]
  | .object fields => .sign .openBrace :: fieldLexemes fields ++ [.sign .closeBrace]

/-- The lexemes of the items of a list. -/
def itemLexemes : List Value → List Lexeme
  | [] => []
  | item :: rest => item.lexemes ++ itemLexemes rest

/-- The lexemes of the fields of an object. -/
def fieldLexemes : List (Name × Value) → List Lexeme
  | [] => []
  | (name, value) :: rest =>
    .name name :: .sign .colon :: value.lexemes ++ fieldLexemes rest

end

mutual

/-- Whether there is an object in a value. -/
def hasObject : Value → Bool
  | .object _ => true
  | .list items => itemsHaveObject items
  | _ => false

/-- Whether there is an object in an item of a list. -/
def itemsHaveObject : List Value → Bool
  | [] => false
  | item :: rest => item.hasObject || itemsHaveObject rest

end

end Value

/-- An argument. -/
structure Argument where
  name : Name
  value : Value

/-- The lexemes of an argument. -/
def Argument.lexemes (argument : Argument) : List Lexeme :=
  .name argument.name :: .sign .colon :: argument.value.lexemes

/-- Arguments, written in parentheses if there are any. -/
abbrev Arguments := List Argument

namespace Arguments

/-- The lexemes of the arguments. -/
def lexemes (arguments : Arguments) : List Lexeme :=
  if arguments.isEmpty then []
  else .sign .openParenthesis :: arguments.flatMap Argument.lexemes ++ [.sign .closeParenthesis]

/-- Whether there is an object in one of the values. -/
def hasObject (arguments : Arguments) : Bool :=
  arguments.any (·.value.hasObject)

end Arguments

/-- A directive. -/
structure Directive where
  name : Name
  arguments : Arguments

/-- The lexemes of a directive. -/
def Directive.lexemes (directive : Directive) : List Lexeme :=
  .sign .atSign :: .name directive.name :: directive.arguments.lexemes

/-- Directives in a row. -/
abbrev Directives := List Directive

namespace Directives

/-- The lexemes of the directives. -/
def lexemes (directives : Directives) : List Lexeme :=
  directives.flatMap Directive.lexemes

/-- Whether there is an object in the arguments of one. -/
def hasObject (directives : Directives) : Bool :=
  directives.any (·.arguments.hasObject)

end Directives

/-! ## Selections -/

/-- A field as it is selected, without the selections inside of it. -/
structure FieldHead where
  /-- The alias. -/
  label : Option Name
  name : Name
  arguments : Arguments
  directives : Directives

/-- The lexemes of an alias and a name. -/
def aliasedLexemes (label : Option Name) (name : Name) : List Lexeme :=
  (label.elim [] fun word => [.name word, .sign .colon]) ++ [.name name]

/-- The lexemes of a field. -/
def FieldHead.lexemes (field : FieldHead) : List Lexeme :=
  aliasedLexemes field.label field.name ++ field.arguments.lexemes ++ field.directives.lexemes

/-- What stands in front of a selection set inside another one. -/
inductive Header where
  | field (field : FieldHead)
  /-- A fragment in place, which may go without a condition. -/
  | fragment (condition : Option Name) (directives : Directives)

namespace Header

/-- The lexemes of a header. -/
def lexemes : Header → List Lexeme
  | .field head => head.lexemes
  | .fragment condition directives =>
    .spread :: (condition.elim [] fun type => [.name onWord, .name type]) ++ directives.lexemes

/-- Whether there is an object in the arguments of a header or of its directives. -/
def hasObject : Header → Bool
  | .field head => head.arguments.hasObject || head.directives.hasObject
  | .fragment _ directives => directives.hasObject

/-- The step from the selection set around a header to the one behind it. A field goes by
its real name; a fragment without a condition stays where it is. -/
def step? : Header → Option Step
  | .field head => some (.field head.name.text)
  | .fragment condition _ => condition.map fun type => .typeCondition type.text

end Header

/-- A complete selection. -/
inductive Selection where
  /-- A field without selections. -/
  | leaf (field : FieldHead)
  /-- A fragment that is defined elsewhere. -/
  | spread (fragment : FragmentName) (directives : Directives)
  | nested (header : Header) (set : List Selection)

namespace Selection

mutual

/-- The lexemes of a selection. -/
def lexemes : Selection → List Lexeme
  | .leaf field => field.lexemes
  | .spread fragment directives => .spread :: .name fragment.name :: directives.lexemes
  | .nested header set =>
    header.lexemes ++ .sign .openBrace :: setLexemes set ++ [.sign .closeBrace]

/-- The lexemes of selections in a row. -/
def setLexemes : List Selection → List Lexeme
  | [] => []
  | selection :: rest => selection.lexemes ++ setLexemes rest

end

end Selection

/-! ## Definitions -/

/-- A type as a variable is declared with it. -/
inductive TypeNotation where
  | named (name : Name)
  | list (inner : TypeNotation)
  | nonNull (inner : TypeNotation)

/-- The lexemes of a type. -/
def TypeNotation.lexemes : TypeNotation → List Lexeme
  | .named name => [.name name]
  | .list inner => .sign .openBracket :: inner.lexemes ++ [.sign .closeBracket]
  | .nonNull inner => inner.lexemes ++ [.sign .bang]

/-- The declaration of a variable. -/
structure VariableDefinition where
  gap : Gap
  name : Name
  type : TypeNotation
  default : Option Value
  directives : Directives

/-- The lexemes of the declaration of a variable. -/
def VariableDefinition.lexemes (definition : VariableDefinition) : List Lexeme :=
  .dollar definition.gap definition.name :: .sign .colon :: definition.type.lexemes ++
    (definition.default.elim [] fun value => .sign .equals :: value.lexemes) ++
    definition.directives.lexemes

/-- Declarations of variables, written in parentheses if there are any. -/
abbrev VariableDefinitions := List VariableDefinition

/-- The lexemes of the declarations. -/
def VariableDefinitions.lexemes (definitions : VariableDefinitions) : List Lexeme :=
  if definitions.isEmpty then []
  else .sign .openParenthesis :: definitions.flatMap VariableDefinition.lexemes ++
    [.sign .closeParenthesis]

/-- What stands in front of the selection set of a definition. -/
inductive DefinitionHeader where
  /-- Nothing: the set belongs to a query. -/
  | shorthand
  | operation (keyword : Keyword) (name : Option Name) (parameters : VariableDefinitions)
      (directives : Directives)
  | fragment (name : FragmentName) (type : Name) (directives : Directives)

namespace DefinitionHeader

/-- The lexemes of the header of a definition. -/
def lexemes : DefinitionHeader → List Lexeme
  | .shorthand => []
  | .operation keyword name parameters directives =>
    .name keyword.name :: (name.map Lexeme.name).toList ++ parameters.lexemes ++ directives.lexemes
  | .fragment name type directives =>
    [.name fragmentWord, .name name.name, .name onWord, .name type] ++ directives.lexemes

/-- The step to the selection set of a definition. -/
def step : DefinitionHeader → Step
  | .shorthand => .operation Keyword.query.name.text
  | .operation keyword _ _ _ => .operation keyword.name.text
  | .fragment _ type _ => .typeCondition type.text

end DefinitionHeader

/-- A complete definition. -/
structure QueryDefinition where
  header : DefinitionHeader
  set : List Selection

/-- The lexemes of a definition. -/
def QueryDefinition.lexemes (definition : QueryDefinition) : List Lexeme :=
  definition.header.lexemes ++ .sign .openBrace :: Selection.setLexemes definition.set ++
    [.sign .closeBrace]

/-! ## Open documents -/

/-- One selection set that is open, up to the brace of the next. -/
structure Level where
  /-- The complete selections of the set. -/
  before : List Selection
  /-- What stands in front of the next set. -/
  header : Header

/-- The lexemes of a level with the brace behind it. -/
def Level.lexemes (level : Level) : List Lexeme :=
  Selection.setLexemes level.before ++ level.header.lexemes ++ [.sign .openBrace]

/-- An argument list that is open behind a field. -/
structure OpenArguments where
  /-- The alias. -/
  label : Option Name
  field : Name
  /-- The complete arguments. -/
  before : List Argument
  /-- The argument whose value comes next, if its name stands there. -/
  pending : Option Name

/-- The lexemes of a field with its open argument list. -/
def OpenArguments.lexemes (arguments : OpenArguments) : List Lexeme :=
  aliasedLexemes arguments.label arguments.field ++ .sign .openParenthesis ::
    arguments.before.flatMap Argument.lexemes ++
    arguments.pending.elim [] fun name => [.name name, .sign .colon]

/-- A document up to a place inside of a selection set or of the arguments of a field. -/
structure OpenDocument where
  /-- The complete definitions. -/
  before : List QueryDefinition
  header : DefinitionHeader
  /-- The open selection sets that hold another one, the outermost first. -/
  levels : List Level
  /-- The complete selections of the innermost set. -/
  last : List Selection
  /-- The argument list that is open behind them, if there is one. -/
  arguments : Option OpenArguments

namespace OpenDocument

/-- The lexemes of an open document. -/
def lexemes (document : OpenDocument) : List Lexeme :=
  document.before.flatMap QueryDefinition.lexemes ++ document.header.lexemes ++
    .sign .openBrace :: document.levels.flatMap Level.lexemes ++
    Selection.setLexemes document.last ++ document.arguments.elim [] OpenArguments.lexemes

/-- The steps to the innermost selection set. -/
def path (document : OpenDocument) : List Step :=
  document.header.step :: document.levels.filterMap (·.header.step?)

/-- What is asked for at the end of an open document whose selection sets are those of a
path. -/
def contextOn (document : OpenDocument) (path : List Step) : Context :=
  match document.arguments with
  | none => .selection path
  | some arguments => .arguments path arguments.field.text

/-- What is asked for at the end of an open document. -/
def context (document : OpenDocument) : Context := document.contextOn document.path

end OpenDocument

end SchemaGuide.Query
