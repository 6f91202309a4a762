import SchemaGuide.Markdown.Source

/-! Markup that stands in a source text: tags, comments, processing instructions,
declarations and character data. It is found here, so that it is kept as one piece; the
renderer shows it as text. -/
namespace SchemaGuide.Markdown.RawHtml

/-- The characters of an element name after its first letter. -/
def isTagChar (c : Char) : Bool :=
  c.isAlphanum || c = '-'

/-- What follows a name with a first character of one kind and others of another. -/
def name? (first other : Char → Bool) : Source → Option Source
  | .char c :: rest => if first c then some (rest.dropWhile (·.isIn other)) else none
  | _ => none

/-- What follows the name of an attribute. -/
def attributeName? : Source → Option Source :=
  name? (fun c => c.isAlpha || c = '_' || c = ':')
    (fun c => c.isAlphanum || c = '_' || c = '.' || c = ':' || c = '-')

/-- The characters of an attribute value without quotation marks. -/
def isBareValueChar (c : Char) : Bool :=
  !(['\x22', '\x27', ' ', '=', '>', '<', '\x60'].contains c)

/-- What follows the value of an attribute. -/
def attributeValue? : Source → Option Source
  | .char c :: rest =>
    if c = '\x22' || c = '\x27' then
      match rest.dropWhile (!·.is c) with
      | _ :: after => some after
      | [] => none
    else if isBareValueChar c then some (rest.dropWhile (·.isIn isBareValueChar))
    else none
  | _ => none

/-- What follows an attribute: its name, and its value if an equals sign comes next. -/
def attribute? (source : Source) : Option Source := do
  let afterName ← attributeName? source
  match afterName.skipSpace.strip? ['='] with
  | some rest => attributeValue? rest.skipSpace
  | none => some afterName

/-- What follows the attributes of a tag, each after a blank, within as many steps. -/
def attributesWithin : Nat → Source → Option Source
  | 0, _ => none
  | steps + 1, source =>
    match source.skipSpace with
    | .char '/' :: rest => some (.char '/' :: rest)
    | .char '>' :: rest => some (.char '>' :: rest)
    | rest =>
      if rest.length = source.length then none
      else (attribute? rest).bind (attributesWithin steps)

/-- What follows an opening tag, after its opening bracket. -/
def openingTag? (source : Source) : Option Source := do
  let rest ← name? Char.isAlpha isTagChar source
  let rest ← attributesWithin (rest.length + 1) rest
  ((rest.strip? ['/']).getD rest).strip? ['>']

/-- What follows a closing tag, after its opening bracket. -/
def closingTag? (source : Source) : Option Source := do
  let rest ← name? Char.isAlpha isTagChar (← source.strip? ['/'])
  rest.skipBlanks.strip? ['>']

/-- What follows a tag, after its opening bracket. -/
def tag? (source : Source) : Option Source :=
  match source with
  | .char '/' :: _ => closingTag? source
  | _ => openingTag? source

/-- What follows a comment, after its opening marks. -/
def comment? (source : Source) : Option Source :=
  match source.strip? ['>'] with
  | some rest => some rest
  | none =>
    match source.strip? ['-', '>'] with
    | some rest => some rest
    | none => source.after? ['-', '-', '>']

/-- What follows character data, a comment or a declaration, after its exclamation mark. -/
def declaration? (source : Source) : Option Source :=
  match source.strip? ['-', '-'] with
  | some rest => comment? rest
  | none =>
    match source.strip? ['[', 'C', 'D', 'A', 'T', 'A', '['] with
    | some rest => rest.after? [']', ']', '>']
    | none =>
      match source with
      | .char c :: rest => if c.isAlpha then Source.after? ['>'] rest else none
      | _ => none

/-- Markup after its opening bracket: the characters of all of it, and what follows. Tags
leave out the marks of quotes and items at the front of their lines. -/
def scan? (source : Source) : Option (List Char × Source) :=
  match source with
  | .char '!' :: rest =>
    (declaration? rest).map fun after => ('<' :: (source.upTo after).flatMap (·.written), after)
  | .char '?' :: rest =>
    (Source.after? ['?', '>'] rest).map fun after =>
      ('<' :: (source.upTo after).flatMap (·.written), after)
  | _ => (tag? source).map fun after => ('<' :: (source.upTo after).flatMap (·.unmarked), after)

end SchemaGuide.Markdown.RawHtml
