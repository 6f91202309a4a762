import SchemaGuide.Proofs.Html.Writing

/-! The grammar of balanced fragments. A fragment is a sequence of nodes: characters of text,
elements that close where their content ends, elements without content, and the forms that only
hand-written markup has, such as comments. A dialect says which of all this may occur and how it
is written, from whatever balanced markup may hold to the few tags of one kind of page. Next to
its characters, a fragment has the tokens that it consists of. -/
namespace SchemaGuide.Html

/-- Blanks inside of tags. -/
def isTagBlank (c : Char) : Bool :=
  c.isWhitespace || c = '\x0c'

/-- How the value of an attribute is written. -/
inductive Quoting where
  /-- There is no value. -/
  | absent
  /-- The value stands alone. -/
  | bare
  /-- The value stands between two such marks. -/
  | quoted (mark : Char)

/-- A tag as it is named in markup. -/
def Token.tag : Token → Option String
  | .char _ => none
  | .opening tag => some (String.ofList tag.name)
  | .closing name => some ("/" ++ String.ofList name)

/-- What fragments of one kind may hold. -/
structure Dialect where
  /-- The characters of text. -/
  Text : Char → Prop
  /-- The names of elements with content. -/
  Element : List Char → Prop
  /-- The names of elements without content, which have no closing tag. -/
  Void : List Char → Prop
  /-- The attributes by name, and the values that are written in a way. -/
  Attribute : List Char → Quoting → List Char → Prop
  /-- Whether there may be comments, elements with raw text, and closing tags that hold blanks or
  differ from their opening tags in case. -/
  Loose : Prop

/-! ## Tags -/

/-- Characters of names of elements. -/
def isTagChar (c : Char) : Bool :=
  !isTagBlank c && c ≠ '/' && c ≠ '>'

/-- A name of an element. -/
def IsTagName : List Char → Prop
  | [] => False
  | first :: rest => first.isAlpha = true ∧ rest.all isTagChar = true

instance : DecidablePred IsTagName
  | [] => isFalse id
  | first :: rest => inferInstanceAs (Decidable (first.isAlpha = true ∧ rest.all isTagChar = true))

/-- A sign of equality with blanks around it. -/
def IsSign (chars : List Char) : Prop :=
  ∃ before behind, chars = before ++ '=' :: behind ∧
    before.all isTagBlank = true ∧ behind.all isTagBlank = true

/-- The characters of a value with the sign in front of it. -/
inductive WritesValue : Quoting → List Char → List Char → Prop where
  | absent : WritesValue .absent [] []
  | bare {sign value : List Char} (equals : IsSign sign) : WritesValue .bare value (sign ++ value)
  | quoted {sign value : List Char} {mark : Char} (equals : IsSign sign) :
    WritesValue (.quoted mark) value (sign ++ mark :: value ++ [mark])

namespace Dialect

/-- The characters of attributes, each with blanks in front of it. -/
inductive WritesAttributes (dialect : Dialect) :
    List (List Char × List Char) → List Char → Prop where
  | nil : WritesAttributes dialect [] []
  | cons {first : Char} {blanks name value written rest : List Char}
    {more : List (List Char × List Char)} {quoting : Quoting}
    (blank : (first :: blanks).all isTagBlank = true)
    (known : dialect.Attribute name quoting value) (writes : WritesValue quoting value written)
    (others : WritesAttributes dialect more rest) :
    WritesAttributes dialect ((name, value) :: more) (first :: blanks ++ name ++ written ++ rest)

/-- The characters of an opening tag. -/
inductive Opens (dialect : Dialect) : Opening → List Char → Prop where
  | mk {name written blanks slash : List Char} {attributes : List (List Char × List Char)}
    (named : IsTagName name) (writes : dialect.WritesAttributes attributes written)
    (blank : blanks.all isTagBlank = true) (ends : slash = [] ∨ slash = ['/']) :
    Opens dialect ⟨name, attributes⟩ ('<' :: name ++ written ++ blanks ++ slash ++ ['>'])

/-- The characters of a closing tag. -/
inductive Closes (dialect : Dialect) (name : List Char) : List Char → Prop where
  | exactly : Closes dialect name (['<', '/'] ++ name ++ ['>'])
  | loosely {other blanks : List Char} (loose : dialect.Loose)
    (same : other.map Char.toLower = name.map Char.toLower)
    (blank : blanks.all isTagBlank = true) :
    Closes dialect name (['<', '/'] ++ other ++ blanks ++ ['>'])

end Dialect

/-! ## Fragments -/

/-- The elements that hold text up to their closing tag, whatever is in it. -/
def rawNames : List (List Char) :=
  ["script", "style", "textarea", "title"].map String.toList

/-- No closing tag of that name begins in the characters. -/
def HoldsNoEnd (name chars : List Char) : Prop :=
  ∀ before other behind, chars = before ++ ['<', '/'] ++ other ++ behind →
    other.map Char.toLower ≠ name.map Char.toLower

/-- The content of a comment: it neither ends the comment nor seems to. -/
def IsCommentText (chars : List Char) : Prop :=
  (∀ stop ∈ ["-->", "--!>"], ¬ stop.toList <:+: chars) ∧
    ∀ start ∈ [">", "->"], ¬ start.toList <+: chars

/-- The characters of a fragment, with its tokens. -/
inductive Dialect.Fragment (dialect : Dialect) : List Char → List Token → Prop where
  | nil : Fragment dialect [] []
  | text {c : Char} {chars : List Char} {tokens : List Token} (known : dialect.Text c)
    (rest : Fragment dialect chars tokens) : Fragment dialect (c :: chars) (.char c :: tokens)
  | void {tag : Opening} {opening chars : List Char} {tokens : List Token}
    (known : dialect.Void tag.name) (opens : dialect.Opens tag opening)
    (rest : Fragment dialect chars tokens) :
    Fragment dialect (opening ++ chars) (.opening tag :: .closing tag.name :: tokens)
  | element {tag : Opening} {opening inside closing chars : List Char}
    {tokens more : List Token} (known : dialect.Element tag.name)
    (opens : dialect.Opens tag opening) (content : Fragment dialect inside tokens)
    (closes : dialect.Closes tag.name closing) (rest : Fragment dialect chars more) :
    Fragment dialect (opening ++ inside ++ closing ++ chars)
      (.opening tag :: tokens ++ .closing tag.name :: more)
  | comment {content chars : List Char} {tokens : List Token} (loose : dialect.Loose)
    (inside : IsCommentText content) (rest : Fragment dialect chars tokens) :
    Fragment dialect ("<!--".toList ++ content ++ "-->".toList ++ chars) tokens
  | raw {tag : Opening} {opening inside closing chars : List Char} {tokens : List Token}
    (loose : dialect.Loose) (known : tag.name.map Char.toLower ∈ rawNames)
    (opens : dialect.Opens tag opening) (content : HoldsNoEnd tag.name inside)
    (closes : dialect.Closes tag.name closing) (rest : Fragment dialect chars tokens) :
    Fragment dialect (opening ++ inside ++ closing ++ chars)
      (.opening tag :: inside.map .char ++ .closing tag.name :: tokens)

namespace Dialect

variable {dialect : Dialect}

/-- Attributes with a blank in front of each and values between quotation marks. -/
theorem WritesAttributes.quoted {attributes : List (List Char × List Char)}
    (known : ∀ pair ∈ attributes, dialect.Attribute pair.1 (.quoted '\x22') pair.2) :
    dialect.WritesAttributes attributes (attributes.flatMap fun pair =>
      ' ' :: pair.1 ++ ['=', '\x22'] ++ pair.2 ++ ['\x22']) := by
  induction attributes with
  | nil => exact .nil
  | cons pair rest ih =>
    obtain ⟨first, known⟩ := List.forall_mem_cons.mp known
    have writes : WritesValue (.quoted '\x22') pair.2 (['='] ++ '\x22' :: pair.2 ++ ['\x22']) :=
      .quoted ⟨[], [], rfl, rfl, rfl⟩
    have blank : (' ' :: []).all isTagBlank = true := by decide
    simpa using WritesAttributes.cons blank first writes (ih known)

/-- One element with its content is a fragment. -/
theorem Fragment.alone {tag : Opening} {opening inside closing : List Char} {tokens : List Token}
    (known : dialect.Element tag.name) (opens : dialect.Opens tag opening)
    (content : dialect.Fragment inside tokens) (closes : dialect.Closes tag.name closing) :
    dialect.Fragment (opening ++ inside ++ closing)
      (.opening tag :: tokens ++ [.closing tag.name]) := by
  have closed := Fragment.element known opens content closes .nil
  rwa [List.append_nil] at closed

theorem Fragment.append {chars more : List Char} {tokens found : List Token}
    (one : dialect.Fragment chars tokens) (two : dialect.Fragment more found) :
    dialect.Fragment (chars ++ more) (tokens ++ found) := by
  induction one with
  | nil => exact two
  | text known _ ih => exact .text known ih
  | void known opens _ ih =>
    rw [List.append_assoc]
    exact .void known opens ih
  | element known opens content closes _ _ ih =>
    rw [List.append_assoc, List.append_assoc (_ :: _)]
    exact .element known opens content closes ih
  | comment loose inside _ ih =>
    rw [List.append_assoc]
    exact .comment loose inside ih
  | raw loose known opens content closes _ ih =>
    rw [List.append_assoc, List.append_assoc (_ :: _)]
    exact .raw loose known opens content closes ih

theorem Fragment.of_text {chars : List Char} (known : ∀ c ∈ chars, dialect.Text c) :
    dialect.Fragment chars (chars.map .char) := by
  induction chars with
  | nil => exact .nil
  | cons c rest ih =>
    obtain ⟨first, known⟩ := List.forall_mem_cons.mp known
    exact .text first (ih known)

/-! ### Wider dialects -/

/-- The wider dialect has whatever the other one has. -/
structure Includes (wider dialect : Dialect) : Prop where
  text {c : Char} : dialect.Text c → wider.Text c
  element {name : List Char} : dialect.Element name → wider.Element name
  void {name : List Char} : dialect.Void name → wider.Void name
  attributes {name value : List Char} {quoting : Quoting} :
    dialect.Attribute name quoting value → wider.Attribute name quoting value
  loose : dialect.Loose → wider.Loose

variable {wider : Dialect}

theorem WritesAttributes.widen (includes : wider.Includes dialect)
    {attributes : List (List Char × List Char)} {written : List Char}
    (writes : dialect.WritesAttributes attributes written) :
    wider.WritesAttributes attributes written := by
  induction writes with
  | nil => exact .nil
  | cons blank known writes _ ih => exact .cons blank (includes.attributes known) writes ih

theorem Opens.widen (includes : wider.Includes dialect) {tag : Opening} {opening : List Char}
    (opens : dialect.Opens tag opening) : wider.Opens tag opening := by
  cases opens with
  | mk named writes blank ends => exact .mk named (writes.widen includes) blank ends

theorem Closes.widen (includes : wider.Includes dialect) {name closing : List Char}
    (closes : dialect.Closes name closing) : wider.Closes name closing := by
  cases closes with
  | exactly => exact .exactly
  | loosely loose same blank => exact .loosely (includes.loose loose) same blank

/-- A fragment of a dialect is one of every wider dialect. -/
theorem Fragment.widen (includes : wider.Includes dialect) {chars : List Char}
    {tokens : List Token} (fragment : dialect.Fragment chars tokens) :
    wider.Fragment chars tokens := by
  induction fragment with
  | nil => exact .nil
  | text known _ ih => exact .text (includes.text known) ih
  | void known opens _ ih => exact .void (includes.void known) (opens.widen includes) ih
  | element known opens _ closes _ contentIh ih =>
    exact .element (includes.element known) (opens.widen includes) contentIh
      (closes.widen includes) ih
  | comment loose inside _ ih => exact .comment (includes.loose loose) inside ih
  | raw loose known opens content closes _ ih =>
    exact .raw (includes.loose loose) known (opens.widen includes) content
      (closes.widen includes) ih

/-! ### Paragraphs -/

/-- An opening tag that starts like one of a paragraph without attributes is that tag. -/
theorem Opens.of_paragraph {tag : Opening} {opening behind rest : List Char}
    (opens : dialect.Opens tag opening) (starts : opening ++ behind = ['<', 'p', '>'] ++ rest) :
    tag = ⟨['p'], []⟩ ∧ opening = ['<', 'p', '>'] ∧ behind = rest := by
  cases opens with
  | @mk name written blanks slash attributes named writes blank ends =>
    cases name with
    | nil => exact named.elim
    | cons first others =>
      simp only [List.cons_append, List.append_assoc, List.nil_append, List.cons.injEq,
        true_and] at starts
      obtain ⟨rfl, starts⟩ := starts
      -- The sign that ends the tag comes right behind the first letter.
      cases others with
      | cons c others =>
        simp only [List.cons_append, List.cons.injEq] at starts
        have inside := named.2
        rw [starts.1, List.all_cons, Bool.and_eq_true] at inside
        exact absurd inside.1 (by decide)
      | nil =>
        cases writes with
        | cons blank _ _ _ =>
          simp only [List.nil_append, List.cons_append, List.cons.injEq] at starts
          rw [starts.1, List.all_cons, Bool.and_eq_true] at blank
          exact absurd blank.1 (by decide)
        | nil =>
          cases blanks with
          | cons c blanks =>
            simp only [List.nil_append, List.cons_append, List.cons.injEq] at starts
            rw [starts.1, List.all_cons, Bool.and_eq_true] at blank
            exact absurd blank.1 (by decide)
          | nil =>
            rcases ends with rfl | rfl
            · simp only [List.nil_append, List.cons.injEq, true_and] at starts
              exact ⟨rfl, rfl, starts⟩
            · simp at starts

end Dialect

/-! ## Balanced markup -/

/-- A name of an attribute. -/
def IsAttributeName (name : List Char) : Prop :=
  name ≠ [] ∧ name.all (fun c => !isTagBlank c && c ∉ ['\x22', '\x27', '>', '/', '=']) = true

/-- Whatever balanced markup may hold. -/
def Dialect.html : Dialect where
  Text c := c ≠ '<'
  Element name := name.map Char.toLower ∉ voidNames ++ rawNames
  Void name := name.map Char.toLower ∈ voidNames
  Attribute name quoting value := IsAttributeName name ∧
    match quoting with
    | .absent => True
    | .bare => value ≠ [] ∧
      ∀ c ∈ value, isTagBlank c = false ∧ c ∉ ['\x22', '\x27', '=', '<', '>', '\x60']
    | .quoted mark => mark ∈ ['\x22', '\x27'] ∧ mark ∉ value
  Loose := True

/-- The characters are a balanced fragment. -/
def IsFragment (chars : List Char) : Prop :=
  ∃ tokens, Dialect.html.Fragment chars tokens

/-- The characters are one element with its content. -/
def IsElement (chars : List Char) : Prop :=
  ∃ tag opening inside closing, Dialect.html.Element tag.name ∧ Dialect.html.Opens tag opening ∧
    IsFragment inside ∧ Dialect.html.Closes tag.name closing ∧
    chars = opening ++ inside ++ closing

theorem IsFragment.nil : IsFragment [] :=
  ⟨[], .nil⟩

theorem IsFragment.append {chars more : List Char} (one : IsFragment chars)
    (two : IsFragment more) : IsFragment (chars ++ more) := by
  obtain ⟨tokens, one⟩ := one
  obtain ⟨found, two⟩ := two
  exact ⟨_, one.append two⟩

theorem IsElement.fragment {chars : List Char} (element : IsElement chars) : IsFragment chars := by
  obtain ⟨tag, opening, inside, closing, known, opens, ⟨tokens, content⟩, closes, rfl⟩ := element
  exact ⟨_, .alone known opens content closes⟩

/-- A paragraph with something behind it. -/
theorem IsFragment.paragraph {inside closing behind : List Char} (content : IsFragment inside)
    (closes : Dialect.html.Closes ['p'] closing) (rest : IsFragment behind) :
    IsFragment (['<', 'p', '>'] ++ inside ++ closing ++ behind) := by
  obtain ⟨tokens, content⟩ := content
  obtain ⟨more, rest⟩ := rest
  have known : Dialect.html.Element ['p'] := show ['p'] ∉ voidNames ++ rawNames by decide
  have named : IsTagName ['p'] := by decide
  have opens : Dialect.html.Opens ⟨['p'], []⟩ ('<' :: ['p'] ++ [] ++ [] ++ [] ++ ['>']) :=
    .mk named .nil rfl (.inl rfl)
  exact ⟨_, .element known opens content closes rest⟩

/-- A fragment that begins with the tag of a paragraph without attributes begins with a whole
paragraph. -/
theorem IsFragment.of_paragraph {rest : List Char}
    (fragment : IsFragment (['<', 'p', '>'] ++ rest)) :
    ∃ inside closing behind, rest = inside ++ closing ++ behind ∧ IsFragment inside ∧
      Dialect.html.Closes ['p'] closing ∧ IsFragment behind := by
  obtain ⟨tokens, fragment⟩ := fragment
  generalize whole : ['<', 'p', '>'] ++ rest = chars at fragment
  cases fragment with
  | nil => cases whole
  | text known _ =>
    rw [List.cons_append] at whole
    exact absurd (List.cons.inj whole).1.symm known
  | void known opens _ =>
    obtain ⟨rfl, -⟩ := opens.of_paragraph whole.symm
    exact absurd (show ['p'] ∈ voidNames from known) (by decide)
  | @element tag opening inside closing behind tokens more known opens content closes after =>
    simp only [List.append_assoc] at whole
    obtain ⟨rfl, -, same⟩ := opens.of_paragraph whole.symm
    exact ⟨inside, closing, behind, by rw [← same, List.append_assoc], ⟨tokens, content⟩, closes,
      ⟨more, after⟩⟩
  | comment _ _ _ =>
    simp at whole
  | raw _ known opens _ _ _ =>
    simp only [List.append_assoc] at whole
    obtain ⟨rfl, -⟩ := opens.of_paragraph whole.symm
    exact absurd known (by decide)

/-! ## Written nodes -/

private theorem writesAttributes (attributes : List (AttributeName × String)) :
    Dialect.html.WritesAttributes
      (attributes.map fun pair => (pair.1.chars, escapeChars pair.2.toList))
      (attributes.flatMap writeAttribute) := by
  have known : ∀ pair ∈ attributes.map fun pair => (pair.1.chars, escapeChars pair.2.toList),
      Dialect.html.Attribute pair.1 (.quoted '\x22') pair.2 := by
    refine List.forall_mem_map.mpr fun pair _ => ?_
    have name : IsAttributeName pair.1.chars := by
      cases pair.1 <;> exact ⟨by decide, by decide⟩
    have inside : '\x22' ∉ escapeChars pair.2.toList :=
      fun member => plain_escapeChars _ _ member (by decide)
    exact ⟨name, by decide, inside⟩
  have written := Dialect.WritesAttributes.quoted known
  rwa [List.flatMap_map] at written

private theorem opens_written (tag : Tag) (attributes : List (AttributeName × String)) :
    Dialect.html.Opens
      ⟨tag.name, attributes.map fun pair => (pair.1.chars, escapeChars pair.2.toList)⟩
      (writeOpening tag attributes) := by
  have named : IsTagName tag.name := by
    cases tag <;> decide
  have opens : Dialect.html.Opens
      ⟨tag.name, attributes.map fun pair => (pair.1.chars, escapeChars pair.2.toList)⟩
      ('<' :: tag.name ++ attributes.flatMap writeAttribute ++ [] ++ [] ++ ['>']) :=
    .mk named (writesAttributes attributes) rfl (.inl rfl)
  simpa [writeOpening] using opens

/-- An element of the library is written as one element. -/
theorem IsElement.of_content (tag : Tag) (attributes : List (AttributeName × String))
    {children : List Node} (content : IsFragment (writeNodes children)) :
    IsElement (Node.element tag attributes children).write := by
  have known : Dialect.html.Element tag.name := by
    cases tag <;> exact show _ ∉ voidNames ++ rawNames by decide
  exact ⟨_, _, _, _, known, opens_written tag attributes, content, .exactly, by
    rw [Node.write, writeClosing]⟩

/-- What was rendered in a fragment is a fragment. -/
def RendersFragments (parts : List Part) : Prop :=
  ∀ output, .rendered output ∈ parts → IsFragment output

mutual

private theorem Node.fragment_write : ∀ node : Node, RendersFragments node.parts →
    IsFragment node.write
  | .text content, _ =>
    ⟨_, .of_text fun c member mark => plain_escapeChars _ c member (mark ▸ by decide)⟩
  | .markup rendered, renders => renders _ List.mem_cons_self
  | .element tag attributes children, renders =>
    (IsElement.of_content tag attributes (fragment_writeNodes children fun output member =>
      renders output (by simp [Node.parts, member]))).fragment

/-- Nodes are written as a fragment. -/
theorem fragment_writeNodes : ∀ nodes : List Node, RendersFragments (partsOf nodes) →
    IsFragment (writeNodes nodes)
  | [], _ => .nil
  | node :: rest, renders =>
    (node.fragment_write fun output member =>
      renders output (List.mem_append_left _ member)).append
      (fragment_writeNodes rest fun output member =>
        renders output (List.mem_append_right _ member))

end

end SchemaGuide.Html
