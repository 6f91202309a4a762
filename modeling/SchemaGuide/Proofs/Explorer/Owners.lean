import SchemaGuide.Proofs.Explorer.Members

/-! Owners in search results. Each match is a line of its own, and what owns it may stand in front
of it as a link. The lines are read back from the characters of the panel: which types were searched
depends on whether the scope is a type, but whether the owners are named depends on whether there is
a scope at all. -/
namespace SchemaGuide.Explorer

open Html (AttributeName Finder Node writeAttribute writeClosing writeNodes writeOpening)

/-- The line of a match as it is read. -/
structure MatchLine where
  /-- The link in front of the match, if there is one. -/
  owner : Option TypeAnchor
  member : String
deriving DecidableEq

/-- The element that the characters start with. -/
def first? {α : Type} (finder : Finder α) (chars : List Char) : Option α :=
  (behind? finder.mark chars).bind finder.read

/-- The name of the field, argument or input field that the characters start with. -/
def memberName? (chars : List Char) : Option String :=
  ((first? fieldLinks chars).map (·.field)).or ((first? argumentSpans chars).map (·.name))

/-- A match, with a link and a full stop in front of it or without. -/
def readLine? (chars : List Char) : Option MatchLine :=
  match behind? typeLinks.mark chars with
  | none => (memberName? chars).map (⟨none, ·⟩)
  | some chars => do
    let (owner, chars) ← readTypeLink chars
    let chars ← behind? ['.'] chars
    (memberName? chars).map (⟨some owner, ·⟩)

/-- The lines of fields, arguments and input fields. -/
def matchLines : Finder MatchLine where
  tag := .div
  style := "doc-field"
  read chars := (behind? ['>'] chars).bind readLine?

/-! ## Lines -/

/-- The mark stands in front of no element of another style. -/
theorem behind?_of_other {α : Type} {finder : Finder α} {tag : Html.Tag} {style : String}
    (other : finder.style ≠ style) (more : List (AttributeName × String)) (children : List Node)
    (rest : List Char) :
    behind? finder.mark
      (writeNodes [.element tag ((.styleClass, style) :: more) children] ++ rest) = none := by
  rw [behind?, if_neg]
  intro starts
  rw [writeNodes, writeNodes, List.append_nil, Node.write, List.append_assoc, List.append_assoc]
    at starts
  exact other (Finder.style_of_mark starts)

/-- Behind the mark of an element stands what it is read from. -/
theorem behind?_of_own {α : Type} (finder : Finder α) (more : List (AttributeName × String))
    (children : List Node) (rest : List Char) :
    behind? finder.mark (writeNodes
        [.element finder.tag ((.styleClass, finder.style) :: more) children] ++ rest) =
      some (more.flatMap writeAttribute ++ '>' ::
        (writeNodes children ++ (writeClosing finder.tag ++ rest))) := by
  rw [writeNodes, writeNodes, List.append_nil, Node.write, List.append_assoc, List.append_assoc,
    Finder.write_own_opening, behind?_append]

theorem first?_of_other {α : Type} {finder : Finder α} {tag : Html.Tag} {style : String}
    (other : finder.style ≠ style) (more : List (AttributeName × String)) (children : List Node)
    (rest : List Char) :
    first? finder (writeNodes [.element tag ((.styleClass, style) :: more) children] ++ rest) =
      none := by
  rw [first?, behind?_of_other other]
  rfl

theorem first?_of_own {α : Type} {finder : Finder α} (more : List (AttributeName × String))
    {children : List Node} {x : α}
    (reads : ∀ rest, finder.read (more.flatMap writeAttribute ++ '>' ::
      (writeNodes children ++ (writeClosing finder.tag ++ rest))) = some x) (rest : List Char) :
    first? finder (writeNodes
      [.element finder.tag ((.styleClass, finder.style) :: more) children] ++ rest) = some x := by
  rw [first?, behind?_of_own]
  exact reads rest

theorem memberName_of_field (owner field : String) (rest : List Char) :
    memberName? (writeNodes [fieldLink owner field] ++ rest) = some field := by
  have first : first? fieldLinks (writeNodes [fieldLink owner field] ++ rest) =
      some ⟨owner, field, field⟩ :=
    first?_of_own [(.dataType, owner), (.dataField, field)] (read_fieldLink owner field) rest
  rw [memberName?, first]
  rfl

theorem memberName_of_argument (argument : InputValue) (rest : List Char) :
    memberName? (writeNodes [argumentSpan argument] ++ rest) = some argument.name := by
  obtain ⟨shown, plain, shows⟩ := Shows.behind_name argument
  have noField : first? fieldLinks (writeNodes [argumentSpan argument] ++ rest) = none :=
    first?_of_other (by decide) [] _ rest
  have first : first? argumentSpans (writeNodes [argumentSpan argument] ++ rest) =
      some ⟨argument.name, argument.plain⟩ :=
    first?_of_own [] (read_argument argument plain shows) rest
  rw [memberName?, noField, first]
  rfl

/-- How a match is read: under its owner, unless all matches have the same one. -/
def lineOf (oneOwner : Bool) (owner member : String) : MatchLine :=
  ⟨if oneOwner then none else some ⟨owner, owner⟩, member⟩

section Lines

variable {member : Node} {name : String}

theorem readLine_without_owner
    (unlinked : ∀ rest, behind? typeLinks.mark (writeNodes [member] ++ rest) = none)
    (named : ∀ rest, memberName? (writeNodes [member] ++ rest) = some name) (rest : List Char) :
    readLine? (writeNodes [member] ++ rest) = some ⟨none, name⟩ := by
  rw [readLine?, unlinked]
  exact congrArg (Option.map _) (named rest)

theorem readLine_with_owner (owner : String)
    (named : ∀ rest, memberName? (writeNodes [member] ++ rest) = some name) (rest : List Char) :
    readLine? (writeNodes [typeLink owner] ++ '.' :: (writeNodes [member] ++ rest)) =
      some ⟨some ⟨owner, owner⟩, name⟩ := by
  have linked : behind? typeLinks.mark
      (writeNodes [typeLink owner] ++ '.' :: (writeNodes [member] ++ rest)) = _ :=
    behind?_of_own typeLinks [(.dataType, owner)] [.text owner] _
  have stop : behind? ['.'] ('.' :: (writeNodes [member] ++ rest)) =
      some (writeNodes [member] ++ rest) :=
    behind?_append ['.'] _
  rw [readLine?, linked]
  simp only [typeLinks, readTypeLink_written, Option.bind_eq_bind, Option.bind_some, stop, named,
    Option.map_some]

theorem finds_line {children : List Node} {line : MatchLine}
    (reads : ∀ rest, readLine? (writeNodes children ++ rest) = some line)
    (inside : matchLines.Finds children []) :
    matchLines.Finds [Html.div "doc-field" children] [line] := by
  have read (rest : List Char) : matchLines.read
      ('>' :: (writeNodes children ++ (writeClosing .div ++ rest))) = some line := by
    have tagEnd : behind? ['>'] ('>' :: (writeNodes children ++ (writeClosing .div ++ rest))) =
        some (writeNodes children ++ (writeClosing .div ++ rest)) :=
      behind?_append ['>'] _
    simp only [matchLines, tagEnd, Option.bind_some, reads]
  exact .own read inside

theorem finds_matchLine (oneOwner : Bool) (owner : NamedType) {more : List Node}
    (unlinked : ∀ rest, behind? typeLinks.mark (writeNodes [member] ++ rest) = none)
    (named : ∀ rest, memberName? (writeNodes [member] ++ rest) = some name)
    (inside : matchLines.Finds (member :: more) []) :
    matchLines.Finds [Html.div "doc-field" (ownerMark oneOwner owner ++ member :: more)]
      [lineOf oneOwner owner.name name] := by
  have split (rest : List Char) :
      writeNodes (member :: more) ++ rest = writeNodes [member] ++ (writeNodes more ++ rest) := by
    simp [writeNodes]
  cases oneOwner with
  | true =>
    rw [ownerMark, if_pos rfl, List.nil_append]
    refine finds_line (fun rest => ?_) inside
    rw [split]
    exact readLine_without_owner unlinked named _
  | false =>
    have linked : matchLines.Finds [typeLink owner.name] [] :=
      .element (by decide) (.text owner.name)
    have stop (rest : List Char) :
        writeNodes (typeLink owner.name :: .text "." :: member :: more) ++ rest =
          writeNodes [typeLink owner.name] ++ '.' :: (writeNodes (member :: more) ++ rest) := by
      simp [writeNodes, Node.write, Html.escapeChars, Html.escapeChar]
    rw [ownerMark, if_neg (by decide), List.cons_append, List.cons_append, List.nil_append]
    refine finds_line (fun rest => ?_) (linked.append (.behind_text "." inside))
    rw [stop, split]
    exact readLine_with_owner owner.name named _

end Lines

theorem finds_fieldMatch (oneOwner : Bool) (found : FieldMatch) :
    matchLines.Finds [fieldMatchLine oneOwner found]
      [lineOf oneOwner found.owner.name found.field.name] := by
  have link : matchLines.Finds [fieldLink found.owner.name found.field.name] [] :=
    .element (by decide) (.text found.field.name)
  have args : matchLines.Finds (argumentList found.args) (found.args.flatMap fun _ => []) :=
    finds_in_argumentList (finds_no_argument (by decide) (by decide) (by decide)) found.args
  rw [flatMap_nothing] at args
  exact finds_matchLine oneOwner found.owner
    (fun rest => behind?_of_other (by decide) _ _ rest)
    (fun rest => memberName_of_field found.owner.name found.field.name rest) (.cons link args)

theorem finds_inputMatch (oneOwner : Bool) (found : InputMatch) :
    matchLines.Finds [inputMatchLine oneOwner found]
      [lineOf oneOwner found.owner.name found.input.name] :=
  finds_matchLine oneOwner found.owner
    (fun rest => behind?_of_other (by decide) _ _ rest)
    (fun rest => memberName_of_argument found.input rest)
    (finds_no_argument (by decide) (by decide) (by decide) found.input)

/-! ## Search results -/

/-- The owner and the name of each field, argument group and input field that was found. -/
def SearchResults.members (results : SearchResults) : List (String × String) :=
  results.fields.map (fun found => (found.owner.name, found.field.name)) ++
    results.arguments.map (fun found => (found.owner.name, found.field.name)) ++
    results.inputFields.map fun found => (found.owner.name, found.input.name)

theorem finds_searchBody (results : SearchResults) (term : String) (oneOwner : Bool) :
    matchLines.Finds (searchBody results term oneOwner)
      (results.members.map fun member => lineOf oneOwner member.1 member.2) := by
  have layout : matchLines.style ∉ layoutStyles := by decide
  rw [searchBody]
  split
  · rename_i empty
    have nothing : results.members = [] := by
      simp only [SearchResults.isEmpty, Bool.and_eq_true, List.isEmpty_iff] at empty
      obtain ⟨⟨⟨_, fields⟩, arguments⟩, inputFields⟩ := empty
      simp [SearchResults.members, fields, arguments, inputFields]
    rw [nothing]
    exact .element (by decide) (.behind_text _ (.bare (.text term)))
  · have apart (type : NamedType) : matchLines.Finds [typeLine type.name] [] :=
      .element (by decide) (.element (by decide) (.text type.name))
    have types := Finder.Finds.map apart results.types
    have fields := Finder.Finds.map (finds_fieldMatch oneOwner) results.fields
    have arguments := Finder.Finds.map (finds_fieldMatch oneOwner) results.arguments
    have inputs := Finder.Finds.map (finds_inputMatch oneOwner) results.inputFields
    have found := (((finds_in_sectionOfSome layout "Types" types).append
      (finds_in_sectionOfSome layout "Fields" fields)).append
      (finds_in_sectionOfSome layout "Arguments" arguments)).append
      (finds_in_sectionOfSome layout "Input Fields" inputs)
    simpa [SearchResults.members, flatMap_nothing, ← List.map_eq_flatMap, Function.comp_def]
      using found

/-- The lines of the panel that shows the results of a search. -/
def linesOfSearch (presentation : Presentation) (schema : Schema) (view : View) (term : String)
    (scope : Option Definition) : List (Option MatchLine) :=
  matchLines.find (View.panel { presentation with schema := some schema }
    { view with mode := .searchResults term scope }).content.toList

/-- Matches are read under their owners, except those of a search within one type. -/
structure NamesOwners (scope : Option Definition) (found : List (String × String))
    (lines : List (Option MatchLine)) : Prop where
  everywhere : (∀ type, scope ≠ some (.type type)) →
    lines = found.map fun member => some ⟨some ⟨member.1, member.1⟩, member.2⟩
  within : ∀ type, scope = some (.type type) →
    lines = found.map fun member => some ⟨none, member.2⟩

theorem linesOfSearch_eq (presentation : Presentation) (schema : Schema) (view : View)
    (term : String) (scope : Option Definition) :
    linesOfSearch presentation schema view term scope =
      (search presentation.matcher presentation.searchLimit schema term scope).members.map
        fun member => some (lineOf scope.isSome member.1 member.2) := by
  have found := (finds_searchBody
    (search presentation.matcher presentation.searchLimit schema term scope) term
    scope.isSome).alone
  rw [List.map_map] at found
  rw [linesOfSearch, content_toList]
  exact found

theorem member_owner_is_searched {results : SearchResults} {searched : List NamedType}
    (among : results.Among searched) {member : String × String} (found : member ∈ results.members) :
    ∃ owner ∈ searched, owner.name = member.1 := by
  simp only [SearchResults.members, List.mem_append, List.mem_map] at found
  rcases found with (⟨field, inside, rfl⟩ | ⟨field, inside, rfl⟩) | ⟨input, inside, rfl⟩
  · exact ⟨field.owner, (among.fields field inside).owner, rfl⟩
  · exact ⟨field.owner, (among.arguments field inside).owner, rfl⟩
  · exact ⟨input.owner, (among.inputFields input inside).owner, rfl⟩

/-- **Owners are named where there is no scope.** Within a field or an argument all types are
searched, as without a scope, but the matches are read without their owners then. So they are read
as they should exactly if the scope is absent or a type, or if no member is found. -/
theorem owners_are_named_iff (presentation : Presentation) (schema : Schema) (view : View)
    (term : String) (scope : Option Definition) :
    let found :=
      (search presentation.matcher presentation.searchLimit schema term scope).members
    let lines := linesOfSearch presentation schema view term scope
    (∃ named owners, AreSearched named owners schema scope ∧
        ∀ member ∈ found, ∃ owner ∈ owners, owner.name = member.1) ∧
      (lines = found.map fun member => some (lineOf scope.isSome member.1 member.2)) ∧
      (NamesOwners scope found lines ↔
        scope = none ∨ (∃ type, scope = some (.type type)) ∨ found = []) := by
  intro found lines
  have read : lines = found.map fun member => some (lineOf scope.isSome member.1 member.2) :=
    linesOfSearch_eq presentation schema view term scope
  have among := search_among presentation.searchLimit presentation.matcher schema term scope
  refine ⟨⟨_, _, areSearched schema scope, fun member => member_owner_is_searched among⟩, read, ?_⟩
  constructor
  · intro names
    by_cases within : ∃ type, scope = some (.type type)
    · exact .inr (.inl within)
    · cases scope with
      | none => exact .inl rfl
      | some definition =>
        have expected := names.everywhere fun type same => within ⟨type, same⟩
        cases members : found with
        | nil => exact .inr (.inr rfl)
        | cons member rest =>
          rw [read, members] at expected
          simp [lineOf] at expected
  · rintro (rfl | ⟨type, rfl⟩ | nothing)
    · exact ⟨fun _ => read, fun type same => nomatch same⟩
    · exact ⟨fun other => absurd rfl (other type), fun _ _ => read⟩
    · rw [nothing] at read ⊢
      exact ⟨fun _ => read, fun _ _ => read⟩

/-! ## A search within a field -/

private def nameField : Field := ⟨"name", .named "String", none, none, []⟩

private def namedType (name : String) : NamedType :=
  ⟨name, .object, none, [nameField], [], [], [], []⟩

private def petSchema : Schema :=
  ⟨none, none, none, none, .ofList [namedType "Cat", namedType "Dog"]⟩

private def petPresentation : Presentation :=
  ⟨none, Html.escape, ignoringCase, 100, none⟩

/-- Both types are searched, but neither of the two matches tells where it was found. -/
theorem owners_are_left_out_within_field :
    ∃ (lines : List (Option MatchLine)) (found : List (String × String)),
      lines = linesOfSearch petPresentation petSchema ⟨.noSchema, true, none, ""⟩ "name"
        (some (.field nameField)) ∧
      found = (search ignoringCase 100 petSchema "name" (some (.field nameField))).members ∧
      found = [("Cat", "name"), ("Dog", "name")] ∧
      lines = [some ⟨none, "name"⟩, some ⟨none, "name"⟩] ∧
      ¬ NamesOwners (some (.field nameField)) found lines := by
  have found : (search ignoringCase 100 petSchema "name" (some (.field nameField))).members =
      [("Cat", "name"), ("Dog", "name")] := by
    decide +kernel
  have lines : linesOfSearch petPresentation petSchema ⟨.noSchema, true, none, ""⟩ "name"
      (some (.field nameField)) = [some ⟨none, "name"⟩, some ⟨none, "name"⟩] := by
    rw [linesOfSearch_eq]
    change (search ignoringCase 100 petSchema "name" (some (.field nameField))).members.map _ = _
    rw [found]
    rfl
  refine ⟨_, _, rfl, rfl, found, lines, fun names => ?_⟩
  have expected := names.everywhere fun type same => nomatch same
  rw [found, lines] at expected
  exact absurd expected (by decide)

end SchemaGuide.Explorer
