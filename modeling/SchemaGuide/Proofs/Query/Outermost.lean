import SchemaGuide.Proofs.Query.UntypedFragment

/-! The outermost step of a path. Anywhere inside of the selection set of a definition, the path
starts with the step that the tracker made of the header of the definition, whatever stands in
front of the header and in the set. The tracker takes a name in a header for the start of another
definition if it is one of the words that start one, and a type for the word in front of a type if
it is written like it. So the step is that of the header exactly where the names in it are plain. -/
namespace SchemaGuide.Query

/-- **The outermost step is that of the header exactly where the names in it are plain.** At every
place of the selection set of a definition outside of its inner sets something is asked for, and
wherever something is asked for inside of it, the path starts with the step of the header exactly
where the name of the operation is none of the words that start a definition, or leads to the same
operation, and the type of the fragment is neither one of them nor the word in front of a type. -/
theorem outermost_step_iff {draft : Draft} {text : String} {offset : Nat}
    (reaches : draft.ReachesTo text offset) :
    (draft.levels = [] → ∃ asked, contextAt? text offset = some asked) ∧
      ∀ asked, contextAt? text offset = some asked →
        (asked.path.head? = some draft.header.step ↔ draft.header.IsPlain) := by
  have context := context_of_draft reaches
  refine ⟨fun outside => ?_, fun asked found => ?_⟩
  · rw [outside] at context
    exact ⟨_, context⟩
  · rw [context] at found
    obtain ⟨steps, _, rfl⟩ := Option.map_eq_some_iff.mp found
    rw [draft.ending.context_path, List.head?_cons, Option.some_inj]
    exact draft.header.found_eq_step_iff

/-! ### Names that are words -/

/-- A definition with that header, up to a place of its selection set. -/
private def headedBy (header : DefinitionHeader) (before : List QueryDefinition)
    (levels : List Level) : Draft where
  before := before
  header := header
  levels := levels
  last := []
  ending := .selection none

private def anObject (field : Name) : Value := .object [(field, .number one)]

private def anObjectWriting (field : Name) : Writing :=
  [(.sign .openBrace, []), (.name field, []), (.sign .colon, space), (.number one, []),
    (.sign .closeBrace, [])]

/-- A query that is called query, behind a fragment of that name, with objects for the default of
a variable and in a directive. Everything else has the other name. -/
private def queryNamedQuery (other : Name) : Draft :=
  headedBy
    (.operation .query (some Keyword.query.name)
      [⟨[], other, .named other, some (anObject other), []⟩]
      [⟨other, [⟨other, anObject other⟩]⟩])
    [⟨.fragment ⟨Keyword.query.name, by decide⟩ other [], [.leaf ⟨none, other, [], []⟩]⟩]
    [⟨[], .field ⟨none, other, [], []⟩⟩]

private def queryNamedQueryWriting (other : Name) : Writing :=
  [(.name fragmentWord, space), (.name Keyword.query.name, space), (.name onWord, space),
    (.name other, space), (.sign .openBrace, []), (.name other, []),
    (.sign .closeBrace, space), (.name Keyword.query.name, space), (.name Keyword.query.name, []),
    (.sign .openParenthesis, []), (.dollar [] other, []), (.sign .colon, space),
    (.name other, space), (.sign .equals, space)] ++ anObjectWriting other ++
  [(.sign .closeParenthesis, space), (.sign .atSign, []), (.name other, []),
    (.sign .openParenthesis, []), (.name other, []), (.sign .colon, space)] ++
  anObjectWriting other ++
  [(.sign .closeParenthesis, space), (.sign .openBrace, []), (.name other, space),
    (.sign .openBrace, [])]

private def queryNamedQueryText : String :=
  "fragment query on a \x7ba\x7d query query($a: a = \x7ba: 1\x7d) @a(a: \x7ba: 1\x7d) \x7ba \x7b"

/-- The name of a query may be the word that starts it. -/
theorem outermost_step_of_query_named_query :
    ∃ draft : Draft, draft.ReachesTo queryNamedQueryText 70 ∧
      contextAt? queryNamedQueryText 70 = some (.selection [.operation "query", .field "a"]) ∧
      draft.header.IsPlain ∧
      [Step.operation "query", .field "a"].head? = some draft.header.step := by
  have reaches : (queryNamedQuery (letter 'a' rfl)).ReachesTo queryNamedQueryText 70 :=
    ⟨⟨_, [], ⟨[], queryNamedQueryWriting (letter 'a' rfl), rfl, by decide, rfl⟩, .nothing, rfl⟩,
      by decide⟩
  have found : contextAt? queryNamedQueryText 70 =
      some (.selection [.operation "query", .field "a"]) := by decide
  have plain : (queryNamedQuery (letter 'a' rfl)).header.IsPlain := by
    simp [queryNamedQuery, headedBy, DefinitionHeader.IsPlain]
  exact ⟨_, reaches, found, plain, ((outermost_step_iff reaches).2 _ found).mpr plain⟩

/-- Other names are not safe: a mutation that is called query is taken for a query, and so is a
fragment on a type whose name is the word for it or the word in front of a type. -/
theorem misread_names :
    (∃ draft : Draft, draft.ReachesTo "mutation query \x7b " 17 ∧
      draft.header.step = .operation "mutation" ∧
      contextAt? "mutation query \x7b " 17 = some (.selection [.operation "query"])) ∧
    (∃ draft : Draft, draft.ReachesTo "fragment F on query \x7b " 22 ∧
      draft.header.step = .typeCondition "query" ∧
      contextAt? "fragment F on query \x7b " 22 = some (.selection [.operation "query"])) ∧
    ∃ draft : Draft, draft.ReachesTo "fragment F on on \x7b " 19 ∧
      draft.header.step = .typeCondition "on" ∧
      contextAt? "fragment F on on \x7b " 19 = some (.selection [.operation "query"]) := by
  have mutation : (headedBy (.operation .mutation (some Keyword.query.name) [] []) [] []).ReachesTo
      "mutation query \x7b " 17 :=
    ⟨⟨_, [], ⟨[], [(.name Keyword.mutation.name, space), (.name Keyword.query.name, space),
      (.sign .openBrace, space)], rfl, by decide, rfl⟩, .nothing, rfl⟩, by decide⟩
  have query : (headedBy (.fragment ⟨letter 'F' rfl, by decide⟩ Keyword.query.name []) []
      []).ReachesTo "fragment F on query \x7b " 22 :=
    ⟨⟨_, [], ⟨[], [(.name fragmentWord, space), (.name (letter 'F' rfl), space),
      (.name onWord, space), (.name Keyword.query.name, space), (.sign .openBrace, space)],
      rfl, by decide, rfl⟩, .nothing, rfl⟩, by decide⟩
  have on : (headedBy (.fragment ⟨letter 'F' rfl, by decide⟩ onWord []) []
      []).ReachesTo "fragment F on on \x7b " 19 :=
    ⟨⟨_, [], ⟨[], [(.name fragmentWord, space), (.name (letter 'F' rfl), space),
      (.name onWord, space), (.name onWord, space), (.sign .openBrace, space)],
      rfl, by decide, rfl⟩, .nothing, rfl⟩, by decide⟩
  exact ⟨⟨_, mutation, rfl, by decide⟩, ⟨_, query, rfl, by decide⟩, _, on, rfl, by decide⟩

end SchemaGuide.Query
