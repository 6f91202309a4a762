import SchemaGuide.Toml.Scalar

/-! Documents: values with parts, statements, and the table that a text spells. Readers are
given a number of steps that the length of the text bounds, since every second step at least
takes a character. -/
namespace SchemaGuide.Toml

mutual

/-- A value, within so many steps. -/
def value? : Nat → List Char → Option (Value × List Char)
  | 0, _ => none
  | steps + 1, '[' :: rest => do
    let (items, rest) ← items? steps (skipGap false rest)
    some (.array items, rest)
  | steps + 1, '{' :: rest => do
    let (members, rest) ← members? steps (skipGap false rest)
    let table ← members.foldlM (fun table member => Table.assignPath member.1 member.2 table) []
    some (.table .braces table, rest)
  | _ + 1, chars =>
    match string? chars with
    | some (text, rest) => some (.string (String.ofList text), rest)
    | none => (word? (chars.takeWhile isWordChar)).map (·, chars.dropWhile isWordChar)

/-- The items of an array and its closing bracket. A comma may follow the last item. -/
def items? : Nat → List Char → Option (List Value × List Char)
  | 0, _ => none
  | _ + 1, ']' :: rest => some ([], rest)
  | steps + 1, chars => do
    let (item, rest) ← value? steps chars
    match skipGap false rest with
    | ']' :: rest => some ([item], rest)
    | ',' :: rest =>
      let (items, rest) ← items? steps (skipGap false rest)
      some (item :: items, rest)
    | _ => none

/-- The entries of a table in braces and its closing brace. A comma may follow the last
entry. -/
def members? : Nat → List Char → Option (List (KeyPath × Value) × List Char)
  | 0, _ => none
  | _ + 1, '}' :: rest => some ([], rest)
  | steps + 1, chars => do
    let (path, rest) ← keyPath? chars
    match rest with
    | '=' :: rest =>
      let (value, rest) ← value? steps (skipBlanks rest)
      match skipGap false rest with
      | '}' :: rest => some ([(path, value)], rest)
      | ',' :: rest =>
        let (members, rest) ← members? steps (skipGap false rest)
        some ((path, value) :: members, rest)
      | _ => none
    | _ => none

end

/-- The steps that a value in a text can take. -/
def stepsFor (chars : List Char) : Nat :=
  2 * chars.length + 2

/-- A statement, without what may follow it on its line. -/
def statement? : List Char → Option (Statement × List Char)
  | '[' :: '[' :: rest => do
    match ← keyPath? (skipBlanks rest) with
    | (path, ']' :: ']' :: rest) => some (.element path, rest)
    | _ => none
  | '[' :: rest => do
    match ← keyPath? (skipBlanks rest) with
    | (path, ']' :: rest) => some (.header path, rest)
    | _ => none
  | chars => do
    match ← keyPath? chars with
    | (path, '=' :: rest) =>
      let (value, rest) ← value? (stepsFor rest) (skipBlanks rest)
      some (.entry path value, rest)
    | _ => none

/-- The statements of a text, at most so many. -/
def statementsWithin? : Nat → List Char → Option (List Statement)
  | 0, _ => none
  | count + 1, chars =>
    match skipGap false chars with
    | [] => some []
    | chars => do
      let (statement, rest) ← statement? chars
      let rest ← endOfLine? rest
      (statementsWithin? count rest).map (statement :: ·)

/-- The statements of a text. A mark of the byte order may stand in front of them. -/
def statements? : List Char → Option (List Statement)
  | '\uFEFF' :: rest => statementsWithin? (rest.length + 1) rest
  | chars => statementsWithin? (chars.length + 1) chars

/-- The table that a text describes. -/
def parse? (text : String) : Option Table := do
  Table.ofStatements? (← statements? text.toList)

end SchemaGuide.Toml
