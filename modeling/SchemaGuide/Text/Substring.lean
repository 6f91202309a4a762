/-! Substrings: whether one text starts with another, or holds it anywhere. -/
namespace SchemaGuide.Text

/-- Whether the text starts with the given one. -/
def startsWith (start chars : List Char) : Bool :=
  start.isPrefixOf chars

/-- Whether the given text stands anywhere in the other. -/
def occursIn (part : List Char) : List Char → Bool
  | [] => part.isEmpty
  | c :: rest => startsWith part (c :: rest) || occursIn part rest

end SchemaGuide.Text
