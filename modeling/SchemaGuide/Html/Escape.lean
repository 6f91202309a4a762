/-! Escaping of text for markup. Five characters have a meaning in element content or in
an attribute value; each is written as its entity, and every other character stands for
itself. The written form therefore holds no angle bracket and no quotation mark. -/
namespace SchemaGuide.Html

/-- The written form of one character. -/
def escapeChar (c : Char) : List Char :=
  if c = '&' then ['&', 'a', 'm', 'p', ';']
  else if c = '<' then ['&', 'l', 't', ';']
  else if c = '>' then ['&', 'g', 't', ';']
  else if c = '\x22' then ['&', 'q', 'u', 'o', 't', ';']
  else if c = '\x27' then ['&', '#', '3', '9', ';']
  else [c]

/-- The written form of a sequence of characters. -/
def escapeChars (chars : List Char) : List Char :=
  chars.flatMap escapeChar

/-- Text made safe for element content and for attribute values. -/
def escape (text : String) : String :=
  String.ofList (escapeChars text.toList)

end SchemaGuide.Html
