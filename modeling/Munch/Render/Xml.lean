import Munch.Text

/-!
# Token lists as XML

A token list is an element with one child for each token, which holds the spelling and the category.
The five characters with a meaning in XML are written as entities.
-/

namespace Munch.Render.Xml

/-- The written form of a character. -/
def escape (char : Char) : Text :=
  if char = '&' then "&amp;".toList
  else if char = '<' then "&lt;".toList
  else if char = '>' then "&gt;".toList
  else if char = '"' then "&quot;".toList
  else if char = '\'' then "&apos;".toList
  else [char]

/-- The written form of a text. -/
def encode (text : Text) : Text :=
  text.flatMap escape

/-- The element of one token, given as category and spelling. -/
def token (entry : Text × Text) : Text :=
  "  <token>\n    <lexeme>".toList ++ encode entry.2 ++
    "</lexeme>\n    <tokencategory>".toList ++ encode entry.1 ++
    "</tokencategory>\n  </token>\n".toList

/-- The element of a token list. -/
def render (entries : List (Text × Text)) : Text :=
  "<tokenlist>\n".toList ++ entries.flatMap token ++ "</tokenlist>\n".toList

end Munch.Render.Xml
