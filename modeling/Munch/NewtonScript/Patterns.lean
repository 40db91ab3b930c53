import Munch.Pattern

/-!
# The patterns of NewtonScript

One pattern for each kind of token, and three for block comments, which are read in parts.  Letters
and digits are those of ASCII; white space is that of Unicode.
-/

namespace Munch.NewtonScript

/-- The words that cannot be used as symbols. -/
def reservedWords : List String :=
  ["and", "begin", "break", "by", "call", "constant", "deeply", "div", "do", "else", "end", "exists",
    "for", "foreach", "func", "global", "if", "in", "inherited", "local", "loop", "mod", "native",
    "not", "onexception", "or", "repeat", "return", "self", "then", "to", "try", "until", "while",
    "with"]

namespace Patterns

/-- A reserved word, up to the end of the word. -/
def reservedWord : Pattern where
  source := "(?:" ++ "|".intercalate reservedWords ++ ")\\b"

/-- A real number has a point, and perhaps an exponent. -/
def real : Pattern where
  source := "[0-9]+\\.[0-9]*(?:[eE]-?[0-9]+)?"

/-- A hexadecimal or decimal integer. -/
def integer : Pattern where
  source := "0x[0-9a-fA-F]+|[0-9]+"

/-- A character constant is a dollar sign and a visible character or an escape. -/
def character : Pattern where
  source := "\\$(?:\\\\(?:[nt\\\\]|u[0-9a-fA-F]\x7b4\x7d|[0-9a-fA-F]\x7b2\x7d)|[^\\\\\\s])"

/-- A string stands between double quotes.  A part of it can be written as groups of four hexadecimal
digits between two `\u`, of which the second is left out at the end of the string. -/
def string : Pattern where
  source := "\"(?:[^\"\\\\]|\\\\[\"\\\\nt]|\\\\u(?:[0-9a-fA-F]\x7b4\x7d)*\\\\u)*(?:\\\\u(?:[0-9a-fA-F]\x7b4\x7d)*)?\""

/-- A symbol is an identifier, or any text between bars. -/
def symbol : Pattern where
  source := "[a-zA-Z_][a-zA-Z0-9_]*|\\|(?:[^|\\\\]|\\\\[|\\\\])*\\|"

/-- An operator has one or two signs. -/
def operator : Pattern where
  source := ":=|:\\?|<>|<=|>=|<<|>>|&&|[-+*/<>=&:.]"

/-- A delimiter is a single sign. -/
def delimiter : Pattern where
  source := "[()\\[\\]\x7b\x7d,;']"

/-- White space of any length. -/
def whiteSpace : Pattern where
  source := "\\s+"

/-- A comment up to the end of the line. -/
def lineComment : Pattern where
  source := "//[^\\n]*"

/-- The start of a block comment. -/
def commentOpen : Pattern where
  source := "/\\*"

/-- A stretch of a block comment that does not end it. -/
def commentBody : Pattern where
  source := "(?:[^*]|\\*+[^*/])+|\\*+"

/-- The end of a block comment. -/
def commentClose : Pattern where
  source := "\\*+/"

end Patterns

end Munch.NewtonScript
