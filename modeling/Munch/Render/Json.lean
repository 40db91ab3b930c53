import Munch.Text

/-!
# Token lists as JSON

Each token is an object with the members `type` and `lexeme`, and the objects follow each other
without anything in between.  In strings the quote, the backslash and the controls below the space
are escaped, and every other character stands for itself.
-/

namespace Munch.Render.Json

/-- A lower-case hexadecimal digit. -/
def hexDigit (value : Nat) : Char :=
  Nat.digitChar (value % 16)

/-- The written form of a character in a string. -/
def escape (char : Char) : Text :=
  if char = '"' then ['\\', '"']
  else if char = '\\' then ['\\', '\\']
  else if char = '\x08' then ['\\', 'b']
  else if char = '\x0c' then ['\\', 'f']
  else if char = '\n' then ['\\', 'n']
  else if char = '\r' then ['\\', 'r']
  else if char = '\t' then ['\\', 't']
  else if char < ' ' then
    ['\\', 'u', '0', '0', hexDigit (char.toNat / 16), hexDigit char.toNat]
  else [char]

/-- A text as a string. -/
def encode (text : Text) : Text :=
  '"' :: (text.flatMap escape ++ ['"'])

/-- The object of one token, given as category and spelling. -/
def token (entry : Text × Text) : Text :=
  "\x7b\"type\":".toList ++ encode entry.1 ++ ",\"lexeme\":".toList ++ encode entry.2 ++ ['\x7d']

/-- The objects of a token list. -/
def render (entries : List (Text × Text)) : Text :=
  entries.flatMap token

end Munch.Render.Json
