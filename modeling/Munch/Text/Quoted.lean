import Munch.Text
import Munch.Unicode.Classes

/-!
# Quoted text

A text is shown between double quotes and a character between single quotes.  The tab, the line feed,
the carriage return, the null character, the backslash and the quote in use are written as a
backslash and one character; a character that would not be seen is written as its code point in
hexadecimal digits between `\u{` and `}`; every other character stands for itself.
-/

namespace Munch.Text.Quoted

/-- The code point of a character between braces, in lower-case hexadecimal digits. -/
def codePoint (char : Char) : Text :=
  ['\\', 'u', '\x7b'] ++ Nat.toDigits 16 char.toNat ++ ['\x7d']

/-- The written form of one character between quotes of the given kind, where `plain` tells which
characters may stand for themselves. -/
def escape (plain : Char → Bool) (quote char : Char) : Text :=
  if char = '\x00' then ['\\', '0']
  else if char = '\t' then ['\\', 't']
  else if char = '\r' then ['\\', 'r']
  else if char = '\n' then ['\\', 'n']
  else if char = '\\' ∨ char = quote then ['\\', char]
  else if plain char then [char]
  else codePoint char

/-- A text between quotes of the given kind. -/
def encode (plain : Char → Bool) (quote : Char) (text : Text) : Text :=
  quote :: (text.flatMap (escape plain quote) ++ [quote])

end Munch.Text.Quoted

namespace Munch.Text

/-- A text between double quotes. -/
def quoted (text : Text) : Text :=
  Quoted.encode Unicode.isPrintable '"' text

/-- A character between single quotes. -/
def quotedChar (char : Char) : Text :=
  Quoted.encode Unicode.isPrintable '\'' [char]

end Munch.Text
