import Munch.Unicode.Alphabetic
import Munch.Unicode.Extending
import Munch.Unicode.Graphic
import Munch.Unicode.Mark
import Munch.Unicode.Number
import Munch.Unicode.Ranges

/-!
# Classes of characters

The classes that patterns and quoted text ask about.  Each predicate answers for ASCII characters by
a direct comparison and consults a table for the others.
-/

namespace Munch.Unicode

/-- Whether a character is one of the first 128. -/
def isAscii (char : Char) : Bool :=
  char.toNat < 128

/-- The ASCII letters. -/
def isAsciiLetter (char : Char) : Bool :=
  ('a' ≤ char && char ≤ 'z') || ('A' ≤ char && char ≤ 'Z')

/-- The ASCII digits. -/
def isAsciiDigit (char : Char) : Bool :=
  '0' ≤ char && char ≤ '9'

/-- The ASCII letters, digits and the underscore. -/
def isAsciiWord (char : Char) : Bool :=
  isAsciiLetter char || isAsciiDigit char || char == '_'

/-- The ASCII characters that leave blank space: tab, line feed, vertical tab, form feed, carriage
return and space. -/
def isAsciiBlank (char : Char) : Bool :=
  ('\t' ≤ char && char ≤ '\r') || char == ' '

/-- The property `Alphabetic`. -/
def isAlphabetic (char : Char) : Bool :=
  if isAscii char then isAsciiLetter char else inRanges alphabeticRanges char

/-- The decimal digits of every script. -/
def isDecimal (char : Char) : Bool :=
  if isAscii char then isAsciiDigit char else inRanges decimalRanges char

/-- Letters and numbers of every kind. -/
def isAlphanumeric (char : Char) : Bool :=
  isAlphabetic char || isDecimal char || inRanges otherNumberRanges char

/-- The combining marks. -/
def isMark (char : Char) : Bool :=
  inRanges markRanges char

/-- The general category `Pc`. -/
def connectorRanges : List (Nat × Nat) :=
  [(0x5F, 0x5F), (0x203F, 0x2040), (0x2054, 0x2054), (0xFE33, 0xFE34), (0xFE4D, 0xFE4F),
    (0xFF3F, 0xFF3F)]

/-- The two characters that join or separate their neighbours without being seen. -/
def isJoinControl (char : Char) : Bool :=
  char == '\u200C' || char == '\u200D'

/-- The characters of words: letters, marks, decimal digits, connecting punctuation and join
controls. -/
def isWord (char : Char) : Bool :=
  if isAscii char then
    isAsciiWord char
  else
    isAlphabetic char || isMark char || isDecimal char || inRanges connectorRanges char ||
      isJoinControl char

/-- The property `White_Space`. -/
def blankRanges : List (Nat × Nat) :=
  [(0x9, 0xD), (0x20, 0x20), (0x85, 0x85), (0xA0, 0xA0), (0x1680, 0x1680), (0x2000, 0x200A),
    (0x2028, 0x2029), (0x202F, 0x202F), (0x205F, 0x205F), (0x3000, 0x3000)]

/-- The characters that leave blank space. -/
def isBlank (char : Char) : Bool :=
  if isAscii char then isAsciiBlank char else inRanges blankRanges char

/-- The characters that quoted text shows as they are: those that leave a visible mark of their own,
and the space. -/
def isPrintable (char : Char) : Bool :=
  if isAscii char then
    ' ' ≤ char && char ≤ '~'
  else
    inRanges graphicRanges char && !inRanges extendingRanges char

end Munch.Unicode
