import Munch.Unicode.Classes
import Munch.Unicode.Folding

/-!
# Sets of characters

The sets that a pattern can name: ranges, named properties, and what the set operations make of
them.  A set is kept as it was written and asked about one character at a time.
-/

namespace Munch.Regex

/-- A named property of characters. -/
inductive Property where
  | alphabetic
  | decimal
  | mark
  | blank
  | word
  | asciiDecimal
  | asciiBlank
  | asciiWord
  deriving DecidableEq

/-- Whether a character has the property. -/
def Property.holds : Property → Char → Bool
  | alphabetic => Unicode.isAlphabetic
  | decimal => Unicode.isDecimal
  | mark => Unicode.isMark
  | blank => Unicode.isBlank
  | word => Unicode.isWord
  | asciiDecimal => Unicode.isAsciiDigit
  | asciiBlank => Unicode.isAsciiBlank
  | asciiWord => Unicode.isAsciiWord

/-- A set of characters. -/
inductive CharClass where
  /-- No character. -/
  | empty
  /-- The characters from `low` to `high`. -/
  | range (low high : Char)
  /-- The characters with a property. -/
  | property (named : Property)
  /-- The characters in at least one of two sets. -/
  | union (left right : CharClass)
  /-- The characters in both of two sets. -/
  | inter (left right : CharClass)
  /-- The characters in the first set and not in the second. -/
  | diff (left right : CharClass)
  /-- The characters in exactly one of two sets. -/
  | symmDiff (left right : CharClass)
  /-- The characters outside a set. -/
  | compl (set : CharClass)
  /-- The characters that differ at most in case from one in the set. -/
  | folded (set : CharClass)
  /-- The characters that are in the set or are an ASCII letter whose other case is. -/
  | foldedAscii (set : CharClass)
  deriving DecidableEq

namespace CharClass

/-- An ASCII letter and its other case; any other character alone. -/
def asciiVariants (char : Char) : List Char :=
  if 'a' ≤ char ∧ char ≤ 'z' then [char, Char.ofNat (char.toNat - 32)]
  else if 'A' ≤ char ∧ char ≤ 'Z' then [char, Char.ofNat (char.toNat + 32)]
  else [char]

/-- Whether a character is in the set. -/
def contains : CharClass → Char → Bool
  | empty, _ => false
  | range low high, char => low ≤ char && char ≤ high
  | property named, char => named.holds char
  | union left right, char => left.contains char || right.contains char
  | inter left right, char => left.contains char && right.contains char
  | diff left right, char => left.contains char && !right.contains char
  | symmDiff left right, char => left.contains char != right.contains char
  | compl set, char => !set.contains char
  | folded set, char => (Unicode.caseVariants char).any set.contains
  | foldedAscii set, char => (asciiVariants char).any set.contains

/-- The set of one character. -/
def single (char : Char) : CharClass :=
  range char char

/-- Every character. -/
def any : CharClass :=
  compl empty

/-- The characters of a list of ranges. -/
def ofRanges (ranges : List (Char × Char)) : CharClass :=
  ranges.foldr (fun bounds rest => union (range bounds.1 bounds.2) rest) empty

end CharClass

end Munch.Regex
