/-!
# Modes of reading a pattern

A pattern is read under modes that it can switch itself, for the rest of the enclosing group by
`(?i)` or for one group by `(?i:…)`.  A minus sign turns off the modes named after it.
-/

namespace Munch.Regex

/-- The modes under which a pattern is read. -/
structure Flags where
  /-- `i`: letters match in either case. -/
  insensitive : Bool := false
  /-- `m`: `^` and `$` match at the edges of lines. -/
  multiLine : Bool := false
  /-- `s`: a dot matches a line feed too. -/
  dotAll : Bool := false
  /-- `U`: repetitions are lazy, and a question mark behind one makes it greedy. -/
  swapGreed : Bool := false
  /-- `x`: blank space and comments in the pattern mean nothing. -/
  verbose : Bool := false
  /-- `R`: a carriage return ends a line as well as a line feed. -/
  carriage : Bool := false
  /-- `u`, turned off: the named classes and the cases of letters are those of ASCII. -/
  ascii : Bool := false
  deriving DecidableEq

namespace Flags

/-- Turn on or off the mode that a letter stands for. -/
def set? (flags : Flags) (letter : Char) (value : Bool) : Option Flags :=
  if letter = 'i' then some { flags with insensitive := value }
  else if letter = 'm' then some { flags with multiLine := value }
  else if letter = 's' then some { flags with dotAll := value }
  else if letter = 'U' then some { flags with swapGreed := value }
  else if letter = 'x' then some { flags with verbose := value }
  else if letter = 'R' then some { flags with carriage := value }
  else if letter = 'u' then some { flags with ascii := !value }
  else none

/-- Apply the letters of a mode switch.  No sign may occur twice, a minus sign may not come last, and
every letter must stand for a mode. -/
def switch? (flags : Flags) : (letters : List Char) → (value : Bool) → Option Flags
  | [], _ => some flags
  | letter :: letters, value =>
      if letters.contains letter then none
      else if letter = '-' then
        if letters.isEmpty then none else flags.switch? letters false
      else do (← flags.set? letter value).switch? letters value

end Flags

end Munch.Regex
