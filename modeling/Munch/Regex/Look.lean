import Munch.Regex.CharClass

/-!
# Conditions on a place

A pattern can ask about the place it has reached without reading anything: whether the text or a line
starts or ends there, and whether a word does.  Each answer needs the two neighbouring characters
only.
-/

namespace Munch.Regex

/-- A condition on the edges of words. -/
inductive WordEdge where
  /-- A word starts or ends here. -/
  | boundary
  /-- No word starts or ends here. -/
  | inside
  /-- A word starts here. -/
  | start
  /-- A word ends here. -/
  | stop
  /-- No word character stands before. -/
  | startHalf
  /-- No word character follows. -/
  | stopHalf
  deriving DecidableEq

/-- Whether the condition holds, given whether a word character stands before and behind. -/
def WordEdge.holds : WordEdge → Bool → Bool → Bool
  | boundary, before, behind => before != behind
  | inside, before, behind => before == behind
  | start, before, behind => !before && behind
  | stop, before, behind => before && !behind
  | startHalf, before, _ => !before
  | stopHalf, _, behind => !behind

/-- A condition on a place. -/
inductive Look where
  | textStart
  | textEnd
  /-- A line starts here; with `carriage`, a carriage return ends a line too. -/
  | lineStart (carriage : Bool)
  /-- A line ends here; with `carriage`, a carriage return ends a line too. -/
  | lineEnd (carriage : Bool)
  /-- A condition on words over the given characters. -/
  | word (edge : WordEdge) (alphabet : Property)
  deriving DecidableEq

/-- Whether the condition holds between the character `last` and the character `next`, of which the
first is missing at the start of the text and the second at its end. -/
def Look.holds (last next : Option Char) : Look → Bool
  | textStart => last.isNone
  | textEnd => next.isNone
  | lineStart carriage =>
      last.isNone || last == some '\n' || (carriage && last == some '\r' && next != some '\n')
  | lineEnd carriage =>
      if carriage then
        next.isNone || next == some '\r' || (next == some '\n' && last != some '\r')
      else
        next.isNone || next == some '\n'
  | word edge alphabet => edge.holds (last.any alphabet.holds) (next.any alphabet.holds)

end Munch.Regex
