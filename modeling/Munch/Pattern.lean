import Munch.Regex.Reader
import Munch.Text.Quoted

/-!
# Patterns

A pattern is its text together with the modes it is read under.  `Pattern.compile?` reads it, once
and for all inputs; a malformed pattern is refused there, and so is one that would grow too large.
-/

namespace Munch

/-- The text of a pattern and the modes it is read under. -/
structure Pattern where
  source : String
  /-- Letters match in either case. -/
  caseInsensitive : Bool := false
  /-- `^` and `$` match at the edges of lines. -/
  multiLine : Bool := false
  /-- A dot matches a line feed too. -/
  dotMatchesNewLine : Bool := false
  deriving DecidableEq

/-- What a pattern found: how many characters, and what each group read. -/
structure Finding where
  /-- The number of characters read. -/
  count : Nat
  /-- What the groups read.  Group 0 is the whole; a group that took no part read nothing at all. -/
  groups : List (Option Text)
  deriving DecidableEq

/-- A pattern made ready for use. -/
structure Matcher where
  /-- The expression to match. -/
  regex : Regex
  /-- The number of groups, with the whole match as group 0. -/
  groupCount : Nat
  /-- The names of groups and their numbers. -/
  names : List (String × Nat)
  deriving DecidableEq

namespace Matcher

/-- The matcher of a written expression. -/
def ofExpr (expr : Regex.Expr) : Matcher where
  regex := expr.toRegex
  groupCount := expr.groups.foldl (fun count group => Nat.max count (group.1 + 1)) 1
  names := expr.groups.filterMap fun group => group.2.map fun name => (name, group.1)

/-- The match at the start of `rest`, if there is one, with `last` the character before it. -/
def find? (matcher : Matcher) (last : Option Char) (rest : Text) : Option Finding :=
  (matcher.regex.find? last rest).map fun thread =>
    { count := thread.taken
      groups := some (rest.take thread.taken) ::
        (List.range (matcher.groupCount - 1)).map fun index => thread.groups.lookup (index + 1) }

end Matcher

namespace Pattern

/-- The modes a pattern is read under. -/
def flags (pattern : Pattern) : Regex.Flags where
  insensitive := pattern.caseInsensitive
  multiLine := pattern.multiLine
  dotAll := pattern.dotMatchesNewLine

/-- The greatest number of parts that a pattern may have with its repetitions spelled out. -/
def maxWeight : Nat :=
  100000

/-- The matcher of a pattern, unless the pattern is malformed or too large. -/
def compile? (pattern : Pattern) : Option Matcher := do
  let expr ← Regex.Reader.read? pattern.flags pattern.source.toList
  if expr.weight ≤ maxWeight then some (Matcher.ofExpr expr) else none

/-- The text and the modes by name. -/
def describe (pattern : Pattern) : String :=
  "Pattern \x7b source: " ++ String.ofList (Text.quoted pattern.source.toList) ++
    ", case_insensitive: " ++ toString pattern.caseInsensitive ++
    ", multi_line: " ++ toString pattern.multiLine ++
    ", dot_matches_new_line: " ++ toString pattern.dotMatchesNewLine ++ " \x7d"

end Pattern

end Munch
