import Munch.Regex.Basic

/-!
# Written expressions

An `Expr` is a pattern as it was written, with counted repetitions and named groups.  `Expr.toRegex`
unfolds the repetitions into copies, choices and loops.

A repeated part that can only read nothing is taken at most once.  A part repeated zero times leaves
no trace, not even its groups.
-/

namespace Munch.Regex

/-- A written expression. -/
inductive Expr where
  /-- Reads nothing. -/
  | empty
  /-- Reads one character of a set. -/
  | oneOf (set : CharClass)
  /-- Reads nothing, where the condition holds. -/
  | look (condition : Look)
  /-- Reads what the body reads and records it under a number and perhaps a name. -/
  | group (index : Nat) (name : Option String) (body : Expr)
  /-- Reads one part, then the other. -/
  | cat (first second : Expr)
  /-- Reads one of two parts, the first rather than the second. -/
  | alt (first second : Expr)
  /-- Reads the body at least `min` times and at most `max` times, if that is bounded. -/
  | times (min : Nat) (max : Option Nat) (greedy : Bool) (body : Expr)
  deriving DecidableEq

namespace Expr

/-- Whether the expression can read nothing. -/
def canBeEmpty : Expr → Bool
  | empty => true
  | oneOf _ => false
  | look _ => true
  | group _ _ body => body.canBeEmpty
  | cat first second => first.canBeEmpty && second.canBeEmpty
  | alt first second => first.canBeEmpty || second.canBeEmpty
  | times min max _ body => min == 0 || max == some 0 || body.canBeEmpty

/-- Whether the expression can read nothing but the empty text. -/
def isEmpty : Expr → Bool
  | empty => true
  | oneOf _ => false
  | look _ => true
  | group _ _ body => body.isEmpty
  | cat first second => first.isEmpty && second.isEmpty
  | alt first second => first.isEmpty && second.isEmpty
  | times _ max _ body => max == some 0 || body.isEmpty

/-- The numbers and names of the groups that can take part in a match. -/
def groups : Expr → List (Nat × Option String)
  | empty => []
  | oneOf _ => []
  | look _ => []
  | group index name body => (index, name) :: body.groups
  | cat first second => first.groups ++ second.groups
  | alt first second => first.groups ++ second.groups
  | times _ max _ body => if max == some 0 then [] else body.groups

/-- The number of parts of the expression with its repetitions spelled out. -/
def weight : Expr → Nat
  | empty => 1
  | oneOf _ => 1
  | look _ => 1
  | group _ _ body => body.weight + 1
  | cat first second => first.weight + second.weight
  | alt first second => first.weight + second.weight + 1
  | times min max _ body => (body.weight + 1) * Nat.max (min + 1) (max.getD 0)

/-- A supply of fresh guards. -/
abbrev Fresh := StateM Nat

/-- A guard that no other part uses. -/
def freshGuard : Fresh Regex :=
  modifyGet fun next => (.guard next, next + 1)

/-- A choice, behind a guard of its own if it is `guarded`. -/
def choice (guarded : Bool) (first second : Regex) : Fresh Regex := do
  if guarded then
    return .cat (← freshGuard) (.alt first second)
  else
    return .alt first second

/-- A part that may be left out. -/
def optional (guarded greedy : Bool) (body : Regex) : Fresh Regex :=
  if greedy then choice guarded body .empty else choice guarded .empty body

/-- A loop around a part.  If the part can read nothing, the end of each round is guarded. -/
def loop (greedy : Bool) (nullable : Bool) (part : Fresh Regex) : Fresh Regex := do
  let body ← part
  if nullable then
    return .plus greedy (.cat body (← freshGuard))
  else
    return .plus greedy body

/-- Any number of rounds of a part that reads something.  One guard stands at the entry and at the end
of each round, since both are the same choice: to take another round or not. -/
def star (greedy : Bool) (guard : Regex) (body : Regex) : Fresh Regex := do
  return .cat guard (← optional false greedy (.plus greedy (.cat body guard)))

/-- `front` and `count` copies of a part behind it. -/
def copies (part : Fresh Regex) (front : Regex) : (count : Nat) → Fresh Regex
  | 0 => pure front
  | count + 1 => do
      let longer ← copies part front count
      return .cat longer (← part)

/-- At most `count` copies of a part, rather fewer than more.  A copy is left out only with all that
follow it. -/
def fewest (guarded : Bool) (part : Fresh Regex) : (count : Nat) → Fresh Regex
  | 0 => pure .empty
  | 1 => do optional guarded false (← part)
  | count + 2 => do
      let first ← part
      optional guarded false (.cat first (← fewest guarded part (count + 1)))

/-- `front` and at most `count` copies of a part behind it.  If many are preferred, each copy may be
left out on its own: whatever is reached by leaving out one copy and taking a later one is reached
before by taking the first. -/
def upTo (guarded greedy : Bool) (part : Fresh Regex) (front : Regex) (count : Nat) :
    Fresh Regex :=
  if count = 0 then
    pure front
  else if greedy then
    copies (part >>= optional guarded true) front count
  else do
    return .cat front (← fewest guarded part count)

/-- A repetition spelled out.  `part` makes a copy of the body, and `round` a copy for the inside of
a loop. -/
def repeated (guarded greedy nullable : Bool) (min : Nat) (max : Option Nat)
    (part round : Fresh Regex) : Fresh Regex :=
  match min, max with
  | 0, none => do
      if guarded && !nullable then
        star greedy (← freshGuard) (← round)
      else
        optional guarded greedy (← loop greedy nullable round)
  | 1, none => loop greedy nullable round
  | count + 2, none => do
      let front ← copies part (← part) count
      return .cat front (← loop greedy nullable round)
  | 0, some 0 => pure .empty
  | 0, some (max + 1) => do
      if greedy then
        upTo guarded true part (← optional guarded true (← part)) max
      else
        fewest guarded part (max + 1)
  | count + 1, some max => do
      upTo guarded greedy part (← copies part (← part) count) (max - (count + 1))

/-- The regular expression for a written one.  Inside a loop around a part that can read nothing,
choices are `guarded`. -/
def lower : Expr → (guarded : Bool) → Fresh Regex
  | empty, _ => pure .empty
  | oneOf set, _ => pure (.oneOf set)
  | look condition, _ => pure (.look condition)
  | group index _ body, guarded => do return .group index (← body.lower guarded)
  | cat first second, guarded => do
      let left ← first.lower guarded
      return .cat left (← second.lower guarded)
  | alt first second, guarded => do
      let left ← first.lower guarded
      choice guarded left (← second.lower guarded)
  | times min max greedy body, guarded =>
      let part := body.lower guarded
      if max == some 0 then
        pure .empty
      else if body.isEmpty then
        repeated guarded greedy true (Nat.min min 1) (some 1) part part
      else
        repeated guarded greedy body.canBeEmpty min max part
          (body.lower (guarded || body.canBeEmpty))

/-- The regular expression for a written one. -/
def toRegex (expr : Expr) : Regex :=
  (expr.lower false 0).1

end Expr

end Munch.Regex
