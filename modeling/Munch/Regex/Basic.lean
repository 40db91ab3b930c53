import Munch.Regex.Look
import Munch.Text

/-!
# Regular expressions and their matches in order of preference

A regular expression can match a given text in several ways.  `Regex.ends` lists them from the most
to the least preferred: an alternation prefers its left side, and a repetition prefers another round
if it is greedy and none if it is not.  Of two ways that stop at the same place only the preferred
one is kept, since whatever follows could not tell them apart; this also keeps the lists short.
`Regex.find?` is the most preferred way.

A round of a repetition that reads nothing is where preference is delicate: inside such a repetition
every choice carries a guard, and a guard lets a match pass once until the next character is read.
So no match goes in circles, and the first way around is the one that counts.
-/

namespace Munch

/-- A regular expression. -/
inductive Regex where
  /-- Reads nothing. -/
  | empty
  /-- Reads one character of a set. -/
  | oneOf (set : Regex.CharClass)
  /-- Reads nothing, where the condition holds. -/
  | look (condition : Regex.Look)
  /-- Reads nothing, at most once for the same guard until a character is read. -/
  | guard (id : Nat)
  /-- Reads what the body reads and records it. -/
  | group (index : Nat) (body : Regex)
  /-- Reads one part, then the other. -/
  | cat (first second : Regex)
  /-- Reads one of two parts, the first rather than the second. -/
  | alt (first second : Regex)
  /-- Reads the body once or more, rather more often if greedy. -/
  | plus (greedy : Bool) (body : Regex)
  deriving DecidableEq

namespace Regex

/-- A match under way. -/
structure Thread where
  /-- The character before the place reached. -/
  last : Option Char
  /-- The text behind the place reached. -/
  rest : Text
  /-- The number of characters read. -/
  taken : Nat
  /-- What the groups have read, the latest first. -/
  groups : List (Nat × Text)
  /-- The guards passed since the last character was read. -/
  guards : List Nat
  deriving DecidableEq

namespace Thread

/-- A match about to begin. -/
def start (last : Option Char) (rest : Text) : Thread :=
  ⟨last, rest, 0, [], []⟩

/-- Read the next character, if it is in the set. -/
def read (set : CharClass) (thread : Thread) : List Thread :=
  match thread.rest with
  | [] => []
  | next :: rest =>
      if set.contains next then [⟨some next, rest, thread.taken + 1, thread.groups, []⟩] else []

/-- Pass a guard, unless it was passed at this very place. -/
def pass (id : Nat) (thread : Thread) : List Thread :=
  if thread.guards.contains id then [] else [{ thread with guards := id :: thread.guards }]

/-- Record what was read since `entry` as the text of a group. -/
def record (index : Nat) (entry thread : Thread) : Thread :=
  { thread with groups := (index, entry.rest.take (thread.taken - entry.taken)) :: thread.groups }

/-- Whether one of the threads has stopped where `thread` has. -/
def reached (threads : List Thread) (thread : Thread) : Bool :=
  threads.any fun other => other.taken == thread.taken

/-- Put a thread on top of the others, unless its place is taken. -/
def add (threads : List Thread) (thread : Thread) : List Thread :=
  if reached threads thread then threads else thread :: threads

/-- Of the threads that stopped at the same place, the first. -/
def distinct (threads : List Thread) : List Thread :=
  (threads.foldl add []).reverse

/-- The places that one or more rounds lead to from `entry`, where `round` gives those of a single
round.  They are put on top of `found`, the least preferred uppermost.  A place is visited once, and
a round that reads nothing is not followed by another.  As a further round reads a character, `fuel`
is enough if it exceeds the length of the remaining text. -/
def rounds (greedy : Bool) (round : Thread → List Thread) :
    (fuel : Nat) → (entry : Thread) → (found : List Thread) → List Thread
  | 0, _, found => found
  | fuel + 1, entry, found =>
      (round entry).foldl
        (fun found thread =>
          if reached found thread then found
          else if thread.taken = entry.taken then thread :: found
          else if greedy then thread :: rounds greedy round fuel thread found
          else rounds greedy round fuel thread (thread :: found))
        found

end Thread

open Thread in
/-- The matches of an expression that continue a given one, from the most to the least preferred, at
most one for each place. -/
def ends : Regex → Thread → List Thread
  | empty, thread => [thread]
  | oneOf set, thread => read set thread
  | look condition, thread =>
      if condition.holds thread.last thread.rest.head? then [thread] else []
  | guard id, thread => pass id thread
  | group index body, thread => (body.ends thread).map (record index thread)
  | cat first second, thread => distinct ((first.ends thread).flatMap second.ends)
  | alt first second, thread => distinct (first.ends thread ++ second.ends thread)
  | plus greedy body, thread =>
      (rounds greedy body.ends (thread.rest.length + 1) thread []).reverse

/-- The most preferred match of an expression at the start of `rest`, with `last` the character
before it. -/
def find? (regex : Regex) (last : Option Char) (rest : Text) : Option Thread :=
  (regex.ends (Thread.start last rest)).head?

end Regex

end Munch
