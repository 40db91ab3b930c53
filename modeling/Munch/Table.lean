import Munch.Action
import Munch.Cursor
import Munch.Pattern

/-!
# Rules and rule tables

A rule has a pattern, an action and the states in which it applies.  A table is a list of rules in
order of registration, with the policy by which their states are compared with the scanner's.

At a cursor, the candidates of a table are the matches of its rules, the longest first and those of
equal length in order of registration.
-/

namespace Munch

/-- A rule of a table. -/
structure Rule (τ : Type) where
  pattern : Pattern
  matcher : Matcher
  states : StateSet
  action : Action τ

namespace Rule

variable {τ : Type}

/-- The match of a rule at a cursor. -/
def match? (rule : Rule τ) (cursor : Cursor) : Option Match :=
  (rule.matcher.find? cursor.passed.head? cursor.rest).map fun finding =>
    { before := cursor.passed
      text := cursor.rest.take finding.count
      following := cursor.rest.drop finding.count
      position := cursor.position
      groups := finding.groups
      names := rule.matcher.names }

/-- The pattern and the states by name. -/
def describe (rule : Rule τ) : String :=
  "Rule \x7b pattern: " ++ rule.pattern.describe ++ ", states: " ++ rule.states.describe ++
    ", .. \x7d"

end Rule

/-- A rule whose pattern matches. -/
structure Candidate (τ : Type) where
  /-- The number of the rule in its table. -/
  index : Nat
  rule : Rule τ
  matched : Match

namespace Candidate

variable {τ : Type}

/-- The number of bytes matched. -/
def size (candidate : Candidate τ) : Nat :=
  candidate.matched.size

/-- Put a candidate in front of those that are no longer than it. -/
def insert (candidate : Candidate τ) : List (Candidate τ) → List (Candidate τ)
  | [] => [candidate]
  | head :: rest =>
      if head.size ≤ candidate.size then candidate :: head :: rest
      else head :: insert candidate rest

/-- The candidates with the longest first.  Those of equal length keep their order. -/
def sort (candidates : List (Candidate τ)) : List (Candidate τ) :=
  candidates.foldr insert []

@[simp]
theorem mem_insert {candidate other : Candidate τ} {candidates : List (Candidate τ)} :
    other ∈ insert candidate candidates ↔ other = candidate ∨ other ∈ candidates := by
  induction candidates with
  | nil => simp [insert]
  | cons head rest ih =>
      unfold insert
      split
      · simp
      · simp only [List.mem_cons, ih]
        constructor
        · rintro (at_head | inserted | in_rest)
          · exact .inr (.inl at_head)
          · exact .inl inserted
          · exact .inr (.inr in_rest)
        · rintro (inserted | at_head | in_rest)
          · exact .inr (.inl inserted)
          · exact .inl at_head
          · exact .inr (.inr in_rest)

/-- Sorting neither adds nor drops a candidate. -/
@[simp]
theorem mem_sort {candidate : Candidate τ} {candidates : List (Candidate τ)} :
    candidate ∈ sort candidates ↔ candidate ∈ candidates := by
  induction candidates with
  | nil => simp [sort]
  | cons head rest ih =>
      change candidate ∈ insert head (sort rest) ↔ _
      rw [mem_insert, ih, List.mem_cons]

end Candidate

/-- Rules in order of registration. -/
structure Table (τ : Type) where
  rules : List (Rule τ) := []
  policy : StatePolicy := .exact

namespace Table

variable {τ : Type}

/-- The number of rules. -/
def size (table : Table τ) : Nat :=
  table.rules.length

/-- The name of the rule with the given number. -/
def ruleName (index : Nat) : String :=
  "#" ++ toString index

/-- Add a rule behind the others.  The answer is the number of the new rule, which is the number of
rules before it, or why there is no new rule; in that case the table stays as it was. -/
def register (table : Table τ) (states : StateSet) (pattern : Pattern) (action : Action τ) :
    Except LexError Nat × Table τ :=
  match pattern.compile? with
  | some matcher =>
      (.ok table.size, { table with rules := table.rules ++ [⟨pattern, matcher, states, action⟩] })
  | none => (.error (.malformedRule table.size pattern.source), table)

/-- The matches at a cursor of the eligible rules that apply in a state. -/
def candidates (table : Table τ) (cursor : Cursor) (state : StateId) (eligible : Nat → Bool) :
    List (Candidate τ) :=
  Candidate.sort <| table.rules.zipIdx.filterMap fun (rule, index) =>
    if rule.states.admits table.policy state && eligible index then
      (rule.match? cursor).map fun matched => ⟨index, rule, matched⟩
    else
      none

/-- Whether some rule applies in a state. -/
def hasRuleFor (table : Table τ) (state : StateId) : Bool :=
  table.rules.any fun rule => rule.states.admits table.policy state

/-- The matches at a byte offset of the rules that apply in a state.  There are none inside a
character or one byte behind the end.  Further on no rule can be asked, and so there is no answer
unless no rule applies. -/
def candidatesAt? (table : Table τ) (input : Text) (offset : Nat) (state : StateId) :
    Option (List (Candidate τ)) :=
  match Cursor.at? input offset with
  | some cursor => some (table.candidates cursor state fun _ => true)
  | none => if offset ≤ Text.size input + 1 || !table.hasRuleFor state then some [] else none

end Table

/-- A table under construction.  After the first malformed pattern no more rules are added, and that
error is what comes of the construction. -/
structure Builder (τ : Type) where
  table : Table τ := {}
  error : Option LexError := none

namespace Builder

variable {τ κ : Type}

/-- Set the policy of the table. -/
def policy (builder : Builder τ) (policy : StatePolicy) : Builder τ :=
  { builder with table := { builder.table with policy := policy } }

/-- Add a rule that applies in the given states. -/
def ruleIn (builder : Builder τ) (states : StateSet) (pattern : Pattern) (action : Action τ) :
    Builder τ :=
  match builder.error with
  | some _ => builder
  | none =>
      match builder.table.register states pattern action with
      | (.ok _, table) => { builder with table := table }
      | (.error error, table) => { table := table, error := some error }

/-- Add a rule that applies in every state. -/
def rule (builder : Builder τ) (pattern : Pattern) (action : Action τ) : Builder τ :=
  builder.ruleIn .global pattern action

/-- Add a rule whose matches in the given states are passed over. -/
def skipIn (builder : Builder τ) (states : StateSet) (pattern : Pattern) : Builder τ :=
  builder.ruleIn states pattern Action.skip

/-- Add a rule whose matches are passed over. -/
def skip (builder : Builder τ) (pattern : Pattern) : Builder τ :=
  builder.skipIn .global pattern

/-- Add a rule whose matches in the given states are tokens. -/
def tokenIn (builder : Builder (Token κ)) (states : StateSet) (pattern : Pattern) (kind : κ) :
    Builder (Token κ) :=
  builder.ruleIn states pattern (Action.token kind)

/-- Add a rule whose matches are tokens. -/
def token (builder : Builder (Token κ)) (pattern : Pattern) (kind : κ) : Builder (Token κ) :=
  builder.tokenIn .global pattern kind

/-- The finished table, or the first error. -/
def build (builder : Builder τ) : Except LexError (Table τ) :=
  match builder.error with
  | some error => .error error
  | none => .ok builder.table

end Builder

end Munch
