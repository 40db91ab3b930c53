/-!
# Scanner states and the rules they admit

A scanner is in one numbered state at a time.  A rule applies either in every state or in the states
of a finite set.  Under the policy `oddInclusive`, a rule of the initial state alone applies in every
odd state as well.

A set is kept as an increasing list without repetitions, so two sets with the same members are equal
and a member is found by halving the list.
-/

namespace Munch

/-- A scanner state. -/
abbrev StateId := Nat

/-- The state in which every scan starts. -/
def initialState : StateId :=
  0

/-- How the states of a rule are compared with the state of the scanner. -/
inductive StatePolicy where
  /-- A rule applies in the states it lists. -/
  | exact
  /-- A rule that lists the initial state alone applies in the odd states too. -/
  | oddInclusive
  deriving DecidableEq

/-- The name of a policy. -/
def StatePolicy.describe : StatePolicy → String
  | exact => "Exact"
  | oddInclusive => "OddStatesInclusive"

/-- The states in which a rule applies. -/
inductive StateSet where
  /-- Every state. -/
  | global
  /-- The listed states. -/
  | only (states : List StateId)
  deriving DecidableEq

namespace StateSet

/-- Put a state into an increasing list, once. -/
def insert (state : StateId) : List StateId → List StateId
  | [] => [state]
  | head :: rest =>
      if state < head then state :: head :: rest
      else if state = head then head :: rest
      else head :: insert state rest

@[simp]
theorem mem_insert {state other : StateId} {states : List StateId} :
    other ∈ insert state states ↔ other = state ∨ other ∈ states := by
  induction states with
  | nil => simp [insert]
  | cons head rest ih =>
      unfold insert
      split
      · simp
      · split
        · rename_i same
          subst same
          simp
        · simp only [List.mem_cons, ih]
          constructor
          · rintro (at_head | at_state | in_rest)
            · exact .inr (.inl at_head)
            · exact .inl at_state
            · exact .inr (.inr in_rest)
          · rintro (at_state | at_head | in_rest)
            · exact .inr (.inl at_state)
            · exact .inl at_head
            · exact .inr (.inr in_rest)

/-- The set of the listed states.  An empty list stands for every state. -/
def ofList (states : List StateId) : StateSet :=
  match states.foldr insert [] with
  | [] => global
  | head :: rest => only (head :: rest)

/-- Whether every state is in the set. -/
def isGlobal : StateSet → Bool
  | global => true
  | only _ => false

/-- Look for a state in an increasing list, in at most the given number of rounds.  A round compares
the state with the middle of the list and goes on with the half on its side. -/
def searchWithin (state : StateId) : (rounds : Nat) → List StateId → Bool
  | 0, _ => false
  | rounds + 1, states =>
      match states.drop (states.length / 2) with
      | [] => false
      | middle :: above =>
          if state < middle then searchWithin state rounds (states.take (states.length / 2))
          else state == middle || searchWithin state rounds above

/-- Whether a state is in an increasing list. -/
def search (state : StateId) (states : List StateId) : Bool :=
  searchWithin state states.length states

/-- Whether a rule for these states applies in `state`. -/
def admits (policy : StatePolicy) (state : StateId) : StateSet → Bool
  | global => true
  | only states =>
      search state states ||
        (policy == .oddInclusive && state % 2 == 1 && states == [initialState])

/-- The members by name. -/
def describe : StateSet → String
  | global => "Global"
  | only states => "Only([" ++ ", ".intercalate (states.map toString) ++ "])"

end StateSet

end Munch
