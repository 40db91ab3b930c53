import Mathlib.Data.List.Sort
import Munch.StateSet

/-!
# Which states a set admits

The states of a rule are given as a list, in any order and with any repetitions, and kept as an
increasing list.  An increasing list is determined by its members, so nothing but the members of the
given list matters; `StateSet.search` finds them, because a state that is below the middle of an
increasing list is not above it.

From these two facts follows which states a set admits under either policy.
-/

namespace Munch

namespace StateSet

variable {state : StateId} {states others : List StateId} {rounds : Nat}

/-! ## Increasing lists -/

theorem pairwise_insert (state : StateId) (increasing : states.Pairwise (· < ·)) :
    (insert state states).Pairwise (· < ·) := by
  induction states with
  | nil => exact List.pairwise_singleton _ _
  | cons head rest ih =>
      obtain ⟨above, increasing_rest⟩ := List.pairwise_cons.mp increasing
      unfold insert
      split
      · rename_i below
        apply List.pairwise_cons.mpr
        refine ⟨?_, increasing⟩
        intro other member
        rcases List.mem_cons.mp member with rfl | member
        · exact below
        · exact Nat.lt_trans below (above other member)
      · rename_i not_below
        split
        · exact increasing
        · rename_i different
          apply List.pairwise_cons.mpr
          refine ⟨?_, ih increasing_rest⟩
          intro other member
          rcases mem_insert.mp member with rfl | member
          · exact Nat.lt_of_le_of_ne (Nat.le_of_not_lt not_below) (Ne.symm different)
          · exact above other member

theorem pairwise_foldr_insert (states : List StateId) :
    (states.foldr insert []).Pairwise (· < ·) := by
  induction states with
  | nil => exact List.Pairwise.nil
  | cons head rest ih => exact pairwise_insert head ih

@[simp]
theorem mem_foldr_insert : state ∈ states.foldr insert [] ↔ state ∈ states := by
  induction states with
  | nil => rfl
  | cons head rest ih => rw [List.foldr_cons, mem_insert, ih, List.mem_cons]

/-- An increasing list with the given members is the one that they are kept as. -/
theorem foldr_insert_eq_iff (increasing : others.Pairwise (· < ·)) :
    states.foldr insert [] = others ↔ ∀ state, state ∈ states ↔ state ∈ others := by
  constructor
  · rintro rfl state
    exact mem_foldr_insert.symm
  · intro members
    apply List.Pairwise.eq_of_mem_iff (pairwise_foldr_insert states) increasing
    intro state
    rw [mem_foldr_insert, members]

theorem foldr_insert_eq_nil_iff : states.foldr insert [] = [] ↔ states = [] := by
  rw [foldr_insert_eq_iff List.Pairwise.nil, List.eq_nil_iff_forall_not_mem]
  simp

/-- Only repetitions of one state are kept as that state alone. -/
theorem foldr_insert_eq_singleton_iff :
    states.foldr insert [] = [state] ↔ states ≠ [] ∧ ∀ listed ∈ states, listed = state := by
  rw [foldr_insert_eq_iff (List.pairwise_singleton _ _)]
  constructor
  · intro members
    have member : state ∈ states := (members state).mpr (List.mem_singleton_self state)
    refine ⟨List.ne_nil_of_mem member, ?_⟩
    intro listed here
    exact List.mem_singleton.mp ((members listed).mp here)
  · rintro ⟨nonempty, same⟩ listed
    obtain ⟨first, member⟩ := List.exists_mem_of_ne_nil states nonempty
    rw [List.mem_singleton]
    constructor
    · exact same listed
    · rintro rfl
      rwa [← same first member]

/-! ## Searching -/

/-- A state below the middle of an increasing list is in the half before it, if at all; any other is
the middle or in the half behind it. -/
theorem mem_halves_iff {lower above : List StateId} {middle : StateId}
    (increasing : (lower ++ middle :: above).Pairwise (· < ·)) :
    state ∈ lower ++ middle :: above ↔
      if state < middle then state ∈ lower else state = middle ∨ state ∈ above := by
  obtain ⟨_, upper_increasing, across⟩ := List.pairwise_append.mp increasing
  obtain ⟨above_middle, _⟩ := List.pairwise_cons.mp upper_increasing
  rw [List.mem_append, List.mem_cons]
  split
  · rename_i below
    constructor
    · rintro (in_lower | at_middle | in_above)
      · exact in_lower
      · exact absurd at_middle (Nat.ne_of_lt below)
      · exact absurd (above_middle state in_above) (Nat.lt_asymm below)
    · exact .inl
  · rename_i not_below
    constructor
    · rintro (in_lower | in_upper)
      · exact absurd (across state in_lower middle List.mem_cons_self) not_below
      · exact in_upper
    · exact .inr

/-- As many rounds as there are states are enough: each of them leaves fewer states to look at. -/
theorem searchWithin_eq_true_iff (increasing : states.Pairwise (· < ·))
    (enough : states.length ≤ rounds) :
    searchWithin state rounds states = true ↔ state ∈ states := by
  induction rounds generalizing states with
  | zero =>
      have nothing : states = [] := List.eq_nil_of_length_eq_zero (Nat.le_zero.mp enough)
      simp [searchWithin, nothing]
  | succ rounds ih =>
      rw [searchWithin]
      split
      · rename_i upper_eq
        have nothing : states = [] := by
          have short := List.drop_eq_nil_iff.mp upper_eq
          exact List.eq_nil_of_length_eq_zero (by omega)
        simp [nothing]
      · rename_i middle above upper_eq
        have halves : states.take (states.length / 2) ++ middle :: above = states := by
          rw [← upper_eq, List.take_append_drop]
        have lengths := congrArg List.length halves
        rw [List.length_append, List.length_cons] at lengths
        have parts : (states.take (states.length / 2) ++ middle :: above).Pairwise (· < ·) := by
          rwa [halves]
        obtain ⟨lower_increasing, upper_increasing, _⟩ := List.pairwise_append.mp parts
        have above_increasing := (List.pairwise_cons.mp upper_increasing).2
        have members : state ∈ states ↔ if state < middle then
            state ∈ states.take (states.length / 2) else state = middle ∨ state ∈ above := by
          rw [← mem_halves_iff parts, halves]
        rw [members]
        split
        · exact ih lower_increasing (by omega)
        · rw [Bool.or_eq_true, beq_iff_eq, ih above_increasing (by omega)]

/-- In an increasing list, a state is found exactly if it is there. -/
theorem search_eq_true_iff (increasing : states.Pairwise (· < ·)) :
    search state states = true ↔ state ∈ states :=
  searchWithin_eq_true_iff increasing (Nat.le_refl _)

/-! ## Sets of states -/

/-- The empty list stands for every state, any other list for its members in increasing order. -/
theorem ofList_eq (states : List StateId) :
    ofList states = if states = [] then global else only (states.foldr insert []) := by
  unfold ofList
  split
  · rename_i kept_eq
    rw [if_pos (foldr_insert_eq_nil_iff.mp kept_eq)]
  · rename_i kept_eq
    have nonempty : states ≠ [] := by
      rintro rfl
      contradiction
    rw [if_neg nonempty, kept_eq]

/-- No list stands for a set without states. -/
theorem ofList_ne_only_nil (states : List StateId) : ofList states ≠ only [] := by
  rw [ofList_eq]
  split
  · exact StateSet.noConfusion
  · rename_i nonempty
    intro empty
    exact nonempty (foldr_insert_eq_nil_iff.mp (only.inj empty))

/-- Two lists stand for the same set exactly if they have the same members. -/
theorem ofList_eq_ofList_iff :
    ofList states = ofList others ↔ ∀ state, state ∈ states ↔ state ∈ others := by
  have kept : ofList states = ofList others ↔
      states.foldr insert [] = others.foldr insert [] := by
    unfold ofList
    cases states.foldr insert [] with
    | nil => cases others.foldr insert [] <;> simp
    | cons head rest => cases others.foldr insert [] <;> simp
  rw [kept, foldr_insert_eq_iff (pairwise_foldr_insert others)]
  simp only [mem_foldr_insert]

/-- A set admits its members, and every state if none is listed.  Under the policy for odd states, a
set of the initial state alone admits the odd states too. -/
theorem admits_ofList_iff {policy : StatePolicy} :
    (ofList states).admits policy state = true ↔
      (states = [] ∨ state ∈ states) ∨
        policy = .oddInclusive ∧ state % 2 = 1 ∧ states ≠ [] ∧
          ∀ listed ∈ states, listed = initialState := by
  rw [ofList_eq]
  split
  · rename_i empty
    simp [admits, empty]
  · rename_i nonempty
    rw [← foldr_insert_eq_singleton_iff]
    simp only [admits, Bool.or_eq_true, Bool.and_eq_true, beq_iff_eq, nonempty, false_or,
      search_eq_true_iff (pairwise_foldr_insert states), mem_foldr_insert, and_assoc]

/-- A set depends on the members of the list that it is made from, and on nothing else; it is never
kept as an empty list; under the exact policy it admits its members, or every state if none is
listed; and under the policy for odd states it also admits these, if the initial state is listed and
no other. -/
theorem ofList_eq_iff_and_admits_iff (states : List StateId) :
    (∀ others, ofList states = ofList others ↔ ∀ state, state ∈ states ↔ state ∈ others) ∧
      ofList states ≠ only [] ∧
      ∀ state,
        ((ofList states).admits .exact state = true ↔ states = [] ∨ state ∈ states) ∧
        ((ofList states).admits .oddInclusive state = true ↔
          (states = [] ∨ state ∈ states) ∨
            state % 2 = 1 ∧ states ≠ [] ∧ ∀ listed ∈ states, listed = initialState) := by
  refine ⟨fun others => ofList_eq_ofList_iff, ofList_ne_only_nil states, ?_⟩
  intro state
  constructor
  · simp [admits_ofList_iff]
  · simp [admits_ofList_iff]

example : ofList [4, 0, 4] = only [0, 4] ∧ (ofList [4, 0, 4]).admits .oddInclusive 5 = false ∧
    (ofList [0, 0]).admits .oddInclusive 5 = true := by
  decide

end StateSet

end Munch
