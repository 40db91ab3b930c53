import Munch.Table

/-!
# The order of candidates

`Table.Offers` says which candidates a table has at a cursor, without saying how they are found or
in which order.  `Table.mem_candidates_iff` and `Table.candidates_pairwise` characterise the list
that a table gives: it holds exactly the candidates offered, strictly ordered by
`Candidate.Precedes`.

A rule has at most one candidate at a cursor, so candidates can be told apart by their numbers.
-/

namespace Munch

namespace Candidate

variable {τ : Type}

/-- The longer candidate comes first, and of two that are as long the one registered earlier. -/
def Precedes (first second : Candidate τ) : Prop :=
  second.size < first.size ∨ second.size = first.size ∧ first.index < second.index

theorem Precedes.irrefl (candidate : Candidate τ) : ¬ candidate.Precedes candidate := by
  rintro (shorter | ⟨_, later⟩)
  · exact Nat.lt_irrefl _ shorter
  · exact Nat.lt_irrefl _ later

/-- What is put in front of a candidate that is no longer than it also precedes all that this
candidate precedes, provided that it was registered before them. -/
theorem Precedes.of_size_le {inserted head other : Candidate τ}
    (size_le : head.size ≤ inserted.size) (earlier : inserted.index < other.index)
    (precedes : head.Precedes other) : inserted.Precedes other := by
  unfold Precedes at precedes ⊢
  omega

/-- Inserting a candidate that was registered before the others keeps them in order. -/
theorem pairwise_insert {candidate : Candidate τ} {candidates : List (Candidate τ)}
    (ordered : candidates.Pairwise Precedes)
    (earlier : ∀ other ∈ candidates, candidate.index < other.index) :
    (insert candidate candidates).Pairwise Precedes := by
  induction candidates with
  | nil => simp [insert]
  | cons head rest ih =>
      obtain ⟨headFirst, restOrdered⟩ := List.pairwise_cons.mp ordered
      have headLater := earlier head List.mem_cons_self
      have restLater : ∀ other ∈ rest, candidate.index < other.index := fun other member =>
        earlier other (List.mem_cons_of_mem head member)
      unfold insert
      split
      · rename_i size_le
        refine List.pairwise_cons.mpr ⟨?_, ordered⟩
        intro other member
        rcases List.mem_cons.mp member with rfl | member
        · unfold Precedes
          omega
        · exact .of_size_le size_le (restLater other member) (headFirst other member)
      · rename_i longer
        refine List.pairwise_cons.mpr ⟨?_, ih restOrdered restLater⟩
        intro other member
        rcases mem_insert.mp member with rfl | member
        · exact .inl (Nat.lt_of_not_le longer)
        · exact headFirst other member

/-- Sorting puts candidates that are listed by number in order. -/
theorem pairwise_sort {candidates : List (Candidate τ)}
    (numbered : candidates.Pairwise fun first second => first.index < second.index) :
    (sort candidates).Pairwise Precedes := by
  induction candidates with
  | nil => exact .nil
  | cons head rest ih =>
      obtain ⟨headFirst, restNumbered⟩ := List.pairwise_cons.mp numbered
      change (insert head (sort rest)).Pairwise Precedes
      apply pairwise_insert (ih restNumbered)
      intro other member
      exact headFirst other (mem_sort.mp member)

end Candidate

namespace Table

variable {τ : Type}

/-- A candidate of a table: the match at a cursor of an eligible rule that applies in a state. -/
structure Offers (table : Table τ) (cursor : Cursor) (state : StateId) (eligible : Nat → Bool)
    (candidate : Candidate τ) : Prop where
  registered : table.rules[candidate.index]? = some candidate.rule
  admitted : candidate.rule.states.admits table.policy state = true
  eligible : eligible candidate.index = true
  matching : candidate.rule.match? cursor = some candidate.matched

variable {table : Table τ} {cursor : Cursor} {state : StateId} {eligible : Nat → Bool}

/-- A rule has one match at most. -/
theorem Offers.eq_of_index_eq {first second : Candidate τ}
    (firstOffered : table.Offers cursor state eligible first)
    (secondOffered : table.Offers cursor state eligible second)
    (index_eq : first.index = second.index) : first = second := by
  rcases first with ⟨index, firstRule, firstMatched⟩
  rcases second with ⟨_, secondRule, secondMatched⟩
  cases index_eq
  have rule_eq : firstRule = secondRule :=
    Option.some.inj (firstOffered.registered.symm.trans secondOffered.registered)
  subst secondRule
  have matched_eq : firstMatched = secondMatched :=
    Option.some.inj (firstOffered.matching.symm.trans secondOffered.matching)
  subst secondMatched
  rfl

/-- The list of candidates neither misses one nor has another. -/
theorem mem_candidates_iff {candidate : Candidate τ} :
    candidate ∈ table.candidates cursor state eligible ↔
      table.Offers cursor state eligible candidate := by
  unfold candidates
  simp only [Candidate.mem_sort, List.mem_filterMap, Prod.exists,
    List.mk_mem_zipIdx_iff_getElem?]
  constructor
  · rintro ⟨rule, index, registered, found⟩
    split at found
    · rename_i applies
      obtain ⟨admitted, eligible⟩ := Bool.and_eq_true_iff.mp applies
      obtain ⟨matched, matching, rfl⟩ := Option.map_eq_some_iff.mp found
      exact ⟨registered, admitted, eligible, matching⟩
    · contradiction
  · rintro ⟨registered, admitted, eligible, matching⟩
    refine ⟨candidate.rule, candidate.index, registered, ?_⟩
    rw [if_pos (by rw [admitted, eligible]; rfl), matching]
    rfl

/-- The candidates of a table are strictly ordered. -/
theorem candidates_pairwise (table : Table τ) (cursor : Cursor) (state : StateId)
    (eligible : Nat → Bool) :
    (table.candidates cursor state eligible).Pairwise Candidate.Precedes := by
  apply Candidate.pairwise_sort
  have numbered : table.rules.zipIdx.Pairwise fun first second => first.2 < second.2 := by
    have increasing := List.pairwise_lt_range' (s := 0) (n := table.rules.length)
    rw [← List.zipIdx_map_snd 0 table.rules] at increasing
    exact List.pairwise_map.mp increasing
  refine numbered.filterMap _ ?_
  rintro ⟨firstRule, first⟩ ⟨secondRule, second⟩ less candidate found other otherFound
  dsimp only at found otherFound
  split at found <;> split at otherFound <;> try contradiction
  obtain ⟨_, _, rfl⟩ := Option.map_eq_some_iff.mp found
  obtain ⟨_, _, rfl⟩ := Option.map_eq_some_iff.mp otherFound
  exact less

end Table

end Munch
