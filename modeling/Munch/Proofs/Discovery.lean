import Mathlib.Data.List.Sort
import Munch.Proofs.Candidates

/-!
# Finding candidates

At an offset between two characters of an input, the candidates of a table are told by the table and
the text on both sides of the offset: `Table.Matches` says which rule matches there and how far.

The candidates are strictly ordered, and a strictly ordered list is determined by its members.  So
leaving rules out before the candidates are gathered and sorted, as a scan does with the rules that
it has tried, comes to the same as leaving out their candidates from the list of all.
-/

namespace Munch

/-! ## The order -/

namespace Candidate

variable {τ : Type}

instance : Std.Irrefl (Precedes (τ := τ)) :=
  ⟨Precedes.irrefl⟩

instance : Std.Antisymm (Precedes (τ := τ)) where
  antisymm first second ahead behind := by
    unfold Precedes at ahead behind
    omega

end Candidate

namespace Table

variable {τ : Type} {table : Table τ} {cursor : Cursor} {state : StateId} {eligible : Nat → Bool}

/-- The candidates of the eligible rules are the eligible ones of all candidates. -/
theorem offers_iff_eligible {candidate : Candidate τ} :
    table.Offers cursor state eligible candidate ↔
      table.Offers cursor state (fun _ => true) candidate ∧ eligible candidate.index = true := by
  constructor
  · rintro ⟨registered, admitted, eligible, matching⟩
    exact ⟨⟨registered, admitted, rfl, matching⟩, eligible⟩
  · rintro ⟨⟨registered, admitted, _, matching⟩, eligible⟩
    exact ⟨registered, admitted, eligible, matching⟩

/-- Leaving out rules before sorting is leaving out their candidates afterwards. -/
theorem candidates_eq_filter (table : Table τ) (cursor : Cursor) (state : StateId)
    (eligible : Nat → Bool) :
    table.candidates cursor state eligible =
      (table.candidates cursor state fun _ => true).filter
        fun candidate => eligible candidate.index := by
  apply List.Pairwise.eq_of_mem_iff (candidates_pairwise table cursor state eligible)
    ((candidates_pairwise table cursor state fun _ => true).filter _)
  intro candidate
  rw [List.mem_filter, mem_candidates_iff, mem_candidates_iff, offers_iff_eligible]

/-- No rule has two candidates. -/
theorem nodup_index_candidates (table : Table τ) (cursor : Cursor) (state : StateId)
    (eligible : Nat → Bool) :
    ((table.candidates cursor state eligible).map Candidate.index).Nodup := by
  apply List.Nodup.map_on
  · intro first firstMember second secondMember index_eq
    exact Offers.eq_of_index_eq (mem_candidates_iff.mp firstMember)
      (mem_candidates_iff.mp secondMember) index_eq
  · exact (candidates_pairwise table cursor state eligible).nodup

end Table

/-! ## Matches at an offset -/

/-- How far the pattern of a rule reads at a cursor is told by the text on both sides. -/
theorem Rule.exists_match?_size_iff {τ : Type} {rule : Rule τ} {cursor : Cursor} {size : Nat} :
    (∃ matched, rule.match? cursor = some matched ∧ matched.size = size) ↔
      ∃ finding, rule.matcher.find? cursor.passed.head? cursor.rest = some finding ∧
        Text.size (cursor.rest.take finding.count) = size := by
  simp [match?, Option.map_eq_some_iff, Match.size]

namespace Table

variable {τ : Type} {table : Table τ} {cursor : Cursor} {state : StateId}

/-- The rule with the given number applies in the state, and between the two texts its pattern reads
the given number of bytes. -/
def Matches (table : Table τ) (state : StateId) (before behind : Text) (index size : Nat) : Prop :=
  ∃ rule, table.rules[index]? = some rule ∧ rule.states.admits table.policy state = true ∧
    ∃ finding, rule.matcher.find? before.getLast? behind = some finding ∧
      Text.size (behind.take finding.count) = size

/-- The candidates of all rules are the matches between what the cursor has passed and the rest. -/
theorem exists_offers_iff_matches {index size : Nat} :
    (∃ candidate, table.Offers cursor state (fun _ => true) candidate ∧
        candidate.index = index ∧ candidate.size = size) ↔
      table.Matches state cursor.passed.reverse cursor.rest index size := by
  unfold Matches
  simp only [List.getLast?_reverse, ← Rule.exists_match?_size_iff]
  constructor
  · rintro ⟨candidate, ⟨registered, admitted, _, matching⟩, rfl, rfl⟩
    exact ⟨candidate.rule, registered, admitted, candidate.matched, matching, rfl⟩
  · rintro ⟨rule, registered, admitted, matched, matching, rfl⟩
    exact ⟨⟨index, rule, matched⟩, ⟨registered, admitted, rfl, matching⟩, rfl, rfl⟩

end Table

/-- At an offset between two characters there is a cursor. -/
theorem Cursor.at?_of_cut? {input before behind : Text} {offset : Nat}
    (boundary : Text.cut? input offset = some (before, behind)) :
    Cursor.at? input offset = some ⟨before.reverse, behind, Position.start.after before⟩ := by
  simp [at?, start, advanceBytes?, boundary]

namespace Table

variable {τ : Type}

/-- At an offset between two characters, the candidates are found: no rule has two of them; they are
the matches there of the rules that apply in the state; the longer ones come first and those of
equal length in order of registration; and if only some rules are asked, their candidates are found
in the same order. -/
theorem candidatesAt?_of_cut? (table : Table τ) (state : StateId) {input before behind : Text}
    {offset : Nat} (boundary : Text.cut? input offset = some (before, behind)) :
    ∃ cursor found, Cursor.at? input offset = some cursor ∧
      table.candidatesAt? input offset state = some found ∧
      (found.map Candidate.index).Nodup ∧
      (∀ index size, (∃ candidate ∈ found, candidate.index = index ∧ candidate.size = size) ↔
        table.Matches state before behind index size) ∧
      found.Pairwise Candidate.Precedes ∧
      ∀ eligible, table.candidates cursor state eligible =
        found.filter fun candidate => eligible candidate.index := by
  have placed := Cursor.at?_of_cut? boundary
  refine ⟨_, _, placed, by rw [candidatesAt?, placed], ?_, ?_, ?_, ?_⟩
  · exact table.nodup_index_candidates _ state _
  · intro index size
    simp only [mem_candidates_iff]
    rw [exists_offers_iff_matches, List.reverse_reverse]
  · exact table.candidates_pairwise _ state _
  · exact table.candidates_eq_filter _ state

/-- Two rules for words and one for letters, and one for words with a digit in state 2. -/
def words : Table (Token String) :=
  let letter : Regex.Expr := .oneOf (.range 'a' 'z')
  let word : Regex.Expr := .times 1 none true letter
  let tagged : Regex.Expr := .cat word (.oneOf (.range '0' '9'))
  { rules :=
      [⟨{ source := "[a-z]" }, Matcher.ofExpr letter, .global, Action.token "LETTER"⟩,
        ⟨{ source := "[a-z]+" }, Matcher.ofExpr word, .global, Action.token "WORD"⟩,
        ⟨{ source := "[a-z]+" }, Matcher.ofExpr word, .ofList [0, 2], Action.token "AGAIN"⟩,
        ⟨{ source := "[a-z]+[0-9]" }, Matcher.ofExpr tagged, .ofList [2], Action.token "TAGGED"⟩] }

/-- In state 2, behind a character of two bytes, all four rules match; two of them as far as each
other. -/
theorem candidatesAt?_of_cut?_words :
    Text.cut? ['é', 'a', 'b', '1'] 2 = some (['é'], ['a', 'b', '1']) ∧
      (words.candidatesAt? ['é', 'a', 'b', '1'] 2 2).map
          (List.map fun candidate => (candidate.index, candidate.size)) =
        some [(3, 3), (1, 2), (2, 2), (0, 1)] ∧
      ∃ cursor found, Cursor.at? ['é', 'a', 'b', '1'] 2 = some cursor ∧
        words.candidatesAt? ['é', 'a', 'b', '1'] 2 2 = some found ∧
        (found.map Candidate.index).Nodup ∧
        (∀ index size, (∃ candidate ∈ found, candidate.index = index ∧ candidate.size = size) ↔
          words.Matches 2 ['é'] ['a', 'b', '1'] index size) ∧
        found.Pairwise Candidate.Precedes ∧
        ∀ eligible, words.candidates cursor 2 eligible =
          found.filter fun candidate => eligible candidate.index := by
  have boundary : Text.cut? ['é', 'a', 'b', '1'] 2 = some (['é'], ['a', 'b', '1']) := by decide
  exact ⟨boundary, by decide, candidatesAt?_of_cut? words 2 boundary⟩

end Table

end Munch
