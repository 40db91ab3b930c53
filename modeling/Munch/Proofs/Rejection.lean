import Munch.Proofs.Simulation

/-!
# A rule that always rejects

A rule whose action rejects every match can be left out of a table.  The rules behind it move up by
one, and so do their marks; apart from that the lexers over both tables take the same steps, and
where the rule is tried, nothing but its own mark changes.  So a client cannot tell the two apart.
-/

namespace Munch

variable {σ τ : Type}

/-! ## Numbers of rules -/

/-- The number in a table of the rule that has number `index` when rule `left` is left out. -/
def shift (left index : Nat) : Nat :=
  if index < left then index else index + 1

/-- Rules keep their order when one is left out. -/
theorem shift_le_shift_iff {left first second : Nat} :
    shift left first ≤ shift left second ↔ first ≤ second := by
  unfold shift
  split <;> split <;> omega

/-- Every other rule still has a number. -/
theorem exists_shift_eq {left index : Nat} (other : index ≠ left) :
    ∃ image, shift left image = index := by
  rcases Nat.lt_or_gt_of_ne other with before | behind
  · exact ⟨index, if_pos before⟩
  · refine ⟨index - 1, ?_⟩
    rw [shift, if_neg (by omega)]
    omega

theorem getElem?_eraseIdx_eq_shift {α : Type} (list : List α) (left index : Nat) :
    (list.eraseIdx left)[index]? = list[shift left index]? := by
  rw [List.getElem?_eraseIdx, shift]
  split <;> rfl

theorem eraseIdx_set_shift {α : Type} (list : List α) (left index : Nat) (value : α) :
    (list.set (shift left index) value).eraseIdx left = (list.eraseIdx left).set index value := by
  rw [List.set_eraseIdx, shift]
  by_cases before : index < left
  · rw [if_pos before, if_neg (by omega)]
  · rw [if_neg before, if_pos (by omega)]

/-- A table with one rule left out. -/
def Table.without (table : Table τ) (left : Nat) : Table τ :=
  { table with rules := table.rules.eraseIdx left }

/-- The candidate under the number that its rule has before rule `left` is left out. -/
def Candidate.shift (left : Nat) (candidate : Candidate τ) : Candidate τ :=
  { candidate with index := Munch.shift left candidate.index }

/-- The marks of all rules, and those without the mark of rule `left`. -/
def Unmarked (left : Nat) (tried fewer : List Bool) : Prop :=
  fewer = tried.eraseIdx left

theorem Unmarked.map_false {left : Nat} {tried fewer : List Bool}
    (marked : Unmarked left tried fewer) :
    Unmarked left (tried.map fun _ => false) (fewer.map fun _ => false) := by
  unfold Unmarked at *
  rw [marked]
  apply List.ext_getElem?
  intro index
  simp only [getElem?_eraseIdx_eq_shift, List.getElem?_map]

theorem Unmarked.set {left : Nat} {tried fewer : List Bool} (marked : Unmarked left tried fewer)
    (index : Nat) : Unmarked left (tried.set (shift left index) true) (fewer.set index true) := by
  unfold Unmarked at *
  rw [marked, eraseIdx_set_shift]

/-! ## The same steps -/

namespace Lexer

variable {table : Table τ} {fallback : Fallback σ τ} {left : Nat} {session twin : Session σ τ}

/-- The candidates of the smaller table are those of the other rules. -/
theorem offers_without_iff (twins : session.Twin (Unmarked left) twin) {candidate : Candidate τ} :
    (⟨table.without left, fallback⟩ : Lexer σ τ).Offers twin candidate ↔
      (⟨table, fallback⟩ : Lexer σ τ).Offers session (candidate.shift left) := by
  have untried :
      twin.isUntried candidate.index = session.isUntried (shift left candidate.index) := by
    unfold Session.isUntried
    rw [twins.marked, getElem?_eraseIdx_eq_shift]
  have moved : (table.without left).rules[candidate.index]? =
      table.rules[shift left candidate.index]? := getElem?_eraseIdx_eq_shift _ _ _
  constructor
  · rintro ⟨registered, admitted, eligible, matching⟩
    rw [twins.cursor_eq] at matching
    rw [twins.state_eq] at admitted
    exact ⟨moved.symm.trans registered, admitted, untried.symm.trans eligible, matching⟩
  · rintro ⟨registered, admitted, eligible, matching⟩
    refine ⟨moved.trans registered, ?_, untried.trans eligible, ?_⟩
    · rw [twins.state_eq]
      exact admitted
    · rw [twins.cursor_eq]
      exact matching

theorem exists_offers_without (twins : session.Twin (Unmarked left) twin) {candidate : Candidate τ}
    (offered : (⟨table, fallback⟩ : Lexer σ τ).Offers session candidate)
    (other : candidate.index ≠ left) :
    ∃ image, (⟨table.without left, fallback⟩ : Lexer σ τ).Offers twin image ∧
      image.shift left = candidate := by
  obtain ⟨index, index_eq⟩ := exists_shift_eq other
  have same : Candidate.shift left { candidate with index := index } = candidate := by
    rw [Candidate.shift, index_eq]
  refine ⟨{ candidate with index := index }, (offers_without_iff twins).mpr ?_, same⟩
  rw [same]
  exact offered

/-- The best of all candidates is the best of the smaller table, if it is not of the rule left
out. -/
theorem Best.without (twins : session.Twin (Unmarked left) twin) {image : Candidate τ}
    (best : (⟨table, fallback⟩ : Lexer σ τ).Best session (image.shift left)) :
    (⟨table.without left, fallback⟩ : Lexer σ τ).Best twin image := by
  refine ⟨(offers_without_iff twins).mpr best.offered, ?_, ?_⟩
  · intro other offered
    exact best.longest (other.shift left) ((offers_without_iff twins).mp offered)
  · intro other offered size_eq
    apply shift_le_shift_iff.mp
    exact best.earliest (other.shift left) ((offers_without_iff twins).mp offered) size_eq

theorem exists_best_without (twins : session.Twin (Unmarked left) twin) {candidate : Candidate τ}
    (best : (⟨table, fallback⟩ : Lexer σ τ).Best session candidate)
    (other : candidate.index ≠ left) :
    ∃ image, (⟨table.without left, fallback⟩ : Lexer σ τ).Best twin image ∧
      image.shift left = candidate := by
  obtain ⟨image, _, rfl⟩ := exists_offers_without twins best.offered other
  exact ⟨image, best.without twins, rfl⟩

/-- Where no candidate is left, the smaller table has none. -/
theorem not_offers_without (twins : session.Twin (Unmarked left) twin)
    (none_left : ∀ candidate, ¬ (⟨table, fallback⟩ : Lexer σ τ).Offers session candidate)
    (candidate : Candidate τ) :
    ¬ (⟨table.without left, fallback⟩ : Lexer σ τ).Offers twin candidate := by
  intro offered
  exact none_left _ ((offers_without_iff twins).mp offered)

/-- The lexer without the rule takes all steps but the trials of that rule. -/
theorem simulates_without {rule : Rule τ} (registered : table.rules[left]? = some rule)
    (rejects : ∀ matched context, (rule.action matched context).outcome.isReject = true) :
    (⟨table, fallback⟩ : Lexer σ τ).Simulates (Unmarked left) ⟨table.without left, fallback⟩ where
  cleared := Unmarked.map_false
  finish := fun twins none_left _ => not_offers_without twins none_left
  step := by
    intro session middle twin event twins step
    cases step with
    | @reject candidate decision best decided rejected =>
        by_cases own : candidate.index = left
        · refine .inl ⟨⟨Outcome.tokens_of_isReject rejected, rfl⟩, ?_⟩
          refine ⟨twins.cursor_eq, twins.state_eq, twins.pending_eq, twins.memory_eq, ?_⟩
          change twin.tried = (session.tried.set candidate.index true).eraseIdx left
          rw [own, List.eraseIdx_set_eq]
          exact twins.marked
        · obtain ⟨image, imageBest, rfl⟩ := exists_best_without twins best own
          rw [← twins.context_eq] at decided
          refine .inr ⟨_, _, .reject imageBest decided rejected, rfl, rfl, ?_⟩
          exact ⟨twins.cursor_eq, twins.state_eq, twins.pending_eq, twins.memory_eq,
            twins.marked.set image.index⟩
    | @accept candidate decision best decided accepted =>
        by_cases own : candidate.index = left
        · -- the rule that is left out accepts nothing
          have same : candidate.rule = rule :=
            Option.some.inj (best.offered.registered.symm.trans (own ▸ registered))
          have rejected := rejects candidate.matched session.context
          rw [← same, decided, accepted] at rejected
          contradiction
        · obtain ⟨image, imageBest, rfl⟩ := exists_best_without twins best own
          rw [← twins.context_eq] at decided
          refine .inr ⟨_, _, .accept imageBest decided accepted, rfl, rfl, ?_⟩
          refine ⟨rfl, rfl, twins.pending_eq, twins.memory_eq, ?_⟩
          change Unmarked left (if image.matched.isEmpty then _ else _)
            (if image.matched.isEmpty then _ else _)
          split
          · exact twins.marked.set image.index
          · exact twins.marked.map_false
    | unmatched none_left advanced answered =>
        have image :=
          Step.unmatched_twin twins (not_offers_without twins none_left) advanced answered
        refine .inr ⟨_, _, image, rfl, rfl, ?_⟩
        exact ⟨rfl, twins.state_eq, twins.pending_eq, rfl, twins.marked.map_false⟩

/-- A rule that rejects every match leaves no trace: whatever is done with a session over the table
and with one over the table without that rule, the answers are the same and the sessions look
alike. -/
theorem performAll_without (table : Table τ) (fallback : Fallback σ τ) {left : Nat} {rule : Rule τ}
    (registered : table.rules[left]? = some rule)
    (rejects : ∀ matched context, (rule.action matched context).outcome.isReject = true)
    (input : Text) (memory : σ) (operations : List Operation) :
    let full : Lexer σ τ := ⟨table, fallback⟩
    let fewer : Lexer σ τ := ⟨table.without left, fallback⟩
    (fewer.performAll (fewer.start input memory) operations).result =
        (full.performAll (full.start input memory) operations).result ∧
      (full.performAll (full.start input memory) operations).session.Alike
        (fewer.performAll (fewer.start input memory) operations).session := by
  intro full fewer
  have twins : (full.start input memory).Twin (Unmarked left) (fewer.start input memory) := by
    refine ⟨rfl, rfl, rfl, rfl, ?_⟩
    change (table.rules.eraseIdx left).map _ = (table.rules.map _).eraseIdx left
    apply List.ext_getElem?
    intro index
    simp only [getElem?_eraseIdx_eq_shift, List.getElem?_map]
  have simulates : full.Simulates (Unmarked left) fewer := simulates_without registered rejects
  have follows := simulates.performAll twins rfl operations
  exact ⟨follows.result_eq, follows.alike⟩

/-- Two letters are rejected, after a change to state 1. -/
def refusal : Rule (Token String) :=
  ⟨{ source := "ab" }, Matcher.ofExpr (.cat (.oneOf (.single 'a')) (.oneOf (.single 'b'))), .global,
    fun _ _ => ⟨.reject, 1⟩⟩

/-- Letters are tokens of different kinds in states 0 and 1; two letters are tried first. -/
def pairs : Table (Token String) where
  rules :=
    [⟨{ source := "[a-z]" }, Matcher.ofExpr (.oneOf (.range 'a' 'z')), .ofList [0],
        Action.token "ZERO"⟩,
      refusal,
      ⟨{ source := "[a-z]" }, Matcher.ofExpr (.oneOf (.range 'a' 'z')), .ofList [1],
        Action.token "ONE"⟩]

/-- The rejected match is longer than the others, and its state would change the kinds of tokens. -/
theorem performAll_without_pairs :
    pairs.rules[1]? = some refusal ∧
      (∀ matched context, (refusal.action matched context).outcome.isReject = true) ∧
      ((⟨pairs, Fallback.fail⟩ : Lexer Unit (Token String)).performAll
        (start ⟨pairs, Fallback.fail⟩ ['a', 'b', '!'] ()) [.take 3]).events.length = 4 ∧
      ((⟨pairs.without 1, Fallback.fail⟩ : Lexer Unit (Token String)).performAll
        (start ⟨pairs.without 1, Fallback.fail⟩ ['a', 'b', '!'] ()) [.take 3]).events.length = 3 ∧
      ((⟨pairs.without 1, Fallback.fail⟩ : Lexer Unit (Token String)).performAll
        (start ⟨pairs.without 1, Fallback.fail⟩ ['a', 'b', '!'] ()) [.take 3]).result =
      ((⟨pairs, Fallback.fail⟩ : Lexer Unit (Token String)).performAll
        (start ⟨pairs, Fallback.fail⟩ ['a', 'b', '!'] ()) [.take 3]).result := by
  have rejects : ∀ matched context, (refusal.action matched context).outcome.isReject = true :=
    fun _ _ => rfl
  refine ⟨rfl, rejects, by decide, by decide, ?_⟩
  exact (performAll_without pairs Fallback.fail rfl rejects ['a', 'b', '!'] () [.take 3]).1

end Lexer

end Munch
