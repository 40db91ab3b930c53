import Munch.Proofs.NewtonScript.MaximalMunch
import Munch.Proofs.Policies

/-!
# The states of NewtonScript

A scan of NewtonScript is in the initial state or inside a block comment.  Both states are even, so
the rules of NewtonScript are among those for which it makes no difference whether the rules of the
initial state apply in odd states as well.
-/

namespace Munch.NewtonScript

/-- The states that the rules know. -/
def KnownState (state : StateId) : Prop :=
  state = initialState ∨ state = commentState

theorem integerAction_state (matched : Match) (context : Context) :
    (integerAction matched context).state = context.state := by
  unfold integerAction
  split
  · rfl
  · rfl

/-- The rules go on in the state they apply in or in one of the two they know. -/
theorem Form.staysIn_rule {inside : StateId → Prop} (code : inside initialState)
    (comment : inside commentState) (options : Options) (form : Form) :
    (form.rule options).StaysIn inside := by
  intro matched context here _
  cases form with
  | integer =>
      change inside (integerAction matched context).state
      rw [integerAction_state]
      exact here
  | commentOpen => exact comment
  | commentClose => exact code
  | _ => exact here

theorem staysIn_of_mem_tableOf {inside : StateId → Prop} (code : inside initialState)
    (comment : inside commentState) {options : Options} {forms : List Form} :
    ∀ rule ∈ (tableOf options forms).rules, rule.StaysIn inside := by
  intro rule member
  obtain ⟨form, _, rfl⟩ := List.mem_map.mp member
  exact form.staysIn_rule code comment options

/-- A client that sets no unknown state sees no unknown state. -/
theorem staysIn_performAll {σ : Type} (options : Options) (fallback : Fallback σ (Token Category))
    (input : Text) (memory : σ) {operations : List Operation}
    (requested : ∀ operation ∈ operations, operation.StaysIn KnownState) :
    let lexer : Lexer σ (Token Category) := ⟨tableOf options Form.all, fallback⟩
    (lexer.performAll (lexer.start input memory) operations).StaysIn KnownState := by
  intro lexer
  have agrees : lexer.AgreesIn KnownState lexer :=
    .refl (.inl rfl) (staysIn_of_mem_tableOf (.inl rfl) (.inr rfl))
  exact (agrees.performAll agrees.initial requested).2

/-- One pull may lead into a block comment. -/
theorem state_of_commentOpen (options : Options) :
    let lexer : Lexer Unit (Token Category) := ⟨tableOf options Form.all, Fallback.fail⟩
    (lexer.performAll (lexer.start ['/', '*'] ()) [.next]).session.state = commentState := by
  rcases options with ⟨_ | _, _ | _⟩
  all_goals decide +kernel

/-- Among even states the policies cannot be told apart.  If the actions of some rules go on in even
states whenever they accept a match in an even state, and a client sets even states only, then it
sees the same of the lexers over these rules under both policies, and the same happens in them.

The rules of NewtonScript are such rules, whatever the options.  A client that sets no other states
finds them in the initial state and in that of block comments only, as do their actions, and both
states occur. -/
theorem observe_oddInclusive_eq_exact :
    (∀ (σ τ : Type) (rules : List (Rule τ)) (fallback : Fallback σ τ) (input : Text) (memory : σ)
        (operations : List Operation),
      (∀ rule ∈ rules, rule.StaysIn EvenState) →
      (∀ operation ∈ operations, operation.StaysIn EvenState) →
      let exact : Lexer σ τ := ⟨⟨rules, .exact⟩, fallback⟩
      let odd : Lexer σ τ := ⟨⟨rules, .oddInclusive⟩, fallback⟩
      odd.observe (odd.start input memory) operations =
          exact.observe (exact.start input memory) operations ∧
        odd.performAll (odd.start input memory) operations =
          exact.performAll (exact.start input memory) operations) ∧
    ∀ options, ∃ table, rules options = .ok table ∧
      (∀ rule ∈ table.rules, rule.StaysIn EvenState) ∧
      (∀ (σ : Type) (fallback : Fallback σ (Token Category)) (input : Text) (memory : σ)
          (operations : List Operation),
        (∀ operation ∈ operations, operation.StaysIn KnownState) →
        let lexer : Lexer σ (Token Category) := ⟨table, fallback⟩
        (lexer.performAll (lexer.start input memory) operations).StaysIn KnownState) ∧
      ∀ state, KnownState state → ∃ input operations,
        (∀ operation ∈ operations, operation = .next) ∧
        let lexer : Lexer Unit (Token Category) := ⟨table, Fallback.fail⟩
        (lexer.performAll (lexer.start input ()) operations).session.state = state := by
  constructor
  · intro σ τ rules fallback input memory operations stays requested exact odd
    have agrees : exact.AgreesIn EvenState odd :=
      Lexer.agreesIn_evenState stays .exact .oddInclusive
    rw [agrees.start_eq]
    exact ⟨agrees.observe agrees.initial requested,
      (agrees.performAll agrees.initial requested).1⟩
  · intro options
    refine ⟨tableOf options Form.all, rules_eq_map options, ?_, ?_, ?_⟩
    · have code : EvenState initialState := rfl
      have comment : EvenState commentState := rfl
      exact staysIn_of_mem_tableOf code comment
    · intro σ fallback input memory operations requested
      exact staysIn_performAll options fallback input memory requested
    · rintro state (rfl | rfl)
      · exact ⟨[], [], nofun, rfl⟩
      · exact ⟨['/', '*'], [.next], by simp, state_of_commentOpen options⟩

/-- An `a` leads from the initial state to another even state, and a `b` leads back.  Both together
are rejected, and the odd state named then has no effect. -/
def alternating : List (Rule (Token String)) :=
  [⟨{ source := "a" }, Matcher.ofExpr (.oneOf (.single 'a')), .ofList [0],
      fun matched _ => ⟨.emit (matched.token "A"), 2⟩⟩,
    ⟨{ source := "b" }, Matcher.ofExpr (.oneOf (.single 'b')), .ofList [2],
      fun matched _ => ⟨.emit (matched.token "B"), 0⟩⟩,
    ⟨{ source := "ab" }, Matcher.ofExpr (.cat (.oneOf (.single 'a')) (.oneOf (.single 'b'))),
      .ofList [0], fun _ _ => ⟨.reject, 1⟩⟩]

/-- The letters are read in turn under both policies.  Only in an odd state is an `a` read under one
of them alone. -/
theorem observe_oddInclusive_eq_exact_alternating :
    let exact : Lexer Unit (Token String) := ⟨⟨alternating, .exact⟩, Fallback.skip⟩
    let odd : Lexer Unit (Token String) := ⟨⟨alternating, .oddInclusive⟩, Fallback.skip⟩
    (∀ rule ∈ alternating, rule.StaysIn EvenState) ∧
      odd.observe (odd.start ['a', 'b', 'c', 'a'] ()) [.next, .setState 4, .setState 2, .tokenize] =
        exact.observe (exact.start ['a', 'b', 'c', 'a'] ())
          [.next, .setState 4, .setState 2, .tokenize] ∧
      (odd.performAll (odd.start ['a', 'b', 'c', 'a'] ())
        [.next, .setState 4, .setState 2, .tokenize]).session.state = 2 ∧
      (odd.performAll (odd.start ['a'] ()) [.setState 1, .next]).session.state = 2 ∧
      (exact.performAll (exact.start ['a'] ()) [.setState 1, .next]).session.state = 1 := by
  intro exact odd
  have stays : ∀ rule ∈ alternating, rule.StaysIn EvenState := by
    intro rule member
    simp only [alternating, List.mem_cons, List.not_mem_nil, or_false] at member
    have two : EvenState 2 := rfl
    have zero : EvenState 0 := rfl
    rcases member with rfl | rfl | rfl
    · exact fun _ _ _ _ => two
    · exact fun _ _ _ _ => zero
    · exact fun _ _ _ accepted => nomatch accepted
  have requested : ∀ operation ∈ [Operation.next, .setState 4, .setState 2, .tokenize],
      operation.StaysIn EvenState := by
    simp [Operation.StaysIn, EvenState]
  refine ⟨stays, ?_, ?_, ?_, ?_⟩
  · exact (observe_oddInclusive_eq_exact.1 Unit (Token String) alternating Fallback.skip _ ()
      _ stays requested).1
  · decide +kernel
  · decide +kernel
  · decide +kernel

end Munch.NewtonScript
