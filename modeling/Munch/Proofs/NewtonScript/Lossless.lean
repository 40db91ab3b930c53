import Munch.Proofs.Division
import Munch.Proofs.NewtonScript.Trivia

/-!
# Nothing is lost

When white space and comments are kept, each rule of NewtonScript hands out its whole match as one
token, or rejects it.  No rule matches the empty text, and a character that no rule accepts is an
error.  So an input without errors is divided into its tokens.
-/

namespace Munch.NewtonScript

theorem handsOutWhole_integerAction : integerAction.HandsOutWhole := by
  intro matched context
  unfold integerAction
  split
  · exact .inl rfl
  · exact .inr ⟨.integer, rfl⟩

theorem handsOutWhole_triviaAction (category : Category) :
    (triviaAction category true).HandsOutWhole :=
  fun _ _ => .inr ⟨category, rfl⟩

theorem handsOutWhole_commentAction (state : StateId) :
    (commentAction true state).HandsOutWhole :=
  fun _ _ => .inr ⟨.comment, rfl⟩

/-- When everything is kept, all rules hand out their whole matches. -/
theorem handsOutWhole_of_mem_entries :
    ∀ entry ∈ entries .keepTrivia, entry.action.HandsOutWhole := by
  simp [entries, Options.keepTrivia, Action.handsOutWhole_token, handsOutWhole_integerAction,
    handsOutWhole_triviaAction, handsOutWhole_commentAction]

/-- The lexer that keeps everything and stops at errors is faithful. -/
theorem faithful_keepTrivia {made : List (Rule (Token Category))}
    (made_eq : (entries .keepTrivia).map Entry.rule? = made.map some) :
    (⟨{ rules := made }, Fallback.fail⟩ : Lexer Unit (Token Category)).Faithful where
  reads := fun _ member => alwaysReads_of_mem_rules made_eq member
  whole := by
    intro rule member
    obtain ⟨entry, entryMember, rule_eq⟩ := Entry.exists_of_mem_rules made_eq member
    obtain ⟨_, _, _, action_eq⟩ := Entry.rule?_eq_some_iff.mp rule_eq
    rw [action_eq]
    exact handsOutWhole_of_mem_entries entry entryMember
  fails := fun char position _ => ⟨.unexpected char position, rfl⟩

/-- When white space and comments are kept, the tokens of an input without errors are the input, cut
into pieces that are not empty. -/
theorem dividedInto_of_tokenize_keepTrivia {input : Text} {tokens : List (Token Category)}
    (succeeded : tokenize .keepTrivia input = .ok tokens) : Text.DividedInto input tokens := by
  obtain ⟨made, made_eq, built⟩ := exists_rules_eq_entries .keepTrivia
  rw [tokenize_of_rules_eq built] at succeeded
  exact Lexer.dividedInto_tokenize (faithful_keepTrivia made_eq) succeeded

/-- A comment of three tokens with a character of two bytes in it, behind a line feed. -/
theorem dividedInto_of_tokenize_keepTrivia_comment :
    ∃ tokens, tokenize .keepTrivia "a\n/*é*/1.".toList = .ok tokens ∧
      (tokens.map fun token => (token.kind, String.ofList token.text, token.span)) =
        [(.symbol, "a", (0, 1)), (.whiteSpace, "\n", (1, 2)), (.comment, "/*", (2, 4)),
          (.comment, "é", (4, 6)), (.comment, "*/", (6, 8)), (.real, "1.", (8, 10))] ∧
      Text.DividedInto "a\n/*é*/1.".toList tokens := by
  have found : (tokenize .keepTrivia "a\n/*é*/1.".toList).toOption.map
      (List.map fun token => (token.kind, String.ofList token.text, token.span)) =
        some [(.symbol, "a", (0, 1)), (.whiteSpace, "\n", (1, 2)), (.comment, "/*", (2, 4)),
          (.comment, "é", (4, 6)), (.comment, "*/", (6, 8)), (.real, "1.", (8, 10))] := by
    decide +kernel
  cases succeeded : tokenize .keepTrivia "a\n/*é*/1.".toList with
  | error error =>
      rw [succeeded] at found
      contradiction
  | ok tokens =>
      rw [succeeded] at found
      exact ⟨tokens, rfl, Option.some.inj found, dividedInto_of_tokenize_keepTrivia succeeded⟩

end Munch.NewtonScript
