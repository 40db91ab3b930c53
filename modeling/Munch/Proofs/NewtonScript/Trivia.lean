import Munch.Proofs.Filtering
import Munch.Proofs.NewtonScript.Table

/-!
# White space and comments

The options of NewtonScript decide which of the separating tokens are handed out, and nothing else:
the table for some options is the table that keeps all tokens, with white space and comments left
out as the options say.  What follows is an instance of what holds of every lexer that leaves out
tokens.
-/

namespace Munch.NewtonScript

/-- Whether a token is handed out under the options. -/
def Options.keeps (options : Options) (token : Token Category) : Bool :=
  match token.kind with
  | .whiteSpace => options.keepWhiteSpace
  | .comment => options.keepComments
  | _ => true

/-! ## The table -/

/-- Tokens that are no trivia are always handed out. -/
theorem filter_tokenIn (options : Options) (builder : Builder (Token Category)) (states : StateSet)
    (pattern : Pattern) {category : Category} (plain : category.isTrivia = false) :
    (builder.tokenIn states pattern category).filter options.keeps =
      (builder.filter options.keeps).tokenIn states pattern category := by
  have same : (Action.token category).filter options.keeps = Action.token category := by
    funext matched context
    cases category with
    | whiteSpace => contradiction
    | comment => contradiction
    | _ => rfl
  unfold Builder.tokenIn
  rw [Builder.filter_ruleIn, same]

theorem filter_integerAction (options : Options) :
    integerAction.filter options.keeps = integerAction := by
  funext matched context
  unfold Action.filter integerAction
  split <;> rfl

theorem filter_triviaAction_whiteSpace (options : Options) :
    (triviaAction .whiteSpace Options.keepTrivia.keepWhiteSpace).filter options.keeps =
      triviaAction .whiteSpace options.keepWhiteSpace :=
  rfl

theorem filter_triviaAction_comment (options : Options) :
    (triviaAction .comment Options.keepTrivia.keepComments).filter options.keeps =
      triviaAction .comment options.keepComments :=
  rfl

theorem filter_commentAction (options : Options) (state : StateId) :
    (commentAction Options.keepTrivia.keepComments state).filter options.keeps =
      commentAction options.keepComments state :=
  rfl

/-- The table for some options is the table that keeps all tokens, with some of them left out. -/
theorem rules_eq_map_filter (options : Options) :
    rules options = (rules .keepTrivia).map (Table.filter options.keeps) := by
  unfold rules
  rw [← Builder.build_filter]
  simp (disch := decide) only [filter_tokenIn, Builder.filter_ruleIn, Builder.filter_empty,
    filter_integerAction, filter_triviaAction_whiteSpace, filter_triviaAction_comment,
    filter_commentAction]

/-! ## Tokens -/

/-- Under a fallback that leaves out tokens as the options say, the tokens are those that are kept
of all tokens, and the errors are the same. -/
theorem tokenizeWith_eq_map_filter (fallback : Fallback Unit (Token Category)) (options : Options)
    (input : Text) :
    tokenizeWith (fallback.filter options.keeps) options input =
      (tokenizeWith fallback .keepTrivia input).map (List.filter options.keeps) := by
  unfold tokenizeWith
  rw [rules_eq_map_filter]
  cases rules .keepTrivia with
  | error error => rfl
  | ok table =>
      let lexer : Lexer Unit (Token Category) := ⟨table, fallback⟩
      change ((lexer.filter options.keeps).tokenize
        ((lexer.filter options.keeps).start input ())).result = _
      rw [Lexer.start_filter, Lexer.tokenize_filter rfl (by simp [Lexer.start])]
      rfl

/-- With a table at hand, the tokens are what its lexer hands out. -/
theorem tokenize_of_rules_eq {options : Options} {table : Table (Token Category)}
    (built : rules options = .ok table) (input : Text) :
    tokenize options input =
      ((⟨table, Fallback.fail⟩ : Lexer Unit (Token Category)).tokenize
        (Lexer.start ⟨table, Fallback.fail⟩ input ())).result := by
  unfold tokenize tokenizeWith
  rw [built]
  rfl

/-- A failure names a character and its place. -/
theorem exists_unexpected_of_tokenize {options : Options} {input : Text} {error : LexError}
    (failed : tokenize options input = .error error) :
    ∃ char position, error = .unexpected char position := by
  obtain ⟨made, _, built⟩ := exists_rules_eq_entries options
  rw [tokenize_of_rules_eq built] at failed
  obtain ⟨char, position, memory, answer_eq⟩ :=
    (Lexer.sweeps_tokenize rfl (by simp [Lexer.start])).exists_answer failed
  exact ⟨char, position, (Except.error.inj answer_eq).symm⟩

/-- The options of NewtonScript only leave out tokens: an input is refused under all of them or
under none, and for the same character at the same place. -/
theorem tokenize_eq_map_filter (options : Options) (input : Text) :
    tokenize options input = (tokenize .keepTrivia input).map (List.filter options.keeps) ∧
      ∀ error, tokenize options input = .error error →
        ∃ char position, error = .unexpected char position :=
  ⟨tokenizeWith_eq_map_filter Fallback.fail options input, fun _ => exists_unexpected_of_tokenize⟩

end Munch.NewtonScript
