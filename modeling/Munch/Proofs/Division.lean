import Munch.Proofs.Regex.Reading
import Munch.Proofs.Sweep
import Munch.Proofs.Tiling

/-!
# Tokens that divide an input

A lexer is faithful if its rules read something whenever they match, its actions hand out the whole
match as one token whenever they accept it, and its fallback lets no character pass.  The steps of
such a lexer and its tokens go hand in hand, so all tokens together are the input, cut into pieces.

`Cursor.Divided` follows the steps: each token is the next piece of what is still to be read.
`Text.DividedInto` says what this comes to for the input as a whole, in bytes and places.
-/

namespace Munch

variable {σ κ : Type}

/-- Tokens divide an input: none is empty, they follow each other from its start to its end, and each
is the piece of the input between its offsets and knows the place of that piece. -/
structure Text.DividedInto (input : Text) (tokens : List (Token κ)) : Prop where
  nonempty : ∀ token ∈ tokens, token.text ≠ []
  spans : Tiles 0 (tokens.map Token.span) (Text.size input)
  pieces : ∀ token ∈ tokens,
    Slice.ofRange? input token.lexeme.start token.lexeme.stop = some token.lexeme
  positions : ∀ token ∈ tokens, ∃ before rest,
    Text.cut? input token.lexeme.start = some (before, rest) ∧
      token.position = Position.start.after before
  texts : tokens.flatMap Token.text = input

/-! ## Pieces of what is still to be read -/

/-- Tokens divide what is still to be read at a cursor: the first is the piece at the cursor, and the
others divide what is behind it. -/
inductive Cursor.Divided : Cursor → List (Token κ) → Prop
  | nil {cursor : Cursor} (ended : cursor.rest = []) : Divided cursor []
  | cons {cursor moved : Cursor} {kind : κ} {text : Text} {tokens : List (Token κ)}
      (reads : cursor.Reads text moved) (something : text ≠ []) (rest : Divided moved tokens) :
      Divided cursor (⟨kind, ⟨cursor.passed, text, moved.rest⟩, cursor.position⟩ :: tokens)

namespace Cursor.Divided

variable {cursor : Cursor} {tokens : List (Token κ)}

theorem flatMap_text (divided : cursor.Divided tokens) : tokens.flatMap Token.text = cursor.rest := by
  induction divided with
  | nil ended => exact ended.symm
  | cons reads _ _ ih =>
      rw [reads.rest_eq, List.flatMap_cons, ih]
      rfl

/-- The pieces follow each other up to the end. -/
theorem tiles (divided : cursor.Divided tokens) :
    Tiles (Text.size cursor.passed) (tokens.map Token.span) (Text.size cursor.buffer) := by
  induction divided with
  | @nil cursor ended => simp [Tiles, Cursor.buffer, ended]
  | @cons cursor moved kind text tokens reads something rest ih =>
      have passed_size : Text.size moved.passed = Text.size cursor.passed + Text.size text := by
        rw [reads.passed_eq, Text.size_append, Text.size_reverse, Nat.add_comm]
      have same : moved.buffer = cursor.buffer := by
        simp [Cursor.buffer, reads.passed_eq, reads.rest_eq]
      rw [same, passed_size] at ih
      exact ⟨rfl, ih⟩

/-- Each token is a piece at some place further on. -/
theorem exists_reads (divided : cursor.Divided tokens) {token : Token κ} (member : token ∈ tokens) :
    ∃ before place behind, cursor.Reads before place ∧ place.Reads token.text behind ∧
      token.text ≠ [] ∧ token.lexeme = ⟨place.passed, token.text, behind.rest⟩ ∧
      token.position = place.position := by
  induction divided with
  | nil _ => contradiction
  | @cons cursor moved kind text tokens reads something _ ih =>
      rcases List.mem_cons.mp member with rfl | later
      · exact ⟨[], cursor, moved, .refl cursor, reads, something, rfl, rfl⟩
      · obtain ⟨before, place, behind, front, inside⟩ := ih later
        exact ⟨text ++ before, place, behind, reads.trans front, inside⟩

/-- Dividing all that is to be read at the start of an input divides the input. -/
theorem dividedInto {input : Text} (divided : (Cursor.start input).Divided tokens) :
    Text.DividedInto input tokens := by
  refine ⟨?_, divided.tiles, ?_, ?_, divided.flatMap_text⟩
  · intro token member
    obtain ⟨_, _, _, _, _, something, _⟩ := divided.exists_reads member
    exact something
  · intro token member
    obtain ⟨before, place, behind, front, inside, _, lexeme_eq, _⟩ := divided.exists_reads member
    have passed_eq : place.passed = before.reverse := front.passed_eq.trans (List.append_nil _)
    have input_eq : input = before ++ (token.text ++ behind.rest) :=
      front.rest_eq.trans (congrArg (before ++ ·) inside.rest_eq)
    apply Slice.ofRange?_eq_some_iff.mpr
    refine ⟨?_, rfl, rfl⟩
    rw [lexeme_eq, input_eq]
    simp [Slice.buffer, passed_eq]
  · intro token member
    obtain ⟨before, place, behind, front, _, _, lexeme_eq, position_eq⟩ :=
      divided.exists_reads member
    refine ⟨before, place.rest, ?_, position_eq.trans front.position_eq⟩
    apply Text.cut?_eq_some_iff.mpr
    refine ⟨front.rest_eq, ?_⟩
    rw [lexeme_eq, Slice.start, front.passed_eq]
    simp [Cursor.start]

end Cursor.Divided

/-! ## Faithful lexers -/

namespace Action

/-- A match is accepted only with one token for the whole of it. -/
def HandsOutWhole (action : Action (Token κ)) : Prop :=
  ∀ matched context, (action matched context).outcome.isReject = true ∨
    ∃ kind, (action matched context).outcome = .emit (matched.token kind)

theorem handsOutWhole_token (kind : κ) : (token kind).HandsOutWhole :=
  fun _ _ => .inr ⟨kind, rfl⟩

end Action

namespace Lexer

variable {lexer : Lexer σ (Token κ)} {session : Session σ (Token κ)}

/-- No match is empty, a match that is accepted is handed out as one token, and the fallback always
fails. -/
structure Faithful (lexer : Lexer σ (Token κ)) : Prop where
  reads : ∀ rule ∈ lexer.table.rules, rule.matcher.regex.alwaysReads = true
  whole : ∀ rule ∈ lexer.table.rules, rule.action.HandsOutWhole
  fails : ∀ char position memory, ∃ error, (lexer.fallback char position memory).1 = .error error

/-- A faithful lexer that comes to the end has divided what was to be read into its tokens. -/
theorem Sweeps.divided (faithful : lexer.Faithful)
    {run : Run σ (Token κ) (Except LexError (List (Token κ)))} (sweeps : lexer.Sweeps session run)
    {tokens : List (Token κ)} (result_eq : run.result = .ok tokens) :
    session.cursor.Divided tokens := by
  induction sweeps generalizing tokens with
  | @step session middle event run step error_eq _ ih =>
      obtain ⟨error | others, final, events⟩ := run
      · contradiction
      · -- the others divide what is behind the step, and the step itself has one token or none
        have divided := ih rfl
        have tokens_eq : event.tokens ++ others = tokens := Except.ok.inj result_eq
        subst tokens
        cases step with
        | @reject candidate decision best _ rejected =>
            change session.cursor.Divided (decision.outcome.tokens ++ others)
            rw [Outcome.tokens_of_isReject rejected]
            exact divided
        | @accept candidate decision best decided accepted =>
            have member := List.mem_of_getElem? best.offered.registered
            have reads := Rule.reads_of_match? best.offered.matching
            have something : candidate.matched.text ≠ [] :=
              Rule.text_ne_nil_of_match? best.offered.matching (faithful.reads _ member)
            have whole := faithful.whole _ member candidate.matched session.context
            rw [decided, accepted] at whole
            obtain ⟨kind, outcome_eq⟩ := whole.resolve_left Bool.false_ne_true
            obtain ⟨before_eq, _, position_eq⟩ := Rule.eq_of_match? best.offered.matching
            have token_eq : candidate.matched.token kind =
                ⟨kind, ⟨session.cursor.passed, candidate.matched.text,
                  candidate.matched.behind.rest⟩, session.cursor.position⟩ := by
              rw [← before_eq, ← position_eq]
              rfl
            change session.cursor.Divided (decision.outcome.tokens ++ others)
            rw [outcome_eq, Outcome.tokens, token_eq]
            exact .cons reads something divided
        | @unmatched char _ answer _ _ _ answered =>
            obtain ⟨error, failed⟩ := faithful.fails char session.position session.memory
            rw [answered] at failed
            cases failed
            contradiction
  | error _ _ => contradiction
  | finish _ ended =>
      cases result_eq
      exact .nil ended

/-- The tokens of a faithful lexer, when there are no errors, divide the input. -/
theorem dividedInto_tokenize (faithful : lexer.Faithful) {input : Text} {memory : σ}
    {tokens : List (Token κ)}
    (succeeded : (lexer.tokenize (lexer.start input memory)).result = .ok tokens) :
    Text.DividedInto input tokens := by
  have sweeps : lexer.Sweeps (lexer.start input memory) _ :=
    sweeps_tokenize rfl (by simp [start])
  have divided : (Cursor.start input).Divided tokens := sweeps.divided faithful succeeded
  exact divided.dividedInto

end Lexer

end Munch
