import Munch.Session

/-!
# Operations on a session

Everything that can be done with a session, as a value.  A history is a list of operations, and
`Lexer.performAll` carries it out.
-/

namespace Munch

/-- Something to do with a session. -/
inductive Operation where
  /-- Pull the next token. -/
  | next
  /-- Pull at most so many tokens and errors. -/
  | take (count : Nat)
  /-- Pull all remaining tokens. -/
  | tokenize
  /-- Ask for the remaining input. -/
  | remaining
  /-- Go on in another state. -/
  | setState (state : StateId)
  /-- Start over with a new input. -/
  | reset (input : Text)
  deriving DecidableEq

/-- What comes of an operation. -/
inductive Answer (τ : Type) where
  /-- A token, the end or an error. -/
  | pulled (result : Except LexError (Option τ))
  /-- Some tokens and errors. -/
  | items (results : List (Except LexError τ))
  /-- All remaining tokens, or an error. -/
  | tokens (result : Except LexError (List τ))
  /-- The remaining input. -/
  | slice (remaining : Slice)
  /-- Nothing to report. -/
  | done

namespace Lexer

variable {σ τ : Type}

/-- Carry out an operation. -/
def perform (lexer : Lexer σ τ) (session : Session σ τ) : Operation → Run σ τ (Answer τ)
  | .next => (lexer.next session).map .pulled
  | .take count => (lexer.take count session).map .items
  | .tokenize => (lexer.tokenize session).map .tokens
  | .remaining => ⟨.slice session.remaining, session, []⟩
  | .setState state => ⟨.done, session.setState state, []⟩
  | .reset input => ⟨.done, session.reset input, []⟩

/-- Carry out operations one after the other. -/
def performAll (lexer : Lexer σ τ) (session : Session σ τ) :
    List Operation → Run σ τ (List (Answer τ))
  | [] => ⟨[], session, []⟩
  | operation :: operations =>
      let first := lexer.perform session operation
      ((lexer.performAll first.session operations).map (first.result :: ·)).after first.events

end Lexer

end Munch
