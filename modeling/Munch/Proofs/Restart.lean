import Munch.Proofs.Histories

/-!
# Starting over

A session that is started over is a new session: whatever was done before, and wherever it was left,
nothing of it can be told from what the session does afterwards, except through what the fallback
remembers.  Of the parts of a session, the marks of the tried rules need an argument.  They are not
made anew but cleared, and so there have to be as many of them as the table has rules, which every
operation sees to.

`Lexer.observe` is what a client gets to see, operation by operation.
-/

namespace Munch

/-- What a client can see of a session between two operations. -/
structure View where
  position : Position
  state : StateId
  phase : Phase
  /-- The number of tokens still to be handed out. -/
  pending : Nat
  remaining : Slice

/-- The view of a session. -/
def Session.view {σ τ : Type} (session : Session σ τ) : View where
  position := session.position
  state := session.state
  phase := session.phase
  pending := session.pending.length
  remaining := session.remaining

namespace Run

variable {σ τ α β γ : Type}

theorem map_after (change : α → β) (events : List (Event τ)) (run : Run σ τ α) :
    (run.after events).map change = (run.map change).after events :=
  rfl

theorem map_map (change : α → β) (further : β → γ) (run : Run σ τ α) :
    (run.map change).map further = run.map (further ∘ change) :=
  rfl

end Run

namespace Lexer

variable {σ τ : Type} {lexer : Lexer σ τ} {session : Session σ τ}

/-- What a client sees while operations are carried out: after each of them, its answer and the
view of the session. -/
def observe (lexer : Lexer σ τ) (session : Session σ τ) :
    List Operation → List (Answer τ × View)
  | [] => []
  | operation :: operations =>
      let first := lexer.perform session operation
      (first.result, first.session.view) :: lexer.observe first.session operations

/-- Operations are carried out in two parts, the second of them from the session behind the
first. -/
theorem performAll_append (lexer : Lexer σ τ) (session : Session σ τ)
    (operations further : List Operation) :
    lexer.performAll session (operations ++ further) =
      ((lexer.performAll (lexer.performAll session operations).session further).map
        ((lexer.performAll session operations).result ++ ·)).after
          (lexer.performAll session operations).events := by
  induction operations generalizing session with
  | nil => rfl
  | cons operation operations ih =>
      rw [List.cons_append, performAll, ih, Run.map_after, Run.map_map, Run.after_after]
      rfl

/-- A session that operations lead to is started over as a new one. -/
theorem Reachable.reset_eq_start (reachable : lexer.Reachable session) (input : Text) :
    session.reset input = lexer.start input session.memory :=
  (Fresh.reset reachable).eq_start

/-- Whatever was done with a session, once it is started over it cannot be told from a new session
over the same input whose fallback remembers the same: not by what is seen of it at first, nor by
the answers to any further operations and what is seen after each of them, nor by what happens in
them and where they lead. -/
theorem observe_reset (lexer : Lexer σ τ) (input : Text) (memory : σ) (operations : List Operation)
    (other : Text) (further : List Operation) :
    let before := lexer.performAll (lexer.start input memory) operations
    let new := lexer.start other before.session.memory
    (before.session.reset other).view = new.view ∧
      lexer.observe (before.session.reset other) further = lexer.observe new further ∧
      lexer.performAll (lexer.start input memory) (operations ++ .reset other :: further) =
        ((lexer.performAll new further).map fun answers =>
          before.result ++ .done :: answers).after before.events := by
  intro before new
  have reachable : lexer.Reachable before.session := ⟨input, memory, operations, rfl⟩
  have reset_eq : before.session.reset other = new := reachable.reset_eq_start other
  refine ⟨by rw [reset_eq], by rw [reset_eq], ?_⟩
  rw [performAll_append, performAll, perform, reset_eq]
  rfl

end Lexer

end Munch
