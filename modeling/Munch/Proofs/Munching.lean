import Munch.Proofs.Decision

/-!
# Munching without sessions

Over a decisive table, a lexer that stops at errors goes from one place to the next: it takes the
first candidate, hands out its tokens and goes on behind it.  `Table.Munches` says this of cursors
and states alone.  An input without errors has the tokens that are munched from its start
(`Lexer.tokenize_eq_ok_iff_munches`).
-/

namespace Munch

/-- From a cursor on, in a state, the first candidates of the table follow one another up to the end
of the input, and their tokens are these. -/
inductive Table.Munches {τ : Type} (table : Table τ) : Cursor → StateId → List τ → Prop
  | step {cursor : Cursor} {state : StateId} {candidate : Candidate τ} {decision : Decision τ}
      {tokens : List τ}
      (foremost : table.Foremost cursor state candidate)
      (decided : candidate.rule.action candidate.matched ⟨state, cursor.offset⟩ = decision)
      (rest : Munches table candidate.matched.behind decision.state tokens) :
      Munches table cursor state (decision.outcome.tokens ++ tokens)
  | finish {cursor : Cursor} {state : StateId}
      (none_left : ∀ candidate, ¬ table.Offers cursor state (fun _ => true) candidate)
      (ended : cursor.rest = []) :
      Munches table cursor state []

namespace Lexer

variable {σ τ : Type} {lexer : Lexer σ τ} {session : Session σ τ} {tokens : List τ}

/-- A sweep of a clear session that finds no error is munching. -/
theorem Sweeps.munches (decisive : lexer.table.Decisive)
    (fails : ∀ char position memory,
      ∃ error, (lexer.fallback char position memory).1 = .error error)
    {run : Run σ τ (Except LexError (List τ))} (sweeps : lexer.Sweeps session run)
    (clear : lexer.Clear session) (result_eq : run.result = .ok tokens) :
    lexer.table.Munches session.cursor session.state tokens := by
  induction sweeps generalizing tokens with
  | @step session middle event run step error_eq _ ih =>
      obtain ⟨error | others, final, events⟩ := run
      · contradiction
      · have munches := ih (step.takes decisive clear).2 rfl
        have tokens_eq : event.tokens ++ others = tokens := Except.ok.inj result_eq
        subst tokens
        cases step with
        | reject best decided rejected =>
            have accepts := (decisive _ _ _ (clear.best_iff.mp best)).2 session.context
            rw [decided, rejected] at accepts
            contradiction
        | accept best decided _ => exact .step (clear.best_iff.mp best) decided munches
        | @unmatched char _ answer _ _ _ answered =>
            obtain ⟨error, failed⟩ := fails char session.position session.memory
            rw [answered] at failed
            cases failed
            contradiction
  | error _ _ => contradiction
  | finish none_left ended =>
      cases result_eq
      exact .finish (fun candidate => none_left candidate ∘ clear.offers_iff.mpr) ended

/-- What is munched is what a sweep of a clear session finds. -/
theorem exists_sweeps_of_munches (decisive : lexer.table.Decisive) {cursor : Cursor}
    {state : StateId} (munches : lexer.table.Munches cursor state tokens)
    (clear : lexer.Clear session) (cursor_eq : session.cursor = cursor)
    (state_eq : session.state = state) :
    ∃ run, lexer.Sweeps session run ∧ run.result = .ok tokens := by
  induction munches generalizing session with
  | @step cursor state candidate decision tokens foremost decided _ ih =>
      subst cursor_eq state_eq
      obtain ⟨something, accepts⟩ := decisive _ _ _ foremost
      have accepted : decision.outcome.isReject = false := decided ▸ accepts session.context
      have step : lexer.Step session _ (session.accept candidate decision) :=
        .accept (clear.best_iff.mpr foremost) decided accepted
      obtain ⟨run, sweeps, result_eq⟩ := ih (clear.accept something) rfl rfl
      refine ⟨_, .step step rfl sweeps, ?_⟩
      change run.result.map _ = _
      rw [result_eq]
      rfl
  | finish none_left ended =>
      subst cursor_eq state_eq
      exact ⟨_, .finish (fun candidate => none_left candidate ∘ clear.offers_iff.mp) ended, rfl⟩

/-- Over a decisive table and with a fallback that always fails, an input has the tokens that are
munched from its start, and an error if there are none. -/
theorem tokenize_eq_ok_iff_munches (decisive : lexer.table.Decisive)
    (fails : ∀ char position memory,
      ∃ error, (lexer.fallback char position memory).1 = .error error)
    (input : Text) (memory : σ) :
    (lexer.tokenize (lexer.start input memory)).result = .ok tokens ↔
      lexer.table.Munches (Cursor.start input) initialState tokens := by
  have sweeps : lexer.Sweeps (lexer.start input memory) _ :=
    sweeps_tokenize rfl (by simp [start])
  have clear := lexer.clear_start input memory
  constructor
  · exact sweeps.munches decisive fails clear
  · intro munches
    obtain ⟨run, others, result_eq⟩ := exists_sweeps_of_munches decisive munches clear rfl rfl
    rw [sweeps.deterministic others, result_eq]

end Lexer

end Munch
