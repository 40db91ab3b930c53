import Munch.Proofs.Histories

/-!
# All tokens in one sweep

`Lexer.tokenize` pulls one token after the other, and each pull starts a scan of its own.  Seen step
by step, nothing depends on where one pull ends and the next begins: `Lexer.Sweeps` makes all steps
up to the first error or the end, and collects their tokens on the way.  This is the form in which
two runs are compared that hand out different tokens of the same steps.
-/

namespace Munch

namespace Run

variable {σ τ : Type}

/-- Tokens in front of the result of a run. -/
def withTokens (tokens : List τ) (run : Run σ τ (Except LexError (List τ))) :
    Run σ τ (Except LexError (List τ)) :=
  run.map (Except.map (tokens ++ ·))

/-- A pull and, if it gives a token, the run behind it, with that token and those it leaves pending
in front. -/
def andThen (pull : Run σ τ (Except LexError (Option τ)))
    (rest : Run σ τ (Except LexError (List τ))) : Run σ τ (Except LexError (List τ)) :=
  match pull.result with
  | .ok none => ⟨.ok [], pull.session, pull.events⟩
  | .ok (some token) => (rest.withTokens (token :: pull.session.pending)).after pull.events
  | .error error => ⟨.error error, pull.session, pull.events⟩

theorem withTokens_nil (run : Run σ τ (Except LexError (List τ))) : run.withTokens [] = run := by
  obtain ⟨_ | _, _, _⟩ := run <;> rfl

theorem withTokens_withTokens (first second : List τ) (run : Run σ τ (Except LexError (List τ))) :
    (run.withTokens second).withTokens first = run.withTokens (first ++ second) := by
  obtain ⟨_ | _, _, _⟩ := run
  · rfl
  · simp [withTokens, map, Except.map]

theorem after_andThen (events : List (Event τ)) (pull : Run σ τ (Except LexError (Option τ)))
    (rest : Run σ τ (Except LexError (List τ))) :
    (pull.after events).andThen rest = (pull.andThen rest).after events := by
  obtain ⟨_ | _ | _, _, _⟩ := pull
  · rfl
  · rfl
  · exact (after_after _ _ _).symm

end Run

namespace Lexer

variable {σ τ : Type} {lexer : Lexer σ τ} {session middle : Session σ τ}

/-- All steps up to the first error or the end, and the tokens of all of them. -/
inductive Sweeps (lexer : Lexer σ τ) : Session σ τ → Run σ τ (Except LexError (List τ)) → Prop
  | step {session middle : Session σ τ} {event : Event τ}
      {run : Run σ τ (Except LexError (List τ))}
      (step : lexer.Step session event middle) (error_eq : event.error? = none)
      (rest : Sweeps lexer middle run) :
      Sweeps lexer session ((run.withTokens event.tokens).after [event])
  | error {session middle : Session σ τ} {event : Event τ} {error : LexError}
      (step : lexer.Step session event middle) (error_eq : event.error? = some error) :
      Sweeps lexer session ⟨.error error, { middle with phase := .exhausted }, [event]⟩
  | finish {session : Session σ τ}
      (none_left : ∀ candidate, ¬ lexer.Offers session candidate)
      (ended : session.cursor.rest = []) :
      Sweeps lexer session ⟨.ok [], { session with phase := .done }, []⟩

/-- A sweep has one outcome at most. -/
theorem Sweeps.deterministic {first second : Run σ τ (Except LexError (List τ))}
    (firstSweep : lexer.Sweeps session first) (secondSweep : lexer.Sweeps session second) :
    first = second := by
  induction firstSweep generalizing second with
  | step step error_eq _ ih =>
      cases secondSweep with
      | step otherStep _ otherRest =>
          obtain ⟨rfl, rfl⟩ := step.deterministic otherStep
          rw [ih otherRest]
      | error otherStep otherError =>
          obtain ⟨rfl, rfl⟩ := step.deterministic otherStep
          rw [error_eq] at otherError
          contradiction
      | finish none_left ended => exact absurd ended (step.not_finished none_left)
  | error step error_eq =>
      cases secondSweep with
      | step otherStep otherError _ =>
          obtain ⟨rfl, rfl⟩ := step.deterministic otherStep
          rw [error_eq] at otherError
          contradiction
      | error otherStep otherError =>
          obtain ⟨rfl, rfl⟩ := step.deterministic otherStep
          cases error_eq.symm.trans otherError
          rfl
      | finish none_left ended => exact absurd ended (step.not_finished none_left)
  | finish none_left ended =>
      cases secondSweep with
      | step step _ _ => exact absurd ended (step.not_finished none_left)
      | error step _ => exact absurd ended (step.not_finished none_left)
      | finish _ _ => rfl

/-- The phase of a session has no influence on a sweep. -/
theorem Sweeps.with_phase {run : Run σ τ (Except LexError (List τ))}
    (sweeps : lexer.Sweeps session run) (phase : Phase) :
    lexer.Sweeps { session with phase := phase } run := by
  cases sweeps with
  | step step error_eq rest => exact .step (step.with_phase phase) error_eq rest
  | error step error_eq => exact .error (step.with_phase phase) error_eq
  | finish none_left ended =>
      exact @Sweeps.finish _ _ _ { session with phase := phase } none_left ended

/-! ## Pulls make up a sweep -/

/-- A step leaves the pending tokens alone. -/
theorem Step.pending_eq {event : Event τ} (step : lexer.Step session event middle) :
    middle.pending = session.pending := by
  cases step <;> rfl

/-- A scan is the beginning of a sweep. -/
theorem Scans.sweeps {run : Run σ τ (Except LexError (Option τ))} (scans : lexer.Scans session run)
    (pending_eq : session.pending = []) (swept : Run σ τ (Except LexError (List τ)))
    (rest : ∀ found, run.result = .ok (some found) →
      lexer.Sweeps { run.session with pending := [] } swept) :
    lexer.Sweeps session (run.andThen swept) := by
  induction scans with
  | quiet step quiet _ ih =>
      have sweeps := Sweeps.step step quiet.2 (ih (step.pending_eq.trans pending_eq) rest)
      rwa [quiet.1, Run.withTokens_nil, ← Run.after_andThen] at sweeps
  | @token session middle event found tokens step tokens_eq =>
      have stays : middle.pending = [] := step.pending_eq.trans pending_eq
      have error_eq : event.error? = none := by
        cases error_eq : event.error? with
        | none => rfl
        | some error => simp [Event.tokens_of_error? error_eq] at tokens_eq
      have behind := (rest found rfl).with_phase middle.phase
      have same : { middle with pending := [] } = middle := by rw [← stays]
      change lexer.Sweeps { middle with pending := [] } swept at behind
      rw [same] at behind
      have sweeps := Sweeps.step step error_eq behind
      rw [tokens_eq] at sweeps
      simpa only [Run.andThen, stays, List.nil_append] using sweeps
  | error step error_eq => exact .error step error_eq
  | finish none_left ended => exact .finish none_left ended

/-- A scan that finds a token leaves the session ready for the next pull. -/
theorem Scans.phase_eq_idle {run : Run σ τ (Except LexError (Option τ))} {found : τ}
    (scans : lexer.Scans session run) (result_eq : run.result = .ok (some found)) :
    run.session.phase = .idle := by
  induction scans with
  | quiet _ _ _ ih => exact ih result_eq
  | token _ _ => rfl
  | error _ _ => simp at result_eq
  | finish _ _ => simp at result_eq

/-- Pulling all tokens is a sweep, with the pending tokens in front. -/
theorem Drains.sweeps {run : Run σ τ (Except LexError (List τ))} (drains : lexer.Drains session run)
    (unfinished : session.phase ≠ .done) :
    ∃ swept, lexer.Sweeps { session with pending := [] } swept ∧
      run = swept.withTokens session.pending := by
  induction drains with
  | @finish session final events pull =>
      cases pull with
      | ended _ done => contradiction
      | scan pending_eq _ scans =>
          obtain ⟨cursor, state, pending, tried, phase, memory⟩ := session
          cases pending_eq
          exact ⟨_, scans.sweeps rfl ⟨.ok [], final, []⟩ fun _ found => by simp at found, rfl⟩
  | @error session final events error pull =>
      cases pull with
      | scan pending_eq _ scans =>
          obtain ⟨cursor, state, pending, tried, phase, memory⟩ := session
          cases pending_eq
          exact ⟨_, scans.sweeps rfl ⟨.ok [], final, []⟩ fun _ found => by simp at found, rfl⟩
  | @token session middle events found rest pull _ ih =>
      cases pull with
      | @serve _ tokens pending_eq =>
          obtain ⟨swept, sweeps, rfl⟩ := ih unfinished
          refine ⟨swept, sweeps, ?_⟩
          rw [pending_eq]
          exact swept.withTokens_withTokens [found] tokens
      | scan pending_eq _ scans =>
          have ready : middle.phase = .idle := scans.phase_eq_idle rfl
          obtain ⟨swept, sweeps, rfl⟩ := ih (by simp [ready])
          obtain ⟨cursor, state, pending, tried, phase, memory⟩ := session
          cases pending_eq
          refine ⟨_, scans.sweeps rfl swept fun _ _ => sweeps, ?_⟩
          rw [Run.withTokens_nil]
          exact congrArg (Run.after events) (swept.withTokens_withTokens [found] middle.pending)

/-- `Lexer.tokenize` sweeps a session that has not ended. -/
theorem sweeps_tokenize (pending_eq : session.pending = []) (unfinished : session.phase ≠ .done) :
    lexer.Sweeps session (lexer.tokenize session) := by
  obtain ⟨swept, sweeps, tokenize_eq⟩ := (lexer.drains_tokenize session).sweeps unfinished
  rw [pending_eq, Run.withTokens_nil] at tokenize_eq
  obtain ⟨cursor, state, pending, tried, phase, memory⟩ := session
  cases pending_eq
  rw [tokenize_eq]
  exact sweeps

/-- An error is an answer of the fallback. -/
theorem Sweeps.exists_answer {run : Run σ τ (Except LexError (List τ))} {error : LexError}
    (sweeps : lexer.Sweeps session run) (result_eq : run.result = .error error) :
    ∃ char position memory, (lexer.fallback char position memory).1 = .error error := by
  induction sweeps with
  | @step _ _ event run step _ _ ih =>
      obtain ⟨_ | _, _, _⟩ := run
      · exact ih result_eq
      · simp [Run.after, Run.withTokens, Run.map, Except.map] at result_eq
  | @error session _ event error step error_eq =>
      cases result_eq
      cases step with
      | reject _ _ _ => contradiction
      | accept _ _ _ => contradiction
      | @unmatched char _ answer _ _ _ answered =>
          refine ⟨char, session.position, session.memory, ?_⟩
          cases answer with
          | error _ =>
              cases error_eq
              rw [answered]
          | ok _ => contradiction
  | finish _ _ => simp at result_eq

end Lexer

end Munch
