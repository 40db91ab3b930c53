import Munch.Proofs.Sweep

/-!
# Every token is handed out once

A pull gives at most one token and may leave others pending; what it gives and leaves is what was
pending before and what the events of the pull have made.  So over any number of pulls the tokens
given and the tokens pending are those made, in the order in which they were made.

The operations of a client are pulls in a row.  `Lexer.Amounts` says which, and what the answer of an
operation tells of their results: a successful `Lexer.tokenize` tells all of them, and a failed one
tells the error and drops the tokens that it has pulled.  `Lexer.Delivers` collects the tokens that a
history pulls, dropped or not.
-/

namespace Munch

variable {σ τ : Type}

/-! ## Pulls in a row -/

/-- An operation that is made of pulls answers with their results: one of them, those up to a limit
or the end, or all tokens up to the end.  An error in place of tokens hides the tokens before it. -/
inductive Answer.Reports : Answer τ → List (Except LexError (Option τ)) → Prop
  | pulled (result : Except LexError (Option τ)) : Reports (.pulled result) [result]
  | limit (results : List (Except LexError τ)) :
      Reports (.items results) (results.map (Except.map some))
  | ending (results : List (Except LexError τ)) :
      Reports (.items results) (results.map (Except.map some) ++ [.ok none])
  | success (tokens : List τ) :
      Reports (.tokens (.ok tokens)) (tokens.map (fun token => .ok (some token)) ++ [.ok none])
  | failure (tokens : List τ) (error : LexError) :
      Reports (.tokens (.error error))
        (tokens.map (fun token => .ok (some token)) ++ [.error error])
  | slice (remaining : Slice) : Reports (.slice remaining) []

namespace Answer.Reports

variable {results : List (Except LexError (Option τ))}

/-- A token or an error more at the front. -/
theorem items_cons {items : List (Except LexError τ)} (reports : (Answer.items items).Reports results)
    (item : Except LexError τ) :
    (Answer.items (item :: items)).Reports (item.map some :: results) := by
  cases reports with
  | limit => exact .limit (item :: items)
  | ending => exact .ending (item :: items)

/-- A token more at the front, which an error hides like the others. -/
theorem tokens_cons {result : Except LexError (List τ)}
    (reports : (Answer.tokens result).Reports results) (token : τ) :
    (Answer.tokens (result.map (token :: ·))).Reports (.ok (some token) :: results) := by
  cases reports with
  | success tokens => exact .success (token :: tokens)
  | failure tokens error => exact .failure (token :: tokens) error

end Answer.Reports

/-- The token that a pull gives, if it gives one. -/
def given : Except LexError (Option τ) → List τ
  | .ok found => found.toList
  | .error _ => []

namespace Lexer

/-- So many pulls in a row, and the result of each. -/
def pullTimes (lexer : Lexer σ τ) :
    (count : Nat) → Session σ τ → Run σ τ (List (Except LexError (Option τ)))
  | 0, session => ⟨[], session, []⟩
  | count + 1, session =>
      let pull := lexer.next session
      ((lexer.pullTimes count pull.session).map (pull.result :: ·)).after pull.events

/-- An operation amounts to so many pulls in a row: the same happens, the session behind is the same,
and the answer tells of their results. -/
structure Amounts (lexer : Lexer σ τ) (session : Session σ τ) (operation : Operation) (count : Nat) :
    Prop where
  reports :
    (lexer.perform session operation).result.Reports (lexer.pullTimes count session).result
  session_eq : (lexer.perform session operation).session = (lexer.pullTimes count session).session
  events_eq : (lexer.perform session operation).events = (lexer.pullTimes count session).events

/-- The tokens that operations pull, those of a failed `Lexer.tokenize` included. -/
inductive Delivers (lexer : Lexer σ τ) : Session σ τ → List Operation → List τ → Prop
  | nil (session : Session σ τ) : Delivers lexer session [] []
  | setState {session : Session σ τ} {operations : List Operation} {tokens : List τ}
      (state : StateId) (rest : Delivers lexer (session.setState state) operations tokens) :
      Delivers lexer session (.setState state :: operations) tokens
  | pulls {session : Session σ τ} {operation : Operation} {operations : List Operation}
      {tokens : List τ} {count : Nat} (amounts : lexer.Amounts session operation count)
      (rest : Delivers lexer (lexer.perform session operation).session operations tokens) :
      Delivers lexer session (operation :: operations)
        ((lexer.pullTimes count session).result.flatMap given ++ tokens)

variable {lexer : Lexer σ τ} {session middle final : Session σ τ} {events : List (Event τ)}

theorem next_eq_of_pulls {run : Run σ τ (Except LexError (Option τ))}
    (pulls : lexer.Pulls session run) : lexer.next session = run :=
  (lexer.pulls_next session).deterministic pulls

/-- One pull, and then others. -/
theorem pullTimes_succ_of_pulls {result : Except LexError (Option τ)}
    (pulls : lexer.Pulls session ⟨result, middle, events⟩) (count : Nat) :
    lexer.pullTimes (count + 1) session =
      ((lexer.pullTimes count middle).map (result :: ·)).after events := by
  rw [pullTimes, next_eq_of_pulls pulls]

/-- Pulling up to a limit keeps a token or an error and goes on. -/
theorem take_succ_of_pulls {item : Except LexError τ}
    (pulls : lexer.Pulls session ⟨item.map some, middle, events⟩) (limit : Nat) :
    lexer.take (limit + 1) session =
      ((lexer.take limit middle).map (item :: ·)).after events := by
  rw [take, next_eq_of_pulls pulls]
  cases item <;> rfl

/-- Pulling up to a limit stops at the end. -/
theorem take_succ_of_ended (pulls : lexer.Pulls session ⟨.ok none, middle, events⟩) (limit : Nat) :
    lexer.take (limit + 1) session = ⟨[], middle, events⟩ := by
  rw [take, next_eq_of_pulls pulls]

/-! ## Operations are pulls -/

theorem amounts_next (lexer : Lexer σ τ) (session : Session σ τ) :
    lexer.Amounts session .next 1 where
  reports := .pulled _
  session_eq := rfl
  events_eq := (List.append_nil _).symm

theorem amounts_remaining (lexer : Lexer σ τ) (session : Session σ τ) :
    lexer.Amounts session .remaining 0 where
  reports := .slice _
  session_eq := rfl
  events_eq := rfl

/-- Pulling some tokens and errors stops at the limit or at the end. -/
theorem exists_amounts_take (lexer : Lexer σ τ) (session : Session σ τ) (limit : Nat) :
    ∃ count, lexer.Amounts session (.take limit) count := by
  induction limit generalizing session with
  | zero => exact ⟨0, .limit [], rfl, rfl⟩
  | succ limit ih =>
      have pull := lexer.pulls_next session
      generalize lexer.next session = pulled at pull
      obtain ⟨result, middle, events⟩ := pulled
      -- a token and an error are kept alike, and pulling goes on behind both
      have further : ∀ item : Except LexError τ, result = item.map some →
          ∃ count, lexer.Amounts session (.take (limit + 1)) count := by
        rintro item rfl
        obtain ⟨count, reports, session_eq, events_eq⟩ := ih middle
        refine ⟨count + 1, ?_, ?_, ?_⟩
        all_goals rw [perform, take_succ_of_pulls pull, pullTimes_succ_of_pulls pull]
        · exact reports.items_cons item
        · exact session_eq
        · exact congrArg (events ++ ·) events_eq
      cases result with
      | error error => exact further (.error error) rfl
      | ok found =>
          cases found with
          | some token => exact further (.ok token) rfl
          | none =>
              refine ⟨1, ?_, ?_, ?_⟩
              all_goals rw [perform, take_succ_of_ended pull, pullTimes_succ_of_pulls pull]
              · exact .ending []
              · rfl
              · exact (List.append_nil _).symm

/-- Pulling all tokens stops at the first error or at the end. -/
theorem Drains.exists_pullTimes {run : Run σ τ (Except LexError (List τ))}
    (drains : lexer.Drains session run) :
    ∃ count, (Answer.tokens run.result).Reports (lexer.pullTimes count session).result ∧
      run.session = (lexer.pullTimes count session).session ∧
      run.events = (lexer.pullTimes count session).events := by
  induction drains with
  | finish pull =>
      refine ⟨1, ?_⟩
      rw [pullTimes_succ_of_pulls pull]
      exact ⟨.success [], rfl, (List.append_nil _).symm⟩
  | error pull =>
      refine ⟨1, ?_⟩
      rw [pullTimes_succ_of_pulls pull]
      exact ⟨.failure [] _, rfl, (List.append_nil _).symm⟩
  | @token session middle events found rest pull _ ih =>
      obtain ⟨count, reports, session_eq, events_eq⟩ := ih
      refine ⟨count + 1, ?_⟩
      rw [pullTimes_succ_of_pulls pull]
      exact ⟨reports.tokens_cons found, session_eq, congrArg (events ++ ·) events_eq⟩

theorem exists_amounts_tokenize (lexer : Lexer σ τ) (session : Session σ τ) :
    ∃ count, lexer.Amounts session .tokenize count := by
  obtain ⟨count, reports, session_eq, events_eq⟩ :=
    (lexer.drains_tokenize session).exists_pullTimes
  exact ⟨count, reports, session_eq, events_eq⟩

/-- Every history pulls some tokens. -/
theorem exists_delivers {operations : List Operation}
    (continued : ∀ operation ∈ operations, operation.isReset = false) :
    ∃ tokens, lexer.Delivers session operations tokens := by
  induction operations generalizing session with
  | nil => exact ⟨[], .nil session⟩
  | cons operation operations ih =>
      obtain ⟨first, others⟩ := List.forall_mem_cons.mp continued
      obtain ⟨tokens, rest⟩ : ∃ tokens, lexer.Delivers
          (lexer.perform session operation).session operations tokens := ih others
      cases operation with
      | next => exact ⟨_, .pulls (lexer.amounts_next session) rest⟩
      | take limit =>
          obtain ⟨count, amounts⟩ := lexer.exists_amounts_take session limit
          exact ⟨_, .pulls amounts rest⟩
      | tokenize =>
          obtain ⟨count, amounts⟩ := lexer.exists_amounts_tokenize session
          exact ⟨_, .pulls amounts rest⟩
      | remaining => exact ⟨_, .pulls (lexer.amounts_remaining session) rest⟩
      | setState state => exact ⟨_, .setState state rest⟩
      | reset input => contradiction

/-! ## What is given and what is left -/

/-- A scan gives the first of the tokens that it makes and leaves the others. -/
theorem Scans.given_append_pending {run : Run σ τ (Except LexError (Option τ))}
    (scans : lexer.Scans session run) (pending_eq : session.pending = []) :
    given run.result ++ run.session.pending = run.events.flatMap Event.tokens := by
  induction scans with
  | quiet step quiet _ ih =>
      have rest := ih (step.pending_eq.trans pending_eq)
      rw [Run.after, List.singleton_append, List.flatMap_cons, quiet.1, List.nil_append]
      exact rest
  | token step tokens_eq =>
      have stays := step.pending_eq.trans pending_eq
      simp [given, stays, tokens_eq]
  | error step error_eq =>
      have stays := step.pending_eq.trans pending_eq
      simp [given, stays, Event.tokens_of_error? error_eq]
  | finish _ _ => exact pending_eq

/-- What a pull gives and leaves is what was pending and what it makes. -/
theorem Pulls.given_append_pending {run : Run σ τ (Except LexError (Option τ))}
    (pulls : lexer.Pulls session run) :
    given run.result ++ run.session.pending =
      session.pending ++ run.events.flatMap Event.tokens := by
  cases pulls with
  | serve pending_eq => simp [given, pending_eq]
  | ended pending_eq _ => simp [given]
  | scan pending_eq _ scans =>
      rw [pending_eq]
      exact scans.given_append_pending pending_eq

/-- The same over pulls in a row. -/
theorem pullTimes_append_pending (lexer : Lexer σ τ) (count : Nat) (session : Session σ τ) :
    (lexer.pullTimes count session).result.flatMap given ++
        (lexer.pullTimes count session).session.pending =
      session.pending ++ (lexer.pullTimes count session).events.flatMap Event.tokens := by
  induction count generalizing session with
  | zero => simp [pullTimes]
  | succ count ih =>
      have first := (lexer.pulls_next session).given_append_pending
      have others := ih (lexer.next session).session
      rw [pullTimes]
      generalize lexer.next session = pulled at first others
      generalize lexer.pullTimes count pulled.session = rest at others
      change (given pulled.result ++ rest.result.flatMap given) ++ rest.session.pending =
        session.pending ++ (pulled.events ++ rest.events).flatMap Event.tokens
      rw [List.append_assoc, others, ← List.append_assoc, first, List.append_assoc,
        List.flatMap_append]

/-- The same over histories. -/
theorem Delivers.append_pending {operations : List Operation} {tokens : List τ}
    (delivers : lexer.Delivers session operations tokens) :
    tokens ++ (lexer.performAll session operations).session.pending =
      session.pending ++ (lexer.performAll session operations).events.flatMap Event.tokens := by
  induction delivers with
  | nil session => simp [performAll]
  | setState state _ ih => exact ih
  | @pulls session operation operations tokens count amounts _ ih =>
      have first := lexer.pullTimes_append_pending count session
      rw [← amounts.session_eq, ← amounts.events_eq] at first
      change _ = session.pending ++
        ((lexer.perform session operation).events ++ _).flatMap Event.tokens
      rw [List.append_assoc, List.flatMap_append, ← List.append_assoc session.pending, ← first,
        List.append_assoc]
      exact congrArg _ ih

/-! ## Whole sessions -/

/-- Whatever is done with a fresh session, short of starting over, no token is lost, handed out twice
or handed out of turn.  A pull for a pending token does nothing else, and pulling all tokens is
pulling them one by one. -/
theorem delivered_append_pending {input : Text} (fresh : lexer.Fresh input session)
    {operations : List Operation}
    (continued : ∀ operation ∈ operations, operation.isReset = false) :
    (∃ tokens, lexer.Delivers session operations tokens) ∧
      (∀ tokens, lexer.Delivers session operations tokens →
        tokens ++ (lexer.performAll session operations).session.pending =
          (lexer.performAll session operations).events.flatMap Event.tokens) ∧
      (∀ reached token tokens, reached.pending = token :: tokens →
        lexer.next reached = ⟨.ok (some token), { reached with pending := tokens }, []⟩) ∧
      ∀ reached, ∃ count, lexer.Amounts reached .tokenize count := by
  refine ⟨exists_delivers continued, ?_, ?_, lexer.exists_amounts_tokenize⟩
  · intro tokens delivers
    have together := delivers.append_pending
    rw [fresh.eq_start] at together ⊢
    exact together
  · intro reached token tokens pending_eq
    exact next_eq_of_pulls (.serve pending_eq)

/-- A letter gives two tokens.  Of other characters `!` is an error, and the others give two tokens
as well. -/
def twins : Lexer Unit (Token String) where
  table :=
    { rules :=
        [⟨{ source := "[a-z]" }, Matcher.ofExpr (.oneOf (.range 'a' 'z')), .global,
            fun matched context =>
              ⟨.emitAll [matched.token "A", matched.token "B"], context.state⟩⟩] }
  fallback := fun char position memory =>
    (if char = '!' then .error (.unexpected char position)
      else .ok (.emitAll
        [⟨"C", Slice.ofText [char], position⟩, ⟨"D", Slice.ofText [char], position⟩]), memory)

/-- The second operation pulls three tokens, one of them pending, and drops them at the error; the
last one leaves a token pending. -/
theorem delivered_append_pending_twins :
    twins.Fresh ['a', '?', '!', 'b'] (twins.start ['a', '?', '!', 'b'] ()) ∧
      (∀ operation ∈ [.next, .tokenize, .next], Operation.isReset operation = false) ∧
      ((twins.performAll (twins.start ['a', '?', '!', 'b'] ())
        [.next, .tokenize, .next]).events.flatMap Event.tokens).map Token.kind =
          ["A", "B", "C", "D", "A", "B"] ∧
      (twins.performAll (twins.start ['a', '?', '!', 'b'] ())
        [.next, .tokenize, .next]).session.pending.map Token.kind = ["B"] ∧
      (∃ tokens, twins.Delivers (twins.start ['a', '?', '!', 'b'] ())
        [.next, .tokenize, .next] tokens) ∧
      ∀ tokens, twins.Delivers (twins.start ['a', '?', '!', 'b'] ()) [.next, .tokenize, .next]
          tokens →
        tokens ++ (twins.performAll (twins.start ['a', '?', '!', 'b'] ())
            [.next, .tokenize, .next]).session.pending =
          (twins.performAll (twins.start ['a', '?', '!', 'b'] ())
            [.next, .tokenize, .next]).events.flatMap Event.tokens :=
  ⟨.start (), by decide, by decide, by decide,
    (delivered_append_pending (.start ()) (by decide)).1,
    (delivered_append_pending (.start ()) (by decide)).2.1⟩

end Lexer

end Munch
