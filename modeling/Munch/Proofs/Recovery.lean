import Munch.Proofs.Delivery

/-!
# Recovery drops the errors

A lenient lexer passes over the characters that no rule accepts, in the middle of a pull.  A strict
one ends the pull with an error there, and the next pull resumes behind the character.  Both take the
same steps through the same sessions: `Lexer.take_of_step` says that pulling on and on from a session
gives what its next step makes, and then what pulling on from the session behind that step gives,
wherever one pull ends and the next begins.

So the tokens of the lenient lexer are the items of the strict one without the errors, and there is
an error for each character passed over.
-/

namespace Munch

variable {σ τ : Type}

/-! ## Pulling on over a step -/

/-- The error of an item. -/
def itemError? : Except LexError τ → Option LexError
  | .ok _ => none
  | .error error => some error

namespace Event

/-- What the step of an event adds to the items pulled. -/
def items (event : Event τ) : List (Except LexError τ) :=
  event.tokens.map .ok ++ event.error?.toList.map .error

theorem filterMap_toOption_items (event : Event τ) :
    event.items.filterMap Except.toOption = event.tokens := by
  rw [items, List.filterMap_append, List.filterMap_map, List.filterMap_map]
  change event.tokens.filterMap some ++ event.error?.toList.filterMap (fun _ => none) = _
  simp

theorem filterMap_itemError?_items (event : Event τ) :
    event.items.filterMap itemError? = event.error?.toList := by
  rw [items, List.filterMap_append, List.filterMap_map, List.filterMap_map]
  change event.tokens.filterMap (fun _ => none) ++ event.error?.toList.filterMap some = _
  simp

end Event

namespace Lexer

variable {lexer : Lexer σ τ} {session middle : Session σ τ} {event : Event τ}

/-- A step does not end a session. -/
theorem Step.phase_ne_done (step : lexer.Step session event middle) : middle.phase ≠ .done := by
  cases step <;> exact nofun

/-- Where no token is pending, a pull of a session that has not ended scans. -/
theorem scans_next (pending_eq : session.pending = []) (unfinished : session.phase ≠ .done) :
    lexer.Scans session (lexer.next session) := by
  have pulls := lexer.pulls_next session
  generalize lexer.next session = run at pulls ⊢
  cases pulls with
  | serve other => simp [pending_eq] at other
  | ended _ done => contradiction
  | scan _ _ scans => exact scans

/-- If a pull is another one with some events in front, so is pulling on. -/
theorem take_of_next_eq {other : Session σ τ} {events : List (Event τ)}
    (next_eq : lexer.next session = (lexer.next other).after events) (limit : Nat) :
    lexer.take (limit + 1) session = (lexer.take (limit + 1) other).after events := by
  rw [take, take, next_eq]
  generalize lexer.next other = pulled
  rcases pulled with ⟨error | _ | token, behind, others⟩
  · exact (Run.after_after events others _).symm
  · rfl
  · exact (Run.after_after events others _).symm

/-- Where no token is pending, it does not matter in which phase a session is, short of its end. -/
theorem take_with_phase (pending_eq : session.pending = []) (unfinished : session.phase ≠ .done)
    {phase : Phase} (phase_ne : phase ≠ .done) (limit : Nat) :
    lexer.take (limit + 1) { session with phase := phase } = lexer.take (limit + 1) session := by
  have scans : lexer.Scans session (lexer.next session) := scans_next pending_eq unfinished
  have next_eq : lexer.next { session with phase := phase } = (lexer.next session).after [] :=
    next_eq_of_pulls (.scan pending_eq phase_ne (scans.with_phase phase))
  exact take_of_next_eq next_eq limit

/-- Pending tokens come first. -/
theorem take_pending (lexer : Lexer σ τ) (session : Session σ τ) (tokens : List τ) (limit : Nat) :
    lexer.take (tokens.length + limit) { session with pending := tokens } =
      (lexer.take limit { session with pending := [] }).map (tokens.map .ok ++ ·) := by
  induction tokens with
  | nil =>
      rw [List.length_nil, Nat.zero_add]
      rfl
  | cons token tokens ih =>
      have pull : lexer.Pulls { session with pending := token :: tokens }
          ⟨Except.map some (.ok token), { session with pending := tokens }, []⟩ := .serve rfl
      rw [List.length_cons, Nat.add_right_comm, take_succ_of_pulls pull, ih]
      rfl

/-- Pulling on from a session gives what its next step makes, and then what pulling on from the
session behind that step gives. -/
theorem take_of_step (pending_eq : session.pending = []) (unfinished : session.phase ≠ .done)
    (step : lexer.Step session event middle) (limit : Nat) :
    lexer.take (event.items.length + (limit + 1)) session =
      ((lexer.take (limit + 1) middle).map (event.items ++ ·)).after [event] := by
  have stays : middle.pending = [] := step.pending_eq.trans pending_eq
  -- the pull ends at the step with an error or a token, or it goes on behind the step
  cases error_eq : event.error? with
  | some error =>
      have items_eq : event.items = [.error error] := by
        simp [Event.items, error_eq, Event.tokens_of_error? error_eq]
      have pull : lexer.Pulls session
          ⟨Except.map some (.error error), { middle with phase := .exhausted }, [event]⟩ :=
        .scan pending_eq unfinished (.error step error_eq)
      have resumed : lexer.take (limit + 1) { middle with phase := .exhausted } =
          lexer.take (limit + 1) middle := take_with_phase stays step.phase_ne_done (by simp) limit
      rw [items_eq, List.length_singleton, Nat.add_comm, take_succ_of_pulls pull, resumed]
      rfl
  | none =>
      cases tokens_eq : event.tokens with
      | nil =>
          have items_eq : event.items = [] := by
            simp [Event.items, error_eq, tokens_eq]
          have scans : lexer.Scans session ((lexer.next middle).after [event]) :=
            .quiet step ⟨tokens_eq, error_eq⟩ (scans_next stays step.phase_ne_done)
          rw [items_eq, List.length_nil, Nat.zero_add,
            take_of_next_eq (next_eq_of_pulls (.scan pending_eq unfinished scans))]
          rfl
      | cons token tokens =>
          have items_eq : event.items = .ok token :: tokens.map .ok := by
            simp [Event.items, error_eq, tokens_eq]
          have pull : lexer.Pulls session
              ⟨Except.map some (.ok token),
                { middle with pending := middle.pending ++ tokens, phase := .idle }, [event]⟩ :=
            .scan pending_eq unfinished (.token step tokens_eq)
          have others := lexer.take_pending { middle with phase := .idle } tokens (limit + 1)
          have ready : lexer.take (limit + 1) { middle with phase := .idle } =
              lexer.take (limit + 1) middle := take_with_phase stays step.phase_ne_done (by simp) limit
          rw [stays, List.nil_append] at pull
          rw [stays] at ready
          rw [items_eq, List.length_cons, List.length_map, Nat.add_right_comm,
            take_succ_of_pulls pull, others, ready]
          rfl

end Lexer

/-! ## Strict and lenient lexers -/

/-- The lexer for which a character that no rule accepts is an error. -/
def Table.strict (table : Table τ) : Lexer σ τ :=
  ⟨table, Fallback.fail⟩

/-- The lexer that passes over the characters that no rule accepts. -/
def Table.lenient (table : Table τ) : Lexer σ τ :=
  ⟨table, Fallback.skip⟩

namespace Event

/-- The error that cites the character handed to the fallback. -/
def citation? : Event τ → Option LexError
  | applied _ _ _ _ => none
  | unmatched char position _ => some (.unexpected char position)

/-- The event with an error in place of what the fallback answers. -/
def cited : Event τ → Event τ
  | applied index matched context decision => applied index matched context decision
  | unmatched char position _ => unmatched char position (.error (.unexpected char position))

theorem error?_cited (event : Event τ) : event.cited.error? = event.citation? := by
  cases event <;> rfl

end Event

namespace Lexer

variable {table : Table τ} {session middle : Session σ τ} {event : Event τ}

/-- Each step of the lenient lexer is a step of the strict one, to the same session. -/
theorem Step.cited (step : table.lenient.Step session event middle) :
    table.strict.Step session event.cited middle := by
  cases step with
  | reject best decided rejected =>
      exact .reject ⟨best.offered, best.longest, best.earliest⟩ decided rejected
  | accept best decided accepted =>
      exact .accept ⟨best.offered, best.longest, best.earliest⟩ decided accepted
  | unmatched none_left advanced answered =>
      cases answered
      exact .unmatched none_left advanced rfl

/-- The lenient lexer makes no token of a character that it passes over. -/
theorem Step.tokens_cited (step : table.lenient.Step session event middle) :
    event.cited.tokens = event.tokens := by
  cases step with
  | reject _ _ _ => rfl
  | accept _ _ _ => rfl
  | unmatched _ _ answered =>
      cases answered
      rfl

/-- The lenient lexer makes no error. -/
theorem Step.error?_eq_none (step : table.lenient.Step session event middle) :
    event.error? = none := by
  cases step with
  | reject _ _ _ => rfl
  | accept _ _ _ => rfl
  | unmatched _ _ answered =>
      cases answered
      rfl

/-- What the strict lexer gives, errors and all, is what the lenient lexer makes of the same input,
with an error for each character passed over. -/
structure Recovers (swept : Run σ τ (Except LexError (List τ)))
    (driven : Run σ τ (List (Except LexError τ))) : Prop where
  tokens : swept.result = .ok (driven.result.filterMap Except.toOption)
  errors : driven.result.filterMap itemError? = swept.events.filterMap Event.citation?
  session_eq : swept.session = driven.session
  pending_eq : driven.session.pending = []
  phase_eq : driven.session.phase = .done

/-- A step makes the same tokens for both, and an error for the strict lexer alone. -/
theorem Recovers.step {swept : Run σ τ (Except LexError (List τ))}
    {driven : Run σ τ (List (Except LexError τ))} (recovers : Recovers swept driven)
    (step : table.lenient.Step session event middle) :
    Recovers ((swept.withTokens event.tokens).after [event])
      ((driven.map (event.cited.items ++ ·)).after [event.cited]) where
  tokens := by
    change swept.result.map (event.tokens ++ ·) = .ok ((_ ++ driven.result).filterMap _)
    rw [recovers.tokens, List.filterMap_append, Event.filterMap_toOption_items, step.tokens_cited]
    rfl
  errors := by
    change (_ ++ driven.result).filterMap _ = ([event] ++ swept.events).filterMap _
    rw [List.filterMap_append, List.filterMap_append, recovers.errors,
      Event.filterMap_itemError?_items, Event.error?_cited]
    cases citation_eq : event.citation? <;> simp [citation_eq]
  session_eq := recovers.session_eq
  pending_eq := recovers.pending_eq
  phase_eq := recovers.phase_eq

/-- Wherever the lenient lexer sweeps, pulling on and on with the strict one comes to the same end. -/
theorem Sweeps.recovers {swept : Run σ τ (Except LexError (List τ))}
    (sweeps : table.lenient.Sweeps session swept) (pending_eq : session.pending = [])
    (unfinished : session.phase ≠ .done) :
    ∃ driven, (∀ limit, driven.result.length < limit →
        table.strict.take limit session = driven) ∧ Recovers swept driven := by
  induction sweeps with
  | @step session middle event swept step error_eq _ ih =>
      obtain ⟨driven, reached, recovers⟩ :=
        ih (step.pending_eq.trans pending_eq) step.phase_ne_done
      refine ⟨(driven.map (event.cited.items ++ ·)).after [event.cited], ?_, ?_⟩
      · intro limit enough
        have enough : event.cited.items.length + driven.result.length < limit := by
          simpa [Run.after, Run.map] using enough
        -- the items of the step leave room for one pull more than there are items behind it
        obtain ⟨further, rfl⟩ : ∃ further, limit = event.cited.items.length + (further + 1) :=
          ⟨limit - event.cited.items.length - 1, by omega⟩
        rw [take_of_step pending_eq unfinished step.cited, reached (further + 1) (by omega)]
      · exact recovers.step step
  | error step error_eq =>
      rw [step.error?_eq_none] at error_eq
      contradiction
  | @finish session none_left ended =>
      have pull : table.strict.Pulls session ⟨.ok none, { session with phase := .done }, []⟩ :=
        .scan pending_eq unfinished (.finish none_left ended)
      refine ⟨⟨[], { session with phase := .done }, []⟩, ?_, rfl, rfl, rfl, pending_eq, rfl⟩
      intro limit enough
      obtain ⟨further, rfl⟩ : ∃ further, limit = further + 1 :=
        Nat.exists_eq_succ_of_ne_zero (Nat.ne_of_gt enough)
      exact take_succ_of_ended pull further

/-- Pulling all tokens with the lenient lexer gives what pulling on and on with the strict one gives,
up to its end, without the errors.  Both come to the same end, and the errors cite the characters
passed over, in order.  With a limit beyond the number of items, the end has been seen. -/
theorem tokenize_lenient_eq_take_strict (table : Table τ) (input : Text) (memory : σ) :
    ∃ driven, (∀ limit, driven.result.length < limit →
        table.strict.take limit (table.strict.start input memory) = driven) ∧
      Recovers (table.lenient.tokenize (table.lenient.start input memory)) driven :=
  Sweeps.recovers (sweeps_tokenize rfl (by simp [start])) rfl (by simp [start])

end Lexer

end Munch
