import Munch.Proofs.Refinement

/-!
# Histories

Whatever a client does with a session short of starting over, it pulls and it changes the state.
`Lexer.History` are the sequences of these, and `Lexer.history_performAll` says that every list of
operations is one.  In particular `Lexer.tokenize` is `Lexer.Drains`, the loop that pulls until
there is an error or the end; it hands out the pending tokens of each pull in one go, which makes no
difference.

A history is also a `Lexer.Course`: a sequence of steps of the protocol, between which state,
pending tokens and phase may be anything.  What concerns only the cursor and the rules tried is
proved of courses, one step at a time.
-/

namespace Munch

/-- Whether an operation starts over. -/
def Operation.isReset : Operation → Bool
  | reset _ => true
  | _ => false

namespace Lexer

variable {σ τ : Type} {lexer : Lexer σ τ} {session middle final : Session σ τ}

/-! ## Pulling all tokens -/

/-- Pulls up to the first error or the end.  The tokens are collected, and an error discards
them. -/
inductive Drains (lexer : Lexer σ τ) : Session σ τ → Run σ τ (Except LexError (List τ)) → Prop
  | finish {session final : Session σ τ} {events : List (Event τ)}
      (pull : lexer.Pulls session ⟨.ok none, final, events⟩) :
      Drains lexer session ⟨.ok [], final, events⟩
  | error {session final : Session σ τ} {events : List (Event τ)} {error : LexError}
      (pull : lexer.Pulls session ⟨.error error, final, events⟩) :
      Drains lexer session ⟨.error error, final, events⟩
  | token {session middle : Session σ τ} {events : List (Event τ)} {token : τ}
      {rest : Run σ τ (Except LexError (List τ))}
      (pull : lexer.Pulls session ⟨.ok (some token), middle, events⟩)
      (drains : Drains lexer middle rest) :
      Drains lexer session ((rest.map (Except.map (token :: ·))).after events)

/-- A scan that finds a token leaves less to do. -/
theorem Scans.work_lt {run : Run σ τ (Except LexError (Option τ))} {token : τ}
    (scans : lexer.Scans session run) (found : run.result = .ok (some token)) :
    run.session.work < session.work := by
  induction scans with
  | quiet step _ _ ih => exact Nat.lt_trans (ih found) step.work_lt
  | token step _ => exact step.work_lt
  | error _ _ => simp at found
  | finish _ _ => simp at found

/-- Tokens that are pending are pulled before all others. -/
theorem Drains.of_pending {run : Run σ τ (Except LexError (List τ))}
    (drains : lexer.Drains { session with pending := [] } run) (pending : List τ) :
    lexer.Drains { session with pending := pending } (run.map (Except.map (pending ++ ·))) := by
  induction pending with
  | nil =>
      have same : Except.map ([] ++ ·) = @id (Except LexError (List τ)) := by
        funext result
        cases result <;> rfl
      rw [same]
      exact drains
  | cons token tokens ih =>
      have pull : lexer.Pulls { session with pending := token :: tokens }
          ⟨.ok (some token), { session with pending := tokens }, []⟩ := .serve rfl
      have drained := Drains.token pull ih
      obtain ⟨_ | _, _, _⟩ := run <;> exact drained

/-- With enough fuel, handing out the pending tokens and pulling once more amounts to pulling all
tokens one by one. -/
theorem drains_drain {fuel : Nat} (enough : session.work < fuel) :
    lexer.Drains session (lexer.drain fuel session) := by
  induction fuel generalizing session with
  | zero => contradiction
  | succ fuel ih =>
      have pull := lexer.pulls_next { session with pending := [] }
      rw [drain]
      generalize lexer.next { session with pending := [] } = pulled at pull
      obtain ⟨result, middle, events⟩ := pulled
      cases result with
      | error error => exact (Drains.error pull).of_pending session.pending
      | ok found =>
          cases found with
          | none =>
              have drained := (Drains.finish pull).of_pending session.pending
              simpa [Run.map, Except.map] using drained
          | some token =>
              have less : middle.work < session.work := by
                cases pull with
                | serve pending_eq => simp at pending_eq
                | scan _ _ scans => exact scans.work_lt rfl
              have drained := (Drains.token pull (ih (by omega))).of_pending session.pending
              dsimp only at drained ⊢
              generalize lexer.drain fuel middle = rest at drained
              obtain ⟨_ | _, _, _⟩ := rest <;> exact drained

/-- `Lexer.tokenize` pulls until there is an error or the end. -/
theorem drains_tokenize (lexer : Lexer σ τ) (session : Session σ τ) :
    lexer.Drains session (lexer.tokenize session) :=
  drains_drain (Nat.lt_succ_self _)

/-! ## Pulls and changes of state -/

/-- Pulls and changes of state, what happens in them and the session behind them. -/
inductive History (lexer : Lexer σ τ) : Session σ τ → List (Event τ) → Session σ τ → Prop
  | refl (session : Session σ τ) : History lexer session [] session
  | pull {session middle final : Session σ τ} {result : Except LexError (Option τ)}
      {first events : List (Event τ)} (pull : lexer.Pulls session ⟨result, middle, first⟩)
      (rest : History lexer middle events final) :
      History lexer session (first ++ events) final
  | setState {session final : Session σ τ} {events : List (Event τ)} (state : StateId)
      (rest : History lexer (session.setState state) events final) :
      History lexer session events final

namespace History

variable {first events : List (Event τ)}

theorem trans (front : lexer.History session first middle)
    (back : lexer.History middle events final) : lexer.History session (first ++ events) final := by
  induction front with
  | refl => exact back
  | pull pull _ ih =>
      rw [List.append_assoc]
      exact .pull pull (ih back)
  | setState state _ ih => exact .setState state (ih back)

/-- A single pull. -/
theorem single {result : Except LexError (Option τ)}
    (pull : lexer.Pulls session ⟨result, middle, events⟩) :
    lexer.History session events middle := by
  have history : lexer.History session (events ++ []) middle := .pull pull (.refl middle)
  rwa [List.append_nil] at history

end History

theorem Drains.history {run : Run σ τ (Except LexError (List τ))}
    (drains : lexer.Drains session run) : lexer.History session run.events run.session := by
  induction drains with
  | finish pull => exact .single pull
  | error pull => exact .single pull
  | token pull _ ih => exact .pull pull ih

theorem history_take (count : Nat) :
    lexer.History session (lexer.take count session).events (lexer.take count session).session := by
  induction count generalizing session with
  | zero => exact .refl session
  | succ count ih =>
      have pull := lexer.pulls_next session
      rw [take]
      generalize lexer.next session = pulled at pull
      obtain ⟨result, middle, events⟩ := pulled
      cases result with
      | error error => exact .pull pull ih
      | ok found =>
          cases found with
          | none => exact .single pull
          | some token => exact .pull pull ih

/-- Every operation short of starting over is a history. -/
theorem history_perform {operation : Operation} (continued : operation.isReset = false) :
    lexer.History session (lexer.perform session operation).events
      (lexer.perform session operation).session := by
  cases operation with
  | next => exact .single (lexer.pulls_next session)
  | take count => exact history_take count
  | tokenize => exact (lexer.drains_tokenize session).history
  | remaining => exact .refl session
  | setState state => exact .setState state (.refl _)
  | reset input => contradiction

/-- Operations one after the other, without starting over, are a history. -/
theorem history_performAll {operations : List Operation}
    (continued : ∀ operation ∈ operations, operation.isReset = false) :
    lexer.History session (lexer.performAll session operations).events
      (lexer.performAll session operations).session := by
  induction operations generalizing session with
  | nil => exact .refl session
  | cons operation operations ih =>
      obtain ⟨first, others⟩ := List.forall_mem_cons.mp continued
      exact (history_perform first).trans (ih others)

/-! ## Courses of steps -/

/-- Steps of the protocol, between which state, pending tokens and phase may change in any way. -/
inductive Course (lexer : Lexer σ τ) : Session σ τ → List (Event τ) → Session σ τ → Prop
  | refl (session : Session σ τ) : Course lexer session [] session
  | step {session middle final : Session σ τ} {event : Event τ} {events : List (Event τ)}
      (step : lexer.Step session event middle) (rest : Course lexer middle events final) :
      Course lexer session (event :: events) final
  | adjust {session final : Session σ τ} {events : List (Event τ)} (state : StateId)
      (pending : List τ) (phase : Phase)
      (rest : Course lexer { session with state := state, pending := pending, phase := phase }
        events final) :
      Course lexer session events final

namespace Course

variable {first events : List (Event τ)}

theorem trans (front : lexer.Course session first middle)
    (back : lexer.Course middle events final) : lexer.Course session (first ++ events) final := by
  induction front with
  | refl => exact back
  | step step _ ih => exact .step step (ih back)
  | adjust state pending phase _ ih => exact .adjust state pending phase (ih back)

/-- A course divides at each of its events. -/
theorem exists_step {event : Event τ}
    (course : lexer.Course session (first ++ event :: events) final) :
    ∃ before behind, lexer.Course session first before ∧ lexer.Step before event behind ∧
      lexer.Course behind events final := by
  generalize all_eq : first ++ event :: events = all at course
  induction course generalizing first with
  | refl => simp at all_eq
  | @step session middle final head others step rest ih =>
      cases first with
      | nil =>
          obtain ⟨rfl, rfl⟩ := List.cons.inj all_eq
          exact ⟨session, middle, .refl session, step, rest⟩
      | cons leading first =>
          obtain ⟨rfl, others_eq⟩ := List.cons.inj all_eq
          obtain ⟨before, behind, front, inner, back⟩ := ih others_eq
          exact ⟨before, behind, .step step front, inner, back⟩
  | adjust state pending phase _ ih =>
      obtain ⟨before, behind, front, inner, back⟩ := ih all_eq
      exact ⟨before, behind, .adjust state pending phase front, inner, back⟩

end Course

theorem Scans.course {run : Run σ τ (Except LexError (Option τ))}
    (scans : lexer.Scans session run) : lexer.Course session run.events run.session := by
  induction scans with
  | quiet step _ _ ih => exact .step step ih
  | token step _ => exact .step step (.adjust _ _ _ (.refl _))
  | error step _ => exact .step step (.adjust _ _ _ (.refl _))
  | finish _ _ => exact .adjust _ _ _ (.refl _)

theorem Pulls.course {run : Run σ τ (Except LexError (Option τ))}
    (pulls : lexer.Pulls session run) : lexer.Course session run.events run.session := by
  cases pulls with
  | serve _ => exact .adjust _ _ _ (.refl _)
  | ended _ _ => exact .refl session
  | scan _ _ scans => exact scans.course

/-- A history is a course. -/
theorem History.course {events : List (Event τ)} (history : lexer.History session events final) :
    lexer.Course session events final := by
  induction history with
  | refl session => exact .refl session
  | pull pull _ ih => exact pull.course.trans ih
  | setState state _ ih => exact .adjust state _ _ ih

/-! ## Fresh sessions -/

/-- A session that operations lead to. -/
def Reachable (lexer : Lexer σ τ) (session : Session σ τ) : Prop :=
  ∃ input memory operations,
    session = (lexer.performAll (lexer.start input memory) operations).session

/-- A session over an input in which nothing has happened yet: a new one, or one started over. -/
inductive Fresh (lexer : Lexer σ τ) (input : Text) : Session σ τ → Prop
  | start (memory : σ) : Fresh lexer input (lexer.start input memory)
  | reset {session : Session σ τ} (reachable : lexer.Reachable session) :
      Fresh lexer input (session.reset input)

theorem Course.length_tried {events : List (Event τ)} (course : lexer.Course session events final) :
    final.tried.length = session.tried.length := by
  induction course with
  | refl => rfl
  | step step _ ih => exact ih.trans step.length_tried
  | adjust _ _ _ _ ih => exact ih

/-- Every operation remembers of each rule whether it was tried. -/
theorem length_tried_perform (operation : Operation) :
    (lexer.perform session operation).session.tried.length = session.tried.length := by
  cases continued : operation.isReset with
  | false => exact (history_perform continued).course.length_tried
  | true =>
      cases operation with
      | reset input => exact List.length_map _
      | _ => contradiction

theorem length_tried_performAll (operations : List Operation) :
    (lexer.performAll session operations).session.tried.length = session.tried.length := by
  induction operations generalizing session with
  | nil => rfl
  | cons operation operations ih =>
      exact (ih : _ = (lexer.perform session operation).session.tried.length).trans
        (length_tried_perform operation)

theorem Reachable.length_tried (reachable : lexer.Reachable session) :
    session.tried.length = lexer.table.size := by
  obtain ⟨input, memory, operations, rfl⟩ := reachable
  rw [length_tried_performAll]
  exact List.length_map _

/-- Starting over is starting, apart from what the fallback remembers. -/
theorem Fresh.eq_start {input : Text} (fresh : lexer.Fresh input session) :
    session = lexer.start input session.memory := by
  cases fresh with
  | start memory => rfl
  | @reset session reachable =>
      have tried_eq : (session.tried.map fun _ => false) =
          lexer.table.rules.map fun _ => false := by
        rw [List.map_const', List.map_const', reachable.length_tried]
        rfl
      unfold Session.reset Lexer.start
      rw [tried_eq]

end Lexer

end Munch
