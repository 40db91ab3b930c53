import Munch.Proofs.Delivery
import Munch.Proofs.Safety

/-!
# Phases between operations

The phase of a session changes many times within a pull.  Between operations it says what the last
pull has come to: `Lexer.Settled` lists what can be told from it.  Each pull settles a session, and
whatever else is done to a session between pulls leaves it settled.

`Lexer.Told` collects the results of all pulls since the last start, those within an operation
included.  An ended session answers every operation in the same way and stays as it is until it is
started over.
-/

namespace Munch

variable {σ τ : Type}

/-! ## Operations on an ended session -/

namespace Operation

/-- What an operation answers once the input has ended. -/
def endAnswer (rest : Slice) : Operation → Answer τ
  | next => .pulled (.ok none)
  | take _ => .items []
  | tokenize => .tokens (.ok [])
  | remaining => .slice rest
  | setState _ => .done
  | reset _ => .done

/-- The state behind an operation that does not scan. -/
def stateFrom (state : StateId) : Operation → StateId
  | setState other => other
  | _ => state

/-- The state behind some operations that do not scan: the one set last. -/
def stateAfter (state : StateId) (operations : List Operation) : StateId :=
  operations.foldl stateFrom state

end Operation

namespace Lexer

/-- What the phase of a session says between operations, given the result of the last pull. -/
structure Settled (last : Option (Except LexError (Option τ))) (session : Session σ τ) : Prop where
  ready : session.phase ≠ .scanning
  pending : session.pending ≠ [] → session.phase = .idle
  exhausted_iff : session.phase = .exhausted ↔ ∃ error, last = some (.error error)
  exhausted : session.phase = .exhausted →
    session.pending = [] ∧ ∀ mark ∈ session.tried, mark = false
  done : session.phase = .done → session.pending = [] ∧ session.cursor.rest = []

/-- The results of the pulls since the last start, behind those known before. -/
inductive Told (lexer : Lexer σ τ) :
    Session σ τ → List (Except LexError (Option τ)) → List Operation →
      List (Except LexError (Option τ)) → Prop
  | nil (session : Session σ τ) (known : List (Except LexError (Option τ))) :
      Told lexer session known [] known
  | setState {session : Session σ τ} {known results : List (Except LexError (Option τ))}
      {operations : List Operation} (state : StateId)
      (rest : Told lexer (session.setState state) known operations results) :
      Told lexer session known (.setState state :: operations) results
  | reset {session : Session σ τ} {known results : List (Except LexError (Option τ))}
      {operations : List Operation} (input : Text)
      (rest : Told lexer (session.reset input) [] operations results) :
      Told lexer session known (.reset input :: operations) results
  | pulls {session : Session σ τ} {known results : List (Except LexError (Option τ))}
      {operation : Operation} {operations : List Operation} {count : Nat}
      (amounts : lexer.Amounts session operation count)
      (rest : Told lexer (lexer.perform session operation).session
        (known ++ (lexer.pullTimes count session).result) operations results) :
      Told lexer session known (operation :: operations) results

variable {lexer : Lexer σ τ} {session middle : Session σ τ}
  {last : Option (Except LexError (Option τ))} {known : List (Except LexError (Option τ))}

/-! ## Pulls settle a session -/

/-- Where the fallback has failed, no rule has been tried. -/
theorem Step.tried_of_error? {event : Event τ} {error : LexError}
    (step : lexer.Step session event middle) (error_eq : event.error? = some error) :
    ∀ mark ∈ middle.tried, mark = false := by
  cases step with
  | reject _ _ _ => contradiction
  | accept _ _ _ => contradiction
  | unmatched _ _ _ =>
      intro mark member
      obtain ⟨_, _, rfl⟩ := List.mem_map.mp member
      rfl

/-- A scan settles a session. -/
theorem Scans.settled {run : Run σ τ (Except LexError (Option τ))}
    (scans : lexer.Scans session run) (pending_eq : session.pending = []) :
    Settled (some run.result) run.session := by
  induction scans with
  | quiet step _ _ ih => exact ih (step.pending_eq.trans pending_eq)
  | token _ _ => constructor <;> simp
  | error step error_eq =>
      have stays := step.pending_eq.trans pending_eq
      constructor
      · simp
      · intro left
        contradiction
      · simp
      · intro _
        exact ⟨stays, step.tried_of_error? error_eq⟩
      · simp
  | finish _ ended =>
      constructor
      · simp
      · intro left
        contradiction
      · simp
      · simp
      · intro _
        exact ⟨pending_eq, ended⟩

/-- A pull settles a session again. -/
theorem Pulls.settled {run : Run σ τ (Except LexError (Option τ))}
    (pulls : lexer.Pulls session run) (settled : Settled last session) :
    Settled (some run.result) run.session := by
  cases pulls with
  | serve pending_eq =>
      have idle : session.phase = .idle := settled.pending (by simp [pending_eq])
      constructor <;> simp [idle]
  | ended pending_eq done =>
      constructor
      · simp [done]
      · intro left
        contradiction
      · simp [done]
      · simp [done]
      · exact settled.done
  | scan pending_eq _ scans => exact scans.settled pending_eq

/-- So do pulls in a row. -/
theorem settled_pullTimes (lexer : Lexer σ τ) (count : Nat)
    (settled : Settled known.getLast? session) :
    Settled (known ++ (lexer.pullTimes count session).result).getLast?
      (lexer.pullTimes count session).session := by
  induction count generalizing session known with
  | zero => simpa [pullTimes] using settled
  | succ count ih =>
      have first : Settled (known ++ [(lexer.next session).result]).getLast?
          (lexer.next session).session := by
        simpa using (lexer.pulls_next session).settled settled
      have others := ih first
      rw [List.append_assoc] at others
      exact others

/-! ## Histories -/

theorem settled_start (lexer : Lexer σ τ) (input : Text) (memory : σ) :
    Settled none (lexer.start input memory) := by
  constructor <;> simp [start]

theorem settled_reset (session : Session σ τ) (input : Text) :
    Settled none (session.reset input) := by
  constructor <;> simp [Session.reset]

/-- Between operations a session is settled. -/
theorem Told.settled {operations : List Operation} {results : List (Except LexError (Option τ))}
    (told : lexer.Told session known operations results)
    (settled : Settled known.getLast? session) :
    Settled results.getLast? (lexer.performAll session operations).session := by
  induction told with
  | nil _ _ => exact settled
  | setState state _ ih =>
      exact ih ⟨settled.ready, settled.pending, settled.exhausted_iff, settled.exhausted,
        settled.done⟩
  | @reset session _ _ _ input _ ih => exact ih (settled_reset session input)
  | @pulls session known results operation operations count amounts _ ih =>
      apply ih
      rw [amounts.session_eq]
      exact lexer.settled_pullTimes count settled

/-- Every operation but a change of state and a new start is made of pulls. -/
theorem exists_amounts (lexer : Lexer σ τ) (session : Session σ τ) (operation : Operation) :
    (∃ state, operation = .setState state) ∨ (∃ input, operation = .reset input) ∨
      ∃ count, lexer.Amounts session operation count := by
  cases operation with
  | next => exact .inr (.inr ⟨1, lexer.amounts_next session⟩)
  | take limit => exact .inr (.inr (lexer.exists_amounts_take session limit))
  | tokenize => exact .inr (.inr (lexer.exists_amounts_tokenize session))
  | remaining => exact .inr (.inr ⟨0, lexer.amounts_remaining session⟩)
  | setState state => exact .inl ⟨state, rfl⟩
  | reset input => exact .inr (.inl ⟨input, rfl⟩)

/-- Every history has results. -/
theorem exists_told (lexer : Lexer σ τ) (session : Session σ τ)
    (known : List (Except LexError (Option τ))) (operations : List Operation) :
    ∃ results, lexer.Told session known operations results := by
  induction operations generalizing session known with
  | nil => exact ⟨known, .nil session known⟩
  | cons operation operations ih =>
      rcases lexer.exists_amounts session operation with ⟨state, rfl⟩ | ⟨input, rfl⟩ | ⟨_, amounts⟩
      · obtain ⟨results, rest⟩ := ih (session.setState state) known
        exact ⟨results, .setState state rest⟩
      · obtain ⟨results, rest⟩ := ih (session.reset input) []
        exact ⟨results, .reset input rest⟩
      · obtain ⟨results, rest⟩ := ih (lexer.perform session operation).session _
        exact ⟨results, .pulls amounts rest⟩

/-! ## The end -/

/-- An ended session gives nothing and stays as it is. -/
theorem next_of_done (pending_eq : session.pending = []) (done : session.phase = .done) :
    lexer.next session = ⟨.ok none, session, []⟩ :=
  next_eq_of_pulls (.ended pending_eq done)

/-- An ended session has one answer to an operation, and at most its state is changed. -/
theorem perform_of_done (pending_eq : session.pending = []) (done : session.phase = .done)
    {operation : Operation} (continued : operation.isReset = false) :
    lexer.perform session operation =
      ⟨operation.endAnswer session.remaining,
        session.setState (operation.stateFrom session.state), []⟩ := by
  have stays : lexer.next session = ⟨.ok none, session, []⟩ := next_of_done pending_eq done
  cases operation with
  | next =>
      rw [perform, stays]
      rfl
  | take limit =>
      cases limit with
      | zero => rfl
      | succ limit =>
          rw [perform, take, stays]
          rfl
  | tokenize =>
      have same : { session with pending := [] } = session := by rw [← pending_eq]
      rw [perform, tokenize, drain, same, stays]
      simp only [Run.map, pending_eq]
      rfl
  | remaining => rfl
  | setState state => rfl
  | reset input => contradiction

/-- The same over operations in a row. -/
theorem performAll_of_done (pending_eq : session.pending = []) (done : session.phase = .done)
    {operations : List Operation}
    (continued : ∀ operation ∈ operations, operation.isReset = false) :
    lexer.performAll session operations =
      ⟨operations.map (Operation.endAnswer session.remaining),
        session.setState (Operation.stateAfter session.state operations), []⟩ := by
  induction operations generalizing session with
  | nil => rfl
  | cons operation operations ih =>
      obtain ⟨first, others⟩ := List.forall_mem_cons.mp continued
      have further : lexer.performAll (session.setState (operation.stateFrom session.state))
          operations = _ := ih pending_eq done others
      rw [performAll, perform_of_done pending_eq done first]
      dsimp only
      rw [further]
      rfl

/-- Whatever is done with a session, between operations its phase tells what the last pull has come
to: it is never in the middle of a scan; tokens are pending in the idle phase only; it is exhausted
exactly if the last pull since the last start has failed, and then no token is pending and no rule
has been tried; and it is done only at the end of the input with no token pending.  From then on,
until a new start, every pull gives nothing, nothing happens, and nothing but the state changes, and
that only on demand. -/
theorem settled_performAll (lexer : Lexer σ τ) (input : Text) (memory : σ)
    (operations : List Operation) :
    let reached := (lexer.performAll (lexer.start input memory) operations).session
    (∃ results, lexer.Told (lexer.start input memory) [] operations results) ∧
      (∀ results, lexer.Told (lexer.start input memory) [] operations results →
        Settled results.getLast? reached) ∧
      (reached.phase = .done →
        reached.offset = Text.size (Operation.inputAfter input operations)) ∧
      (reached.phase = .done →
        ∀ further, (∀ operation ∈ further, Operation.isReset operation = false) →
        lexer.performAll reached further =
          ⟨further.map (Operation.endAnswer reached.remaining),
            reached.setState (Operation.stateAfter reached.state further), []⟩) := by
  intro reached
  have settled : ∀ results, lexer.Told (lexer.start input memory) [] operations results →
      Settled results.getLast? reached := fun results told =>
    told.settled (lexer.settled_start input memory)
  obtain ⟨results, told⟩ := lexer.exists_told (lexer.start input memory) [] operations
  refine ⟨⟨results, told⟩, settled, ?_, ?_⟩
  · intro done
    have sound : lexer.Sound (Operation.inputAfter input operations) reached :=
      (lexer.sound_start input memory).performAll operations
    obtain ⟨input_eq, size_eq⟩ := Text.cut?_eq_some_iff.mp sound.boundary
    rw [((settled results told).done done).2, List.append_nil] at input_eq
    rw [input_eq, size_eq]
  · intro done further continued
    exact performAll_of_done ((settled results told).done done).1 done continued

end Lexer

end Munch
