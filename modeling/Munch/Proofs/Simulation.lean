import Munch.Proofs.Delivery

/-!
# Lexers that follow each other

Two lexers over different tables can be in step with each other: their sessions differ in the marks
of rules tried and in nothing else that matters.  `Session.Twin` is this relation, for a given
relation between marks.

`Lexer.Simulates` asks what has to be known of single steps: each step of the first lexer is a step
of the second that makes the same tokens, or it is silent and the second one stays where it is.
From that, all operations of a client give the same answers and lead to sessions that look alike.
-/

namespace Munch

variable {σ τ : Type}

namespace Session

/-- What a client can see of two sessions is the same, and so is what the fallback remembers. -/
structure Alike (session other : Session σ τ) : Prop where
  cursor_eq : other.cursor = session.cursor
  state_eq : other.state = session.state
  pending_eq : other.pending = session.pending
  phase_eq : other.phase = session.phase
  memory_eq : other.memory = session.memory

/-- Sessions in step with each other, in the middle of a scan or between operations. -/
structure Twin (marks : List Bool → List Bool → Prop) (session twin : Session σ τ) : Prop where
  cursor_eq : twin.cursor = session.cursor
  state_eq : twin.state = session.state
  pending_eq : twin.pending = session.pending
  memory_eq : twin.memory = session.memory
  marked : marks session.tried twin.tried

namespace Twin

variable {marks : List Bool → List Bool → Prop} {session twin : Session σ τ}

theorem context_eq (twins : session.Twin marks twin) : twin.context = session.context := by
  simp only [context, offset, twins.cursor_eq, twins.state_eq]

theorem position_eq (twins : session.Twin marks twin) : twin.position = session.position := by
  simp only [position, twins.cursor_eq]

theorem with_pending (twins : session.Twin marks twin) (pending : List τ) :
    Twin marks { session with pending := pending } { twin with pending := pending } :=
  ⟨twins.cursor_eq, twins.state_eq, rfl, twins.memory_eq, twins.marked⟩

/-- Phases do not matter in the middle of a scan. -/
theorem with_phase (twins : session.Twin marks twin) (phase other : Phase) :
    Twin marks { session with phase := phase } { twin with phase := other } :=
  ⟨twins.cursor_eq, twins.state_eq, twins.pending_eq, twins.memory_eq, twins.marked⟩

end Twin

end Session

/-- A run that follows another has the same result and ends in step with it. -/
structure Run.Follows {α : Type} (marks : List Bool → List Bool → Prop) (run image : Run σ τ α) :
    Prop where
  result_eq : image.result = run.result
  twins : run.session.Twin marks image.session
  phase_eq : image.session.phase = run.session.phase

namespace Run.Follows

variable {α β : Type} {marks : List Bool → List Bool → Prop} {run image : Run σ τ α}

theorem after (follows : run.Follows marks image) (events others : List (Event τ)) :
    (run.after events).Follows marks (image.after others) :=
  ⟨follows.result_eq, follows.twins, follows.phase_eq⟩

theorem map (follows : run.Follows marks image) (change : α → β) :
    (run.map change).Follows marks (image.map change) :=
  ⟨congrArg change follows.result_eq, follows.twins, follows.phase_eq⟩

theorem alike (follows : run.Follows marks image) : run.session.Alike image.session :=
  ⟨follows.twins.cursor_eq, follows.twins.state_eq, follows.twins.pending_eq, follows.phase_eq,
    follows.twins.memory_eq⟩

end Run.Follows

namespace Lexer

/-- The second lexer makes the steps of the first one, except for silent ones, over which it stays
where it is.  It is at the end where the first one is, and marks stay in step when all are cleared.
-/
structure Simulates (marks : List Bool → List Bool → Prop) (lexer other : Lexer σ τ) : Prop where
  cleared : ∀ {first second}, marks first second →
    marks (first.map fun _ => false) (second.map fun _ => false)
  step : ∀ {session middle twin : Session σ τ} {event : Event τ}, session.Twin marks twin →
    lexer.Step session event middle →
    (event.IsQuiet ∧ middle.Twin marks twin) ∨
      ∃ image behind, other.Step twin image behind ∧ image.tokens = event.tokens ∧
        image.error? = event.error? ∧ middle.Twin marks behind
  finish : ∀ {session twin : Session σ τ}, session.Twin marks twin →
    (∀ candidate, ¬ lexer.Offers session candidate) → session.cursor.rest = [] →
    ∀ candidate, ¬ other.Offers twin candidate

/-- Where neither lexer has a candidate left, both hand the same character to the same fallback. -/
theorem Step.unmatched_twin {marks : List Bool → List Bool → Prop} {other : Lexer σ τ}
    {session twin : Session σ τ} {char : Char} {cursor : Cursor}
    {answer : Except LexError (Outcome τ)} {memory : σ} (twins : session.Twin marks twin)
    (none_left : ∀ candidate, ¬ other.Offers twin candidate)
    (advanced : session.cursor.advance? = some (char, cursor))
    (answered : other.fallback char session.position session.memory = (answer, memory)) :
    other.Step twin (.unmatched char session.position answer) (twin.abandon cursor memory) := by
  rw [← twins.cursor_eq] at advanced
  rw [← twins.position_eq, ← twins.memory_eq] at answered
  rw [← twins.position_eq]
  exact .unmatched none_left advanced answered

/-- Pulling all tokens has one outcome at most. -/
theorem Drains.deterministic {lexer : Lexer σ τ} {session : Session σ τ}
    {first second : Run σ τ (Except LexError (List τ))}
    (firstDrain : lexer.Drains session first) (secondDrain : lexer.Drains session second) :
    first = second := by
  induction firstDrain generalizing second with
  | finish pull =>
      cases secondDrain with
      | finish other =>
          cases pull.deterministic other
          rfl
      | error other => cases pull.deterministic other
      | token other _ => cases pull.deterministic other
  | error pull =>
      cases secondDrain with
      | finish other => cases pull.deterministic other
      | error other =>
          cases pull.deterministic other
          rfl
      | token other _ => cases pull.deterministic other
  | token pull _ ih =>
      cases secondDrain with
      | finish other => cases pull.deterministic other
      | error other => cases pull.deterministic other
      | token other rest =>
          cases pull.deterministic other
          rw [ih rest]

namespace Simulates

variable {marks : List Bool → List Bool → Prop} {lexer other : Lexer σ τ}
  {session twin : Session σ τ}

/-! ## Scans and pulls -/

/-- Scans follow each other. -/
theorem scans (simulates : lexer.Simulates marks other) (twins : session.Twin marks twin)
    {run : Run σ τ (Except LexError (Option τ))} (scans : lexer.Scans session run) :
    ∃ image, other.Scans twin image ∧ run.Follows marks image := by
  induction scans generalizing twin with
  | quiet step quiet _ ih =>
      rcases simulates.step twins step with
        ⟨_, stays⟩ | ⟨_, _, otherStep, tokens_eq, error_eq, behind⟩
      · obtain ⟨image, imageScans, follows⟩ := ih stays
        exact ⟨image, imageScans, follows.after _ []⟩
      · obtain ⟨image, imageScans, follows⟩ := ih behind
        have otherQuiet := And.intro (tokens_eq.trans quiet.1) (error_eq.trans quiet.2)
        exact ⟨_, .quiet otherStep otherQuiet imageScans, follows.after _ _⟩
  | @token session middle event found others step found_eq =>
      rcases simulates.step twins step with ⟨quiet, _⟩ | ⟨_, _, otherStep, tokens_eq, _, behind⟩
      · simp [quiet.1] at found_eq
      · refine ⟨_, .token otherStep (tokens_eq.trans found_eq), rfl, ?_, rfl⟩
        rw [behind.pending_eq]
        exact (behind.with_pending (middle.pending ++ others)).with_phase .idle .idle
  | error step failed =>
      rcases simulates.step twins step with ⟨quiet, _⟩ | ⟨_, _, otherStep, _, error_eq, behind⟩
      · simp [quiet.2] at failed
      · exact ⟨_, .error otherStep (error_eq.trans failed), rfl, behind.with_phase _ _, rfl⟩
  | finish none_left ended =>
      refine ⟨_, .finish (simulates.finish twins none_left ended) ?_, rfl, twins.with_phase _ _,
        rfl⟩
      rw [twins.cursor_eq, ended]

/-- Pulls follow each other. -/
theorem pulls (simulates : lexer.Simulates marks other) (twins : session.Twin marks twin)
    (phase_eq : twin.phase = session.phase) {run : Run σ τ (Except LexError (Option τ))}
    (pulls : lexer.Pulls session run) :
    ∃ image, other.Pulls twin image ∧ run.Follows marks image := by
  cases pulls with
  | serve pending_eq =>
      exact ⟨_, .serve (twins.pending_eq.trans pending_eq), rfl, twins.with_pending _, phase_eq⟩
  | ended pending_eq done =>
      exact ⟨_, .ended (twins.pending_eq.trans pending_eq) (phase_eq.trans done), rfl, twins,
        phase_eq⟩
  | scan pending_eq unfinished scans =>
      obtain ⟨image, imageScans, follows⟩ := simulates.scans twins scans
      refine ⟨image, .scan (twins.pending_eq.trans pending_eq) ?_ imageScans, follows⟩
      rw [phase_eq]
      exact unfinished

theorem next (simulates : lexer.Simulates marks other) (twins : session.Twin marks twin)
    (phase_eq : twin.phase = session.phase) :
    (lexer.next session).Follows marks (other.next twin) := by
  obtain ⟨image, imagePulls, follows⟩ := simulates.pulls twins phase_eq (lexer.pulls_next session)
  rw [next_eq_of_pulls imagePulls]
  exact follows

/-! ## Operations -/

theorem take (simulates : lexer.Simulates marks other) (twins : session.Twin marks twin)
    (phase_eq : twin.phase = session.phase) (count : Nat) :
    (lexer.take count session).Follows marks (other.take count twin) := by
  induction count generalizing session twin with
  | zero => exact ⟨rfl, twins, phase_eq⟩
  | succ count ih =>
      have follows := simulates.next twins phase_eq
      rw [Lexer.take, Lexer.take, follows.result_eq]
      have others := ih follows.twins follows.phase_eq
      cases (lexer.next session).result with
      | error error => exact (others.map _).after _ _
      | ok found =>
          cases found with
          | none => exact ⟨rfl, follows.twins, follows.phase_eq⟩
          | some token => exact (others.map _).after _ _

theorem drains (simulates : lexer.Simulates marks other) (twins : session.Twin marks twin)
    (phase_eq : twin.phase = session.phase) {run : Run σ τ (Except LexError (List τ))}
    (drains : lexer.Drains session run) :
    ∃ image, other.Drains twin image ∧ run.Follows marks image := by
  induction drains generalizing twin with
  | finish pull =>
      obtain ⟨⟨_, behind, _⟩, otherPull, rfl, twins, phase_eq⟩ :=
        simulates.pulls twins phase_eq pull
      exact ⟨_, .finish otherPull, rfl, twins, phase_eq⟩
  | error pull =>
      obtain ⟨⟨_, behind, _⟩, otherPull, rfl, twins, phase_eq⟩ :=
        simulates.pulls twins phase_eq pull
      exact ⟨_, .error otherPull, rfl, twins, phase_eq⟩
  | token pull _ ih =>
      obtain ⟨⟨_, behind, _⟩, otherPull, rfl, twins, phase_eq⟩ :=
        simulates.pulls twins phase_eq pull
      obtain ⟨image, imageDrains, follows⟩ := ih twins phase_eq
      exact ⟨_, .token otherPull imageDrains, (follows.map _).after _ _⟩

theorem tokenize (simulates : lexer.Simulates marks other) (twins : session.Twin marks twin)
    (phase_eq : twin.phase = session.phase) :
    (lexer.tokenize session).Follows marks (other.tokenize twin) := by
  obtain ⟨image, imageDrains, follows⟩ :=
    simulates.drains twins phase_eq (lexer.drains_tokenize session)
  rw [(other.drains_tokenize twin).deterministic imageDrains]
  exact follows

/-- Every operation gives the same answer. -/
theorem perform (simulates : lexer.Simulates marks other) (twins : session.Twin marks twin)
    (phase_eq : twin.phase = session.phase) (operation : Operation) :
    (lexer.perform session operation).Follows marks (other.perform twin operation) := by
  cases operation with
  | next => exact (simulates.next twins phase_eq).map _
  | take count => exact (simulates.take twins phase_eq count).map _
  | tokenize => exact (simulates.tokenize twins phase_eq).map _
  | remaining =>
      refine ⟨?_, twins, phase_eq⟩
      simp only [Lexer.perform, Session.remaining, twins.cursor_eq]
  | setState state =>
      exact ⟨rfl, ⟨twins.cursor_eq, rfl, twins.pending_eq, twins.memory_eq, twins.marked⟩, phase_eq⟩
  | reset input =>
      exact ⟨rfl, ⟨rfl, rfl, rfl, twins.memory_eq, simulates.cleared twins.marked⟩, rfl⟩

/-- So do all operations in a row. -/
theorem performAll (simulates : lexer.Simulates marks other) (twins : session.Twin marks twin)
    (phase_eq : twin.phase = session.phase) (operations : List Operation) :
    (lexer.performAll session operations).Follows marks (other.performAll twin operations) := by
  induction operations generalizing session twin with
  | nil => exact ⟨rfl, twins, phase_eq⟩
  | cons operation operations ih =>
      have first := simulates.perform twins phase_eq operation
      have others := ih first.twins first.phase_eq
      rw [Lexer.performAll, Lexer.performAll, first.result_eq]
      exact (others.map _).after _ _

end Simulates

end Lexer

end Munch
