import Munch.Proofs.Delivery
import Munch.Proofs.Restart

/-!
# States that a scan does not leave

Some states may be closed under the actions of a table: an action that accepts a match in one of
them goes on in one of them.  As long as a client sets no other states either, a scan does not leave
them.  Whether a rule applies in any other state then makes no difference, and lexers over the same
rules that agree about these states do the same (`Lexer.AgreesIn`).

The two policies agree about the even states.
-/

namespace Munch

variable {σ τ α β : Type} {inside : StateId → Prop}

/-- An action that accepts a match in one of the states goes on in one of them.  What it says of the
state when it rejects a match has no effect. -/
def Rule.StaysIn (inside : StateId → Prop) (rule : Rule τ) : Prop :=
  ∀ matched context, inside context.state →
    (rule.action matched context).outcome.isReject = false →
    inside (rule.action matched context).state

/-- A client sets one of the states, if any. -/
def Operation.StaysIn (inside : StateId → Prop) : Operation → Prop
  | setState state => inside state
  | _ => True

/-- An action that is applied sees one of the states. -/
def Event.StaysIn (inside : StateId → Prop) : Event τ → Prop
  | applied _ _ context _ => inside context.state
  | unmatched _ _ _ => True

/-- A run does not leave the states: they are all that its actions see, and it ends in one of them.
-/
structure Run.StaysIn (inside : StateId → Prop) (run : Run σ τ α) : Prop where
  state : inside run.session.state
  events : ∀ event ∈ run.events, event.StaysIn inside

namespace Run.StaysIn

variable {run : Run σ τ α}

theorem after (stays : run.StaysIn inside) {events : List (Event τ)}
    (before : ∀ event ∈ events, event.StaysIn inside) : (run.after events).StaysIn inside where
  state := stays.state
  events := by
    intro event member
    rcases List.mem_append.mp member with first | later
    · exact before event first
    · exact stays.events event later

theorem map (stays : run.StaysIn inside) (change : α → β) : (run.map change).StaysIn inside :=
  ⟨stays.state, stays.events⟩

end Run.StaysIn

namespace Lexer

/-- Lexers over the same rules, whose actions do not leave some states, and with the same fallback
agree about these states: the same rules apply in them. -/
structure AgreesIn (inside : StateId → Prop) (lexer other : Lexer σ τ) : Prop where
  initial : inside initialState
  stays : ∀ rule ∈ lexer.table.rules, rule.StaysIn inside
  rules_eq : other.table.rules = lexer.table.rules
  fallback_eq : other.fallback = lexer.fallback
  admits_eq : ∀ rule ∈ lexer.table.rules, ∀ state, inside state →
    rule.states.admits other.table.policy state = rule.states.admits lexer.table.policy state

namespace AgreesIn

variable {lexer other : Lexer σ τ} {session middle : Session σ τ} {event : Event τ}

/-- A lexer whose actions do not leave the states agrees with itself about them. -/
theorem refl (initial : inside initialState)
    (stays : ∀ rule ∈ lexer.table.rules, rule.StaysIn inside) : lexer.AgreesIn inside lexer where
  initial := initial
  stays := stays
  rules_eq := rfl
  fallback_eq := rfl
  admits_eq := fun _ _ _ _ => rfl

/-! ## Steps -/

theorem offers_iff (agrees : lexer.AgreesIn inside other) (here : inside session.state)
    {candidate : Candidate τ} :
    other.Offers session candidate ↔ lexer.Offers session candidate := by
  constructor
  · rintro ⟨registered, admitted, eligible, matching⟩
    rw [agrees.rules_eq] at registered
    rw [agrees.admits_eq _ (List.mem_of_getElem? registered) _ here] at admitted
    exact ⟨registered, admitted, eligible, matching⟩
  · rintro ⟨registered, admitted, eligible, matching⟩
    rw [← agrees.admits_eq _ (List.mem_of_getElem? registered) _ here] at admitted
    exact ⟨agrees.rules_eq ▸ registered, admitted, eligible, matching⟩

theorem best (agrees : lexer.AgreesIn inside other) (here : inside session.state)
    {candidate : Candidate τ} (best : lexer.Best session candidate) :
    other.Best session candidate where
  offered := (agrees.offers_iff here).mpr best.offered
  longest := fun rival offered => best.longest rival ((agrees.offers_iff here).mp offered)
  earliest := fun rival offered => best.earliest rival ((agrees.offers_iff here).mp offered)

/-- From one of the states, both lexers take the same step, to one of the states. -/
theorem step (agrees : lexer.AgreesIn inside other) (here : inside session.state)
    (step : lexer.Step session event middle) :
    other.Step session event middle ∧ event.StaysIn inside ∧ inside middle.state := by
  cases step with
  | reject best decided rejected =>
      exact ⟨.reject (agrees.best here best) decided rejected, here, here⟩
  | @accept candidate decision best decided accepted =>
      refine ⟨.accept (agrees.best here best) decided accepted, here, ?_⟩
      have stays := agrees.stays _ (List.mem_of_getElem? best.offered.registered)
      subst decided
      exact stays candidate.matched session.context here accepted
  | unmatched none_left advanced answered =>
      rw [← agrees.fallback_eq] at answered
      refine ⟨.unmatched ?_ advanced answered, trivial, here⟩
      intro candidate offered
      exact none_left candidate ((agrees.offers_iff here).mp offered)

/-! ## Scans and pulls -/

theorem scans (agrees : lexer.AgreesIn inside other) (here : inside session.state)
    {run : Run σ τ (Except LexError (Option τ))} (scans : lexer.Scans session run) :
    other.Scans session run ∧ run.StaysIn inside := by
  induction scans with
  | quiet step quiet _ ih =>
      obtain ⟨otherStep, eventStays, there⟩ := agrees.step here step
      obtain ⟨otherScans, stays⟩ := ih there
      exact ⟨.quiet otherStep quiet otherScans, stays.after (by simpa using eventStays)⟩
  | token step tokens_eq =>
      obtain ⟨otherStep, eventStays, there⟩ := agrees.step here step
      exact ⟨.token otherStep tokens_eq, there, by simpa using eventStays⟩
  | error step error_eq =>
      obtain ⟨otherStep, eventStays, there⟩ := agrees.step here step
      exact ⟨.error otherStep error_eq, there, by simpa using eventStays⟩
  | finish none_left ended =>
      refine ⟨.finish ?_ ended, here, nofun⟩
      intro candidate offered
      exact none_left candidate ((agrees.offers_iff here).mp offered)

theorem pulls (agrees : lexer.AgreesIn inside other) (here : inside session.state)
    {run : Run σ τ (Except LexError (Option τ))} (pulls : lexer.Pulls session run) :
    other.Pulls session run ∧ run.StaysIn inside := by
  cases pulls with
  | serve pending_eq => exact ⟨.serve pending_eq, here, nofun⟩
  | ended pending_eq phase_eq => exact ⟨.ended pending_eq phase_eq, here, nofun⟩
  | scan pending_eq phase_ne scans =>
      obtain ⟨otherScans, stays⟩ := agrees.scans here scans
      exact ⟨.scan pending_eq phase_ne otherScans, stays⟩

theorem next (agrees : lexer.AgreesIn inside other) (here : inside session.state) :
    other.next session = lexer.next session ∧ (lexer.next session).StaysIn inside := by
  obtain ⟨otherPulls, stays⟩ := agrees.pulls here (lexer.pulls_next session)
  exact ⟨next_eq_of_pulls otherPulls, stays⟩

/-! ## Operations -/

theorem take (agrees : lexer.AgreesIn inside other) (here : inside session.state) (count : Nat) :
    other.take count session = lexer.take count session ∧
      (lexer.take count session).StaysIn inside := by
  induction count generalizing session with
  | zero => exact ⟨rfl, here, nofun⟩
  | succ count ih =>
      obtain ⟨next_eq, stays⟩ := agrees.next here
      obtain ⟨others_eq, othersStay⟩ := ih stays.state
      rw [Lexer.take, Lexer.take, next_eq, others_eq]
      cases (lexer.next session).result with
      | error error => exact ⟨rfl, (othersStay.map _).after stays.events⟩
      | ok found =>
          cases found with
          | none => exact ⟨rfl, stays.state, stays.events⟩
          | some token => exact ⟨rfl, (othersStay.map _).after stays.events⟩

theorem drain (agrees : lexer.AgreesIn inside other) (here : inside session.state) (fuel : Nat) :
    other.drain fuel session = lexer.drain fuel session ∧
      (lexer.drain fuel session).StaysIn inside := by
  induction fuel generalizing session with
  | zero => exact ⟨rfl, here, nofun⟩
  | succ fuel ih =>
      have cleared : inside ({ session with pending := [] } : Session σ τ).state := here
      obtain ⟨next_eq, stays⟩ := agrees.next cleared
      obtain ⟨others_eq, othersStay⟩ := ih stays.state
      rw [Lexer.drain, Lexer.drain, next_eq, others_eq]
      cases (lexer.next { session with pending := [] }).result with
      | error error => exact ⟨rfl, stays.state, stays.events⟩
      | ok found =>
          cases found with
          | none => exact ⟨rfl, stays.state, stays.events⟩
          | some token => exact ⟨rfl, (othersStay.map _).after stays.events⟩

/-- Both lexers carry out an operation in the same way, and do not leave the states. -/
theorem perform (agrees : lexer.AgreesIn inside other) (here : inside session.state)
    {operation : Operation} (requested : operation.StaysIn inside) :
    other.perform session operation = lexer.perform session operation ∧
      (lexer.perform session operation).StaysIn inside := by
  cases operation with
  | next =>
      obtain ⟨next_eq, stays⟩ := agrees.next here
      exact ⟨congrArg (Run.map _) next_eq, stays.map _⟩
  | take count =>
      obtain ⟨take_eq, stays⟩ := agrees.take here count
      exact ⟨congrArg (Run.map _) take_eq, stays.map _⟩
  | tokenize =>
      obtain ⟨drain_eq, stays⟩ := agrees.drain here (session.work + 1)
      exact ⟨congrArg (Run.map _) drain_eq, stays.map _⟩
  | remaining => exact ⟨rfl, here, nofun⟩
  | setState state => exact ⟨rfl, requested, nofun⟩
  | reset input => exact ⟨rfl, agrees.initial, nofun⟩

/-- So they do with operations one after the other. -/
theorem performAll (agrees : lexer.AgreesIn inside other) (here : inside session.state)
    {operations : List Operation} (requested : ∀ operation ∈ operations, operation.StaysIn inside) :
    other.performAll session operations = lexer.performAll session operations ∧
      (lexer.performAll session operations).StaysIn inside := by
  induction operations generalizing session with
  | nil => exact ⟨rfl, here, nofun⟩
  | cons operation operations ih =>
      obtain ⟨first, others⟩ := List.forall_mem_cons.mp requested
      obtain ⟨perform_eq, stays⟩ := agrees.perform here first
      obtain ⟨others_eq, othersStay⟩ := ih stays.state others
      rw [Lexer.performAll, Lexer.performAll, perform_eq, others_eq]
      exact ⟨rfl, (othersStay.map _).after stays.events⟩

/-- A client sees the same of both lexers. -/
theorem observe (agrees : lexer.AgreesIn inside other) (here : inside session.state)
    {operations : List Operation} (requested : ∀ operation ∈ operations, operation.StaysIn inside) :
    other.observe session operations = lexer.observe session operations := by
  induction operations generalizing session with
  | nil => rfl
  | cons operation operations ih =>
      obtain ⟨first, others⟩ := List.forall_mem_cons.mp requested
      obtain ⟨perform_eq, stays⟩ := agrees.perform here first
      rw [Lexer.observe, Lexer.observe, perform_eq, ih stays.state others]

theorem start_eq (agrees : lexer.AgreesIn inside other) (input : Text) (memory : σ) :
    other.start input memory = lexer.start input memory := by
  rw [Lexer.start, agrees.rules_eq]
  rfl

end AgreesIn

end Lexer

/-! ## Even states -/

/-- The even states. -/
def EvenState (state : StateId) : Prop :=
  state % 2 = 0

/-- In an even state the policies do not differ. -/
theorem StateSet.admits_of_evenState {state : StateId} (even : EvenState state)
    (states : StateSet) (policy other : StatePolicy) :
    states.admits policy state = states.admits other state := by
  unfold EvenState at even
  cases states with
  | global => rfl
  | only listed => simp [admits, even]

/-- Lexers over the same rules agree about the even states, whatever their policies. -/
theorem Lexer.agreesIn_evenState {rules : List (Rule τ)} {fallback : Fallback σ τ}
    (stays : ∀ rule ∈ rules, rule.StaysIn EvenState) (policy other : StatePolicy) :
    AgreesIn EvenState ⟨⟨rules, policy⟩, fallback⟩ ⟨⟨rules, other⟩, fallback⟩ where
  initial := rfl
  stays := stays
  rules_eq := rfl
  fallback_eq := rfl
  admits_eq := fun rule _ _ even => rule.states.admits_of_evenState even other policy

end Munch
