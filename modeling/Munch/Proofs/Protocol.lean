import Munch.Proofs.Candidates
import Munch.Session

/-!
# The protocol of a pull

A pull can be described without lists of candidates.  One step applies the action of the best rule
that is still untried, or, where there is no such rule, hands one character to the fallback.
`Lexer.Step` is this relation, `Lexer.Scans` repeats it until there is a token, an error or the end,
and `Lexer.Pulls` serves the pending tokens first.

The lexer instead gathers all candidates of a place, sorts them and tries them in a row.  Since a
rejected candidate only marks its own rule, the candidates that are left are those of the marked
session, in the same order; so both descriptions agree, and `Lexer.next` is the only run of a pull.
Every step lowers `Session.work`, which is why the bounds on the number of looks are never reached.
-/

namespace Munch

/-! ## Matches and cursors -/

/-- The cursor behind a match. -/
def Match.behind (matched : Match) : Cursor :=
  ⟨matched.text.reverse ++ matched.before, matched.following, matched.position.after matched.text⟩

/-- A match stands at its cursor: it knows what was read, and divides what is still to be read. -/
theorem Rule.eq_of_match? {τ : Type} {rule : Rule τ} {cursor : Cursor} {matched : Match}
    (found : rule.match? cursor = some matched) :
    matched.before = cursor.passed ∧ cursor.rest = matched.text ++ matched.following ∧
      matched.position = cursor.position := by
  obtain ⟨finding, _, rfl⟩ := Option.map_eq_some_iff.mp found
  exact ⟨rfl, (List.take_append_drop _ _).symm, rfl⟩

/-- Reading the bytes of a match leads behind it. -/
theorem Rule.advanceBytes?_of_match? {τ : Type} {rule : Rule τ} {cursor : Cursor} {matched : Match}
    (found : rule.match? cursor = some matched) :
    cursor.advanceBytes? matched.size = some matched.behind := by
  obtain ⟨before_eq, rest_eq, position_eq⟩ := Rule.eq_of_match? found
  apply Cursor.advanceBytes?_eq_some_iff.mpr
  refine ⟨matched.text, rest_eq, rfl, ?_, ?_⟩
  · rw [← before_eq]
    rfl
  · rw [← position_eq]
    rfl

/-- An empty match leads nowhere. -/
theorem Rule.behind_of_match?_of_text_eq_nil {τ : Type} {rule : Rule τ} {cursor : Cursor}
    {matched : Match} (found : rule.match? cursor = some matched) (nothing : matched.text = []) :
    matched.behind = cursor := by
  have advanced := Rule.advanceBytes?_of_match? found
  rw [Match.size, nothing] at advanced
  have stayed : cursor.advanceBytes? 0 = some cursor := by simp [Cursor.advanceBytes?]
  exact Option.some.inj (advanced.symm.trans stayed)

/-! ## Sessions -/

namespace Session

variable {σ τ : Type}

/-- What an action sees of a session. -/
def context (session : Session σ τ) : Context :=
  ⟨session.state, session.offset⟩

/-- The session in which one more rule has been tried. -/
def mark (session : Session σ τ) (index : Nat) : Session σ τ :=
  { session with tried := session.tried.set index true, phase := .scanning }

/-- The session behind an accepted candidate.  If something was matched, every rule may be tried
again. -/
def accept (session : Session σ τ) (candidate : Candidate τ) (decision : Decision τ) :
    Session σ τ :=
  { session with
    cursor := candidate.matched.behind
    state := decision.state
    tried :=
      if candidate.matched.isEmpty then session.tried.set candidate.index true
      else session.tried.map fun _ => false
    phase := .scanning }

/-- The session behind a character that was handed to the fallback. -/
def abandon (session : Session σ τ) (cursor : Cursor) (memory : σ) : Session σ τ :=
  { session with
    cursor := cursor
    tried := session.tried.map fun _ => false
    phase := .exhausted
    memory := memory }

theorem isUntried_iff {session : Session σ τ} {index : Nat} :
    session.isUntried index = true ↔ session.tried[index]? = some false := by
  simp [isUntried]

/-- Only the marked rule is lost. -/
theorem isUntried_mark_iff {session : Session σ τ} {marked index : Nat} :
    (session.mark marked).isUntried index = true ↔
      session.isUntried index = true ∧ index ≠ marked := by
  rw [isUntried_iff, isUntried_iff]
  by_cases same : index = marked
  · subst marked
    simp [mark, List.getElem?_set]
  · simp [mark, same, Ne.symm same]

/-- One rule fewer is untried. -/
theorem count_tried_mark {session : Session σ τ} {index : Nat}
    (untried : session.isUntried index = true) :
    (session.tried.set index true).count false + 1 = session.tried.count false := by
  obtain ⟨inside, value_eq⟩ := List.getElem?_eq_some_iff.mp (isUntried_iff.mp untried)
  have present : 0 < session.tried.count false :=
    List.count_pos_iff.mpr (value_eq ▸ List.getElem_mem inside)
  rw [List.count_set inside, value_eq]
  simp only [beq_self_eq_true, if_true, Bool.true_beq]
  simp only [Bool.false_eq_true, if_false]
  omega

end Session

namespace Event

variable {τ : Type}

/-- The tokens that an event hands out. -/
def tokens : Event τ → List τ
  | applied _ _ _ decision => decision.outcome.tokens
  | unmatched _ _ (.ok outcome) => outcome.tokens
  | unmatched _ _ (.error _) => []

/-- The error that an event ends a pull with. -/
def error? : Event τ → Option LexError
  | unmatched _ _ (.error error) => some error
  | _ => none

/-- A pull goes on behind an event that neither hands out a token nor is an error. -/
def IsQuiet (event : Event τ) : Prop :=
  event.tokens = [] ∧ event.error? = none

/-- An error comes without tokens. -/
theorem tokens_of_error? {event : Event τ} {error : LexError}
    (error_eq : event.error? = some error) : event.tokens = [] := by
  rcases event with _ | ⟨_, _, _ | _⟩
  · contradiction
  · rfl
  · contradiction

end Event

/-! ## One step, one scan, one pull -/

namespace Lexer

variable {σ τ : Type}

/-- A candidate at the place of a session: a rule that is untried here, applies in the state of the
session and matches. -/
def Offers (lexer : Lexer σ τ) (session : Session σ τ) (candidate : Candidate τ) : Prop :=
  lexer.table.Offers session.cursor session.state session.isUntried candidate

/-- The candidate to be tried next: none is longer, and none that is as long was registered
earlier. -/
structure Best (lexer : Lexer σ τ) (session : Session σ τ) (candidate : Candidate τ) : Prop where
  offered : lexer.Offers session candidate
  longest : ∀ other, lexer.Offers session other → other.size ≤ candidate.size
  earliest : ∀ other, lexer.Offers session other → other.size = candidate.size →
    candidate.index ≤ other.index

/-- One step of a scan, what happens in it and the session behind it.  A rejected candidate leaves
the cursor and the state as they were. -/
inductive Step (lexer : Lexer σ τ) (session : Session σ τ) : Event τ → Session σ τ → Prop
  | reject {candidate : Candidate τ} {decision : Decision τ}
      (best : lexer.Best session candidate)
      (decided : candidate.rule.action candidate.matched session.context = decision)
      (rejected : decision.outcome.isReject = true) :
      Step lexer session
        (.applied candidate.index candidate.matched session.context decision)
        (session.mark candidate.index)
  | accept {candidate : Candidate τ} {decision : Decision τ}
      (best : lexer.Best session candidate)
      (decided : candidate.rule.action candidate.matched session.context = decision)
      (accepted : decision.outcome.isReject = false) :
      Step lexer session
        (.applied candidate.index candidate.matched session.context decision)
        (session.accept candidate decision)
  | unmatched {char : Char} {cursor : Cursor} {answer : Except LexError (Outcome τ)} {memory : σ}
      (none_left : ∀ candidate, ¬ lexer.Offers session candidate)
      (advanced : session.cursor.advance? = some (char, cursor))
      (answered : lexer.fallback char session.position session.memory = (answer, memory)) :
      Step lexer session (.unmatched char session.position answer) (session.abandon cursor memory)

/-- The steps of a scan up to the first token, the first error or the end of the input. -/
inductive Scans (lexer : Lexer σ τ) :
    Session σ τ → Run σ τ (Except LexError (Option τ)) → Prop
  | quiet {session middle : Session σ τ} {event : Event τ}
      {run : Run σ τ (Except LexError (Option τ))}
      (step : lexer.Step session event middle) (quiet : event.IsQuiet)
      (rest : Scans lexer middle run) :
      Scans lexer session (run.after [event])
  | token {session middle : Session σ τ} {event : Event τ} {token : τ} {tokens : List τ}
      (step : lexer.Step session event middle) (tokens_eq : event.tokens = token :: tokens) :
      Scans lexer session
        ⟨.ok (some token), { middle with pending := middle.pending ++ tokens, phase := .idle },
          [event]⟩
  | error {session middle : Session σ τ} {event : Event τ} {error : LexError}
      (step : lexer.Step session event middle) (error_eq : event.error? = some error) :
      Scans lexer session ⟨.error error, { middle with phase := .exhausted }, [event]⟩
  | finish {session : Session σ τ}
      (none_left : ∀ candidate, ¬ lexer.Offers session candidate)
      (ended : session.cursor.rest = []) :
      Scans lexer session ⟨.ok none, { session with phase := .done }, []⟩

/-- A pull serves the pending tokens first, has nothing to give once the input has ended, and scans
otherwise. -/
inductive Pulls (lexer : Lexer σ τ) (session : Session σ τ) :
    Run σ τ (Except LexError (Option τ)) → Prop
  | serve {token : τ} {tokens : List τ} (pending_eq : session.pending = token :: tokens) :
      Pulls lexer session ⟨.ok (some token), { session with pending := tokens }, []⟩
  | ended (pending_eq : session.pending = []) (phase_eq : session.phase = .done) :
      Pulls lexer session ⟨.ok none, session, []⟩
  | scan {run : Run σ τ (Except LexError (Option τ))} (pending_eq : session.pending = [])
      (phase_ne : session.phase ≠ .done) (scans : lexer.Scans session run) :
      Pulls lexer session run

/-! ## Steps are determined -/

variable {lexer : Lexer σ τ} {session middle : Session σ τ}

/-- There is one best candidate at most. -/
theorem Best.unique {first second : Candidate τ} (firstBest : lexer.Best session first)
    (secondBest : lexer.Best session second) : first = second := by
  have size_eq : second.size = first.size :=
    Nat.le_antisymm (firstBest.longest second secondBest.offered)
      (secondBest.longest first firstBest.offered)
  have index_eq : first.index = second.index :=
    Nat.le_antisymm (firstBest.earliest second secondBest.offered size_eq)
      (secondBest.earliest first firstBest.offered size_eq.symm)
  exact firstBest.offered.eq_of_index_eq secondBest.offered index_eq

/-- A session has one next step at most. -/
theorem Step.deterministic {event other : Event τ} {next : Session σ τ}
    (first : lexer.Step session event middle) (second : lexer.Step session other next) :
    event = other ∧ middle = next := by
  cases first with
  | reject best decided rejected =>
      cases second with
      | reject otherBest otherDecided _ =>
          cases best.unique otherBest
          cases decided.symm.trans otherDecided
          exact ⟨rfl, rfl⟩
      | accept otherBest otherDecided accepted =>
          cases best.unique otherBest
          cases decided.symm.trans otherDecided
          rw [rejected] at accepted
          contradiction
      | unmatched none_left _ _ => exact absurd best.offered (none_left _)
  | accept best decided accepted =>
      cases second with
      | reject otherBest otherDecided rejected =>
          cases best.unique otherBest
          cases decided.symm.trans otherDecided
          rw [accepted] at rejected
          contradiction
      | accept otherBest otherDecided _ =>
          cases best.unique otherBest
          cases decided.symm.trans otherDecided
          exact ⟨rfl, rfl⟩
      | unmatched none_left _ _ => exact absurd best.offered (none_left _)
  | unmatched none_left advanced answered =>
      cases second with
      | reject otherBest _ _ => exact absurd otherBest.offered (none_left _)
      | accept otherBest _ _ => exact absurd otherBest.offered (none_left _)
      | unmatched _ otherAdvanced otherAnswered =>
          cases advanced.symm.trans otherAdvanced
          cases answered.symm.trans otherAnswered
          exact ⟨rfl, rfl⟩

/-- A step needs a candidate or a character. -/
theorem Step.not_finished {event : Event τ} (step : lexer.Step session event middle)
    (none_left : ∀ candidate, ¬ lexer.Offers session candidate) : session.cursor.rest ≠ [] := by
  cases step with
  | reject best _ _ => exact absurd best.offered (none_left _)
  | accept best _ _ => exact absurd best.offered (none_left _)
  | unmatched _ advanced _ =>
      intro ended
      simp [Cursor.advance?, ended] at advanced

/-- What the first step of a scan is decides how the scan goes on. -/
theorem Scans.cases_of_step {event : Event τ} {run : Run σ τ (Except LexError (Option τ))}
    (scans : lexer.Scans session run) (step : lexer.Step session event middle) :
    (event.IsQuiet ∧ ∃ rest, lexer.Scans middle rest ∧ run = rest.after [event]) ∨
      (∃ token tokens, event.tokens = token :: tokens ∧
        run = ⟨.ok (some token),
          { middle with pending := middle.pending ++ tokens, phase := .idle }, [event]⟩) ∨
      ∃ error, event.error? = some error ∧
        run = ⟨.error error, { middle with phase := .exhausted }, [event]⟩ := by
  cases scans with
  | quiet otherStep quiet rest =>
      obtain ⟨rfl, rfl⟩ := step.deterministic otherStep
      exact .inl ⟨quiet, _, rest, rfl⟩
  | token otherStep tokens_eq =>
      obtain ⟨rfl, rfl⟩ := step.deterministic otherStep
      exact .inr (.inl ⟨_, _, tokens_eq, rfl⟩)
  | error otherStep error_eq =>
      obtain ⟨rfl, rfl⟩ := step.deterministic otherStep
      exact .inr (.inr ⟨_, error_eq, rfl⟩)
  | finish none_left ended => exact absurd ended (step.not_finished none_left)

/-- A scan has one outcome at most. -/
theorem Scans.deterministic {first second : Run σ τ (Except LexError (Option τ))}
    (firstScan : lexer.Scans session first) (secondScan : lexer.Scans session second) :
    first = second := by
  induction firstScan generalizing second with
  | quiet step quiet _ ih =>
      rcases secondScan.cases_of_step step with
        ⟨_, rest, otherRest, rfl⟩ | ⟨_, _, tokens_eq, _⟩ | ⟨_, error_eq, _⟩
      · rw [ih otherRest]
      · simp [quiet.1] at tokens_eq
      · simp [quiet.2] at error_eq
  | token step tokens_eq =>
      rcases secondScan.cases_of_step step with
        ⟨quiet, _⟩ | ⟨_, _, otherTokens, rfl⟩ | ⟨_, error_eq, _⟩
      · simp [quiet.1] at tokens_eq
      · cases tokens_eq.symm.trans otherTokens
        rfl
      · simp [Event.tokens_of_error? error_eq] at tokens_eq
  | error step error_eq =>
      rcases secondScan.cases_of_step step with
        ⟨quiet, _⟩ | ⟨_, _, tokens_eq, _⟩ | ⟨_, otherError, rfl⟩
      · simp [quiet.2] at error_eq
      · simp [Event.tokens_of_error? error_eq] at tokens_eq
      · cases error_eq.symm.trans otherError
        rfl
  | finish none_left ended =>
      cases secondScan with
      | quiet step _ _ => exact absurd ended (step.not_finished none_left)
      | token step _ => exact absurd ended (step.not_finished none_left)
      | error step _ => exact absurd ended (step.not_finished none_left)
      | finish _ _ => rfl

/-- A pull has one outcome at most. -/
theorem Pulls.deterministic {first second : Run σ τ (Except LexError (Option τ))}
    (firstPull : lexer.Pulls session first) (secondPull : lexer.Pulls session second) :
    first = second := by
  cases firstPull with
  | serve pending_eq => cases secondPull <;> simp_all
  | ended pending_eq phase_eq => cases secondPull <;> simp_all
  | scan pending_eq phase_ne firstScan =>
      cases secondPull with
      | serve otherPending => simp [pending_eq] at otherPending
      | ended _ phase_eq => exact absurd phase_eq phase_ne
      | scan _ _ secondScan => exact firstScan.deterministic secondScan

end Lexer

end Munch
