import Munch.Proofs.Decision
import Munch.Proofs.Phases
import Munch.Proofs.Recovery

/-!
# What a lexer does at a place

`Lexer.Visits` are the sessions that a lexer comes to: those between operations, and those within a
pull, behind a step that neither ends the pull nor hands out a token.  Over a decisive table no rule
is marked as tried at any of them.  So what the next pull does there can be told from the table
alone: it hands out the text of the first candidate as a token (`Lexer.Emits`), or it hands the next
character to the fallback, if there is no candidate.

`Lexer.EmitsAll` is about some texts that are handed out one after the other.
-/

namespace Munch

/-! ## Pieces of the input -/

namespace Cursor

/-- The cursor behind a text that comes next. -/
def past (cursor : Cursor) (text : Text) : Cursor :=
  ⟨text.reverse ++ cursor.passed, cursor.rest.drop text.length, cursor.position.after text⟩

variable {κ : Type}

/-- The token for a text that comes next. -/
def token (cursor : Cursor) (kind : κ) (text : Text) : Token κ :=
  ⟨kind, ⟨cursor.passed, text, cursor.rest.drop text.length⟩, cursor.position⟩

/-- The tokens for texts that come one after the other. -/
def tokens (kind : κ) : Cursor → List Text → List (Token κ)
  | _, [] => []
  | cursor, text :: texts => cursor.token kind text :: tokens kind (cursor.past text) texts

theorem past_append (cursor : Cursor) (first second : Text) :
    cursor.past (first ++ second) = (cursor.past first).past second := by
  simp [past, Position.after_append, List.drop_drop]

theorem rest_past {cursor : Cursor} {text following : Text}
    (rest_eq : cursor.rest = text ++ following) : (cursor.past text).rest = following := by
  simp [past, rest_eq]

theorem offset_past (cursor : Cursor) (text : Text) :
    (cursor.past text).offset = cursor.offset + Text.size text :=
  Position.offset_after cursor.position text

end Cursor

namespace Rule

variable {τ : Type} {rule : Rule τ} {cursor : Cursor} {matched : Match}

/-- A match is what comes next. -/
theorem drop_of_match? (found : rule.match? cursor = some matched) :
    cursor.rest.drop matched.text.length = matched.following := by
  rw [(eq_of_match? found).2.1, List.drop_left]

theorem behind_eq_past (found : rule.match? cursor = some matched) :
    matched.behind = cursor.past matched.text := by
  obtain ⟨before_eq, _, position_eq⟩ := eq_of_match? found
  rw [Cursor.past, drop_of_match? found, ← before_eq, ← position_eq]
  rfl

theorem token_eq_token {κ : Type} (found : rule.match? cursor = some matched) (kind : κ) :
    matched.token kind = cursor.token kind matched.text := by
  obtain ⟨before_eq, _, position_eq⟩ := eq_of_match? found
  rw [Cursor.token, drop_of_match? found, ← before_eq, ← position_eq]
  rfl

end Rule

namespace Lexer

/-! ## Sessions that a lexer comes to -/

section

variable {σ τ : Type} {lexer : Lexer σ τ} {session middle : Session σ τ} {event : Event τ}

/-- The sessions that a lexer comes to, whatever the input and whatever a client does: those between
operations, and those within a pull, behind a step that does not end it.  An operation of several
pulls comes to the sessions between them as well, but so do the pulls one by one. -/
inductive Visits (lexer : Lexer σ τ) : Session σ τ → Prop
  | between (input : Text) (memory : σ) (operations : List Operation) :
      Visits lexer (lexer.performAll (lexer.start input memory) operations).session
  | within {session middle : Session σ τ} {event : Event τ} (visited : Visits lexer session)
      (pending_eq : session.pending = []) (unfinished : session.phase ≠ .done)
      (step : lexer.Step session event middle) (quiet : event.IsQuiet) :
      Visits lexer middle

/-- A pull from here looks for a token: no rule has been tried, no token is pending, and the session
has not ended. -/
structure Ready (lexer : Lexer σ τ) (session : Session σ τ) : Prop where
  clear : lexer.Clear session
  pending_eq : session.pending = []
  unfinished : session.phase ≠ .done

theorem Visits.clear (decisive : lexer.table.Decisive) (visited : lexer.Visits session) :
    lexer.Clear session := by
  induction visited with
  | between input memory operations =>
      exact (lexer.clear_start input memory).performAll decisive operations
  | within _ _ _ step _ clear => exact (step.takes decisive clear).2

/-- A session that has ended has read all of its input. -/
theorem Visits.rest_of_done (visited : lexer.Visits session) (done : session.phase = .done) :
    session.cursor.rest = [] := by
  cases visited with
  | between input memory operations =>
      obtain ⟨_, told⟩ := lexer.exists_told (lexer.start input memory) [] operations
      exact ((told.settled (lexer.settled_start input memory)).done done).2
  | within _ _ _ step _ => exact absurd done step.phase_ne_done

/-- Where something is left to read and no token is pending, a pull looks for one. -/
theorem Visits.ready (decisive : lexer.table.Decisive) (visited : lexer.Visits session)
    (pending_eq : session.pending = []) (more : session.cursor.rest ≠ []) : lexer.Ready session :=
  ⟨visited.clear decisive, pending_eq, fun done => more (visited.rest_of_done done)⟩

/-- What happens first in a pull is the next step. -/
theorem Scans.exists_step {run : Run σ τ (Except LexError (Option τ))} {events : List (Event τ)}
    (scans : lexer.Scans session run) (events_eq : run.events = event :: events) :
    ∃ middle, lexer.Step session event middle := by
  cases scans with
  | quiet step _ _ =>
      obtain ⟨rfl, _⟩ := List.cons.inj events_eq
      exact ⟨_, step⟩
  | token step _ =>
      obtain ⟨rfl, _⟩ := List.cons.inj events_eq
      exact ⟨_, step⟩
  | error step _ =>
      obtain ⟨rfl, _⟩ := List.cons.inj events_eq
      exact ⟨_, step⟩
  | finish _ _ => contradiction

/-- A pull starts with the next step. -/
theorem Ready.head?_events (ready : lexer.Ready session) (step : lexer.Step session event middle) :
    (lexer.next session).events.head? = some event := by
  have scans : lexer.Scans session (lexer.next session) :=
    scans_next ready.pending_eq ready.unfinished
  rcases scans.cases_of_step step with ⟨_, _, _, run_eq⟩ | ⟨_, _, _, run_eq⟩ | ⟨_, _, run_eq⟩
  · rw [run_eq]
    rfl
  · rw [run_eq]
    rfl
  · rw [run_eq]
    rfl

/-- A pull asks the fallback about a character first. -/
def Misses (lexer : Lexer σ τ) (session : Session σ τ) (char : Char) : Prop :=
  (lexer.next session).events.head? =
    some (.unmatched char session.position
      (lexer.fallback char session.position session.memory).1)

/-- Where no rule matches, the fallback is asked about the next character. -/
theorem Ready.misses (ready : lexer.Ready session) {char : Char} {more : Text}
    (rest_eq : session.cursor.rest = char :: more)
    (none_left : ∀ candidate,
      ¬ lexer.table.Offers session.cursor session.state (fun _ => true) candidate) :
    lexer.Misses session char := by
  have advanced : session.cursor.advance? =
      some (char, ⟨char :: session.cursor.passed, more, session.position.advance char⟩) := by
    rw [Cursor.advance?, rest_eq]
    rfl
  exact ready.head?_events
    (.unmatched (fun candidate => none_left candidate ∘ ready.clear.offers_iff.mp) advanced rfl)

end

/-! ## Tokens handed out -/

section

variable {σ κ : Type} {lexer : Lexer σ (Token κ)} {session final : Session σ (Token κ)}
  {kind : κ} {text : Text} {state : StateId}

/-- A pull hands out the text that comes next as a token and leads behind it, to a state.  This takes
one step, and the fallback is not asked. -/
structure Emits (lexer : Lexer σ (Token κ)) (session : Session σ (Token κ)) (kind : κ) (text : Text)
    (state : StateId) : Prop where
  comes : text <+: session.cursor.rest
  result_eq : (lexer.next session).result = .ok (some (session.cursor.token kind text))
  session_eq : (lexer.next session).session =
    { session with cursor := session.cursor.past text, state := state, phase := .idle }
  applied : ∃ index matched decision,
    (lexer.next session).events = [.applied index matched session.context decision]

/-- The first candidate is handed out, if that is what its action does. -/
theorem Ready.emits (ready : lexer.Ready session) {candidate : Candidate (Token κ)}
    (foremost : lexer.table.Foremost session.cursor session.state candidate)
    (something : candidate.matched.text ≠ [])
    (decided : candidate.rule.action candidate.matched session.context =
      ⟨.emit (candidate.matched.token kind), state⟩) :
    lexer.Emits session kind candidate.matched.text state := by
  have found := foremost.offered.matching
  have step : lexer.Step session _ (session.accept candidate _) :=
    .accept (ready.clear.best_iff.mpr foremost) decided rfl
  have pull := next_eq_of_pulls (.scan ready.pending_eq ready.unfinished (.token step rfl))
  -- the marks were clear and are cleared
  have accept_eq : session.accept candidate ⟨.emit (candidate.matched.token kind), state⟩ =
      { session with
        cursor := session.cursor.past candidate.matched.text
        state := state
        phase := .scanning } := by
    have clear : lexer.Clear
        (session.accept candidate ⟨.emit (candidate.matched.token kind), state⟩) :=
      ready.clear.accept something
    have tried_eq := clear.trans ready.clear.symm
    have cursor_eq := Rule.behind_eq_past found
    simp only [Session.accept] at tried_eq ⊢
    rw [tried_eq, cursor_eq]
  refine ⟨?_, ?_, ?_, ?_⟩
  · obtain ⟨_, rest_eq, _⟩ := Rule.eq_of_match? found
    exact ⟨_, rest_eq.symm⟩
  · rw [pull, Rule.token_eq_token found]
  · rw [pull, accept_eq, List.append_nil]
  · exact ⟨_, _, _, congrArg Run.events pull⟩

/-- Pulls hand out the texts that come next as tokens of one kind, one after the other. -/
inductive EmitsAll (lexer : Lexer σ (Token κ)) (kind : κ) :
    Session σ (Token κ) → List Text → Session σ (Token κ) → Prop
  | nil (session : Session σ (Token κ)) : EmitsAll lexer kind session [] session
  | cons {session final : Session σ (Token κ)} {text : Text} {texts : List Text} {state : StateId}
      (emits : lexer.Emits session kind text state)
      (others : EmitsAll lexer kind
        { session with cursor := session.cursor.past text, state := state, phase := .idle } texts
        final) :
      EmitsAll lexer kind session (text :: texts) final

theorem Emits.pulls (emits : lexer.Emits session kind text state) :
    lexer.Pulls session
      ⟨.ok (some (session.cursor.token kind text)),
        { session with cursor := session.cursor.past text, state := state, phase := .idle },
        (lexer.next session).events⟩ := by
  have pulls := lexer.pulls_next session
  rw [← emits.result_eq, ← emits.session_eq]
  exact pulls

theorem EmitsAll.trans {middle : Session σ (Token κ)} {first second : List Text}
    (front : lexer.EmitsAll kind session first middle)
    (back : lexer.EmitsAll kind middle second final) :
    lexer.EmitsAll kind session (first ++ second) final := by
  induction front with
  | nil => exact back
  | cons emits _ ih => exact .cons emits (ih back)

/-- A text is handed out, if there is any. -/
theorem EmitsAll.of_emits (idle : session.phase = .idle)
    (emits : text ≠ [] → lexer.Emits session kind text state)
    (stays : text = [] → state = session.state) :
    lexer.EmitsAll kind session ([text].filter (· ≠ []))
      { session with cursor := session.cursor.past text, state := state } := by
  by_cases nothing : text = []
  · rw [stays nothing, nothing]
    exact .nil session
  · have final_eq :
        { session with cursor := session.cursor.past text, state := state } =
          { session with cursor := session.cursor.past text, state := state, phase := .idle } := by
      rw [← idle]
    rw [List.filter_cons_of_pos (by simpa using nothing), final_eq]
    exact .cons (emits nothing) (.nil _)

/-- As many pulls as there are texts give their tokens. -/
theorem EmitsAll.take_eq {texts : List Text} (emitsAll : lexer.EmitsAll kind session texts final) :
    (lexer.take texts.length session).result = (session.cursor.tokens kind texts).map .ok ∧
      (lexer.take texts.length session).session = final := by
  induction emitsAll with
  | nil session => exact ⟨rfl, rfl⟩
  | @cons session final text texts state emits _ ih =>
      obtain ⟨result_eq, session_eq⟩ := ih
      have pull : lexer.Pulls session
          ⟨Except.map some (.ok (session.cursor.token kind text)), _, _⟩ := emits.pulls
      rw [List.length_cons, take_succ_of_pulls pull]
      exact ⟨congrArg (_ :: ·) result_eq, session_eq⟩

/-- If the input ends behind the texts, their tokens are all that remain. -/
theorem EmitsAll.drains {texts : List Text} (emitsAll : lexer.EmitsAll kind session texts final)
    {ended : Session σ (Token κ)} {events : List (Event (Token κ))}
    (ends : lexer.Pulls final ⟨.ok none, ended, events⟩) :
    ∃ run, lexer.Drains session run ∧ run.result = .ok (session.cursor.tokens kind texts) ∧
      run.session = ended := by
  induction emitsAll with
  | nil session => exact ⟨_, .finish ends, rfl, rfl⟩
  | @cons session final text texts state emits _ ih =>
      obtain ⟨run, drains, result_eq, session_eq⟩ := ih ends
      refine ⟨_, .token emits.pulls drains, ?_, session_eq⟩
      change run.result.map _ = _
      rw [result_eq]
      rfl

/-- Pending tokens come before the others. -/
theorem EmitsAll.take_eq_of_pending {texts : List Text}
    (emitsAll : lexer.EmitsAll kind { session with pending := [] } texts final) :
    (lexer.take (session.pending.length + texts.length) session).result =
        (session.pending ++ session.cursor.tokens kind texts).map .ok ∧
      (lexer.take (session.pending.length + texts.length) session).session = final := by
  obtain ⟨result_eq, session_eq⟩ := emitsAll.take_eq
  have take_eq : lexer.take (session.pending.length + texts.length) session =
      (lexer.take texts.length { session with pending := [] }).map (session.pending.map .ok ++ ·) :=
    lexer.take_pending session session.pending texts.length
  rw [take_eq, List.map_append]
  exact ⟨congrArg (_ ++ ·) result_eq, session_eq⟩

theorem EmitsAll.tokenize_eq {texts : List Text}
    (emitsAll : lexer.EmitsAll kind { session with pending := [] } texts final)
    {ended : Session σ (Token κ)} {events : List (Event (Token κ))}
    (ends : lexer.Pulls final ⟨.ok none, ended, events⟩) :
    (lexer.tokenize session).result =
        .ok (session.pending ++ session.cursor.tokens kind texts) ∧
      (lexer.tokenize session).session = ended := by
  obtain ⟨run, drains, result_eq, session_eq⟩ := emitsAll.drains ends
  rw [(lexer.drains_tokenize session).deterministic (drains.of_pending session.pending)]
  exact ⟨congrArg (Except.map (session.pending ++ ·)) result_eq, session_eq⟩

end

end Lexer

end Munch
