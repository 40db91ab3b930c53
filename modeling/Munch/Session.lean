import Munch.Table

/-!
# Scanning an input

A lexer is a table of rules and a fallback.  It divides an input into tokens in a session, which is
pulled for one token at a time.

At each place the candidates of the table are tried in order.  A rejected candidate leaves no trace
but that its rule is not tried again at this place.  An accepted candidate sets the state, moves the
cursor behind its match and hands out its tokens: the first at once, the others at the next pulls.
Where no candidate is accepted, the cursor passes one character, and the fallback decides about it.

Every rule is tried at most once at a place, however often the place is looked at, so a match that
reads nothing cannot be accepted forever.  `Session.work` is a bound on what is left to be done; each
look at a place lowers it.

Each operation also reports, in order, which actions were applied and which characters went to the
fallback.
-/

namespace Munch

/-- How far a session has come. -/
inductive Phase where
  /-- Ready for the next pull. -/
  | idle
  /-- Candidates are being tried. -/
  | scanning
  /-- No candidate at the last place was accepted. -/
  | exhausted
  /-- The input has ended. -/
  | done
  deriving DecidableEq

/-- The name of a phase. -/
def Phase.describe : Phase → String
  | idle => "Idle"
  | scanning => "Scanning"
  | exhausted => "Exhausted"
  | done => "Done"

/-- The state of a scan. -/
structure Session (σ τ : Type) where
  /-- The place reached in the input. -/
  cursor : Cursor
  /-- The state of the scanner. -/
  state : StateId
  /-- The tokens still to be handed out. -/
  pending : List τ
  /-- For each rule, whether it was tried at this place. -/
  tried : List Bool
  phase : Phase
  /-- What the fallback remembers. -/
  memory : σ

/-- Something that happened during a scan. -/
inductive Event (τ : Type) where
  /-- The action of a rule was applied to a match. -/
  | applied (index : Nat) (matched : Match) (context : Context) (decision : Decision τ)
  /-- The fallback was asked about a character. -/
  | unmatched (char : Char) (position : Position) (answer : Except LexError (Outcome τ))

/-- The result of an operation on a session, the session after it, and what happened. -/
structure Run (σ τ α : Type) where
  result : α
  session : Session σ τ
  events : List (Event τ)

namespace Run

variable {σ τ α β : Type}

/-- Put events in front. -/
def after (events : List (Event τ)) (run : Run σ τ α) : Run σ τ α :=
  { run with events := events ++ run.events }

/-- Change the result. -/
def map (change : α → β) (run : Run σ τ α) : Run σ τ β :=
  ⟨change run.result, run.session, run.events⟩

end Run

/-- A table of rules, and what to do where none of them is accepted. -/
structure Lexer (σ τ : Type) where
  table : Table τ
  fallback : Fallback σ τ

namespace Session

variable {σ τ : Type}

/-- The byte offset reached. -/
def offset (session : Session σ τ) : Nat :=
  session.cursor.offset

/-- The place reached. -/
def position (session : Session σ τ) : Position :=
  session.cursor.position

/-- What is still to be read. -/
def remaining (session : Session σ τ) : Slice :=
  session.cursor.remaining

/-- Go on in another state. -/
def setState (session : Session σ τ) (state : StateId) : Session σ τ :=
  { session with state := state }

/-- Start over with a new input.  What the fallback remembers is kept. -/
def reset (session : Session σ τ) (input : Text) : Session σ τ :=
  { cursor := Cursor.start input
    state := initialState
    pending := []
    tried := session.tried.map fun _ => false
    phase := .idle
    memory := session.memory }

/-- No rule has been tried. -/
def clearTried (session : Session σ τ) : Session σ τ :=
  { session with tried := session.tried.map fun _ => false }

/-- Whether the rule with the given number is still to be tried at this place. -/
def isUntried (session : Session σ τ) (index : Nat) : Bool :=
  session.tried[index]? == some false

/-- A bound on the number of looks still to be taken: one for each rule untried here, and at each
place behind one for each rule and one for the fallback. -/
def work (session : Session σ τ) : Nat :=
  session.cursor.rest.length * (session.tried.length + 1) + session.tried.count false

/-- Move the cursor behind an accepted match.  When it moves, every rule may be tried again. -/
def advance (session : Session σ τ) (count : Nat) : Session σ τ :=
  if count = 0 then
    session
  else
    { session with cursor := (session.cursor.advanceBytes? count).getD session.cursor }.clearTried

/-- Hand out the first of some tokens and keep the others for the next pulls.  Without a token, go
on. -/
def handOut (session : Session σ τ) (tokens : List τ)
    (goOn : Session σ τ → Run σ τ (Except LexError (Option τ))) :
    Run σ τ (Except LexError (Option τ)) :=
  match tokens with
  | token :: tokens =>
      let session := { session with pending := session.pending ++ tokens, phase := .idle }
      ⟨.ok (some token), session, []⟩
  | [] => goOn session

end Session

/-- The trial of some candidates: what happened, which rules have now been tried, and the first
candidate that was accepted. -/
structure Trial (τ : Type) where
  events : List (Event τ)
  tried : List Bool
  accepted : Option (Candidate τ × Decision τ)

/-- Try candidates in order until one is accepted. -/
def Trial.run {τ : Type} (context : Context) : List (Candidate τ) → List Bool → Trial τ
  | [], tried => ⟨[], tried, none⟩
  | candidate :: rest, tried =>
      let tried := tried.set candidate.index true
      let decision := candidate.rule.action candidate.matched context
      let event := .applied candidate.index candidate.matched context decision
      if decision.outcome.isReject then
        let trial := Trial.run context rest tried
        { trial with events := event :: trial.events }
      else
        ⟨[event], tried, some (candidate, decision)⟩

namespace Lexer

variable {σ τ : Type}

/-- A session in front of an input. -/
def start (lexer : Lexer σ τ) (input : Text) (memory : σ) : Session σ τ :=
  { cursor := Cursor.start input
    state := initialState
    pending := []
    tried := lexer.table.rules.map fun _ => false
    phase := .idle
    memory := memory }

/-- Try the untried candidates at the place reached. -/
def trial (lexer : Lexer σ τ) (session : Session σ τ) : Trial τ :=
  Trial.run ⟨session.state, session.offset⟩
    (lexer.table.candidates session.cursor session.state session.isUntried) session.tried

/-- Pass over a character that no candidate was accepted for, to the cursor behind it, and ask the
fallback about it. -/
def fallBack (lexer : Lexer σ τ) (session : Session σ τ) (char : Char) (cursor : Cursor)
    (goOn : Session σ τ → Run σ τ (Except LexError (Option τ))) :
    Run σ τ (Except LexError (Option τ)) :=
  let (answer, memory) := lexer.fallback char session.position session.memory
  let behind :=
    { session with cursor := cursor, phase := .exhausted, memory := memory }.clearTried
  let run : Run σ τ (Except LexError (Option τ)) :=
    match answer with
    | .error error => ⟨.error error, behind, []⟩
    | .ok outcome => behind.handOut outcome.tokens goOn
  run.after [.unmatched char session.position answer]

/-- Look at the place reached, and go on until there is a token, an error or the end.  The number of
looks is bounded by `fuel`. -/
def scan (lexer : Lexer σ τ) : (fuel : Nat) → Session σ τ → Run σ τ (Except LexError (Option τ))
  | 0, session => ⟨.ok none, session, []⟩
  | fuel + 1, session =>
      let trial := lexer.trial session
      let session := { session with tried := trial.tried, phase := .scanning }
      let run : Run σ τ (Except LexError (Option τ)) :=
        match trial.accepted with
        | some (candidate, decision) =>
            let session := { session with state := decision.state }.advance candidate.size
            session.handOut decision.outcome.tokens (lexer.scan fuel)
        | none =>
            match session.cursor.advance? with
            | none => ⟨.ok none, { session with phase := .done }, []⟩
            | some (char, cursor) => lexer.fallBack session char cursor (lexer.scan fuel)
      run.after trial.events

/-- Pull the next token, or nothing at the end of the input.  After an error the session goes on
behind the character that caused it. -/
def next (lexer : Lexer σ τ) (session : Session σ τ) : Run σ τ (Except LexError (Option τ)) :=
  match session.pending with
  | token :: tokens => ⟨.ok (some token), { session with pending := tokens }, []⟩
  | [] =>
      match session.phase with
      | .done => ⟨.ok none, session, []⟩
      | _ => lexer.scan (session.work + 1) session

/-- Pull at most `count` times, up to the end of the input, and keep the tokens and the errors. -/
def take (lexer : Lexer σ τ) : (count : Nat) → Session σ τ → Run σ τ (List (Except LexError τ))
  | 0, session => ⟨[], session, []⟩
  | count + 1, session =>
      let pull := lexer.next session
      let item? : Option (Except LexError τ) :=
        match pull.result with
        | .ok none => none
        | .ok (some token) => some (.ok token)
        | .error error => some (.error error)
      match item? with
      | none => ⟨[], pull.session, pull.events⟩
      | some item => ((lexer.take count pull.session).map (item :: ·)).after pull.events

/-- Hand out the pending tokens and pull once more, until there is an error or the end.  The number
of these pulls is bounded by `fuel`. -/
def drain (lexer : Lexer σ τ) : (fuel : Nat) → Session σ τ → Run σ τ (Except LexError (List τ))
  | 0, session => ⟨.ok [], session, []⟩
  | fuel + 1, session =>
      let pull := lexer.next { session with pending := [] }
      match pull.result with
      | .error error => ⟨.error error, pull.session, pull.events⟩
      | .ok none => ⟨.ok session.pending, pull.session, pull.events⟩
      | .ok (some token) =>
          ((lexer.drain fuel pull.session).map
            (Except.map (session.pending ++ token :: ·))).after pull.events

/-- Pull all remaining tokens.  The first error ends this, and the tokens pulled before it are
lost. -/
def tokenize (lexer : Lexer σ τ) (session : Session σ τ) : Run σ τ (Except LexError (List τ)) :=
  lexer.drain (session.work + 1) session

end Lexer

end Munch
