import Munch.Error
import Munch.StateSet
import Munch.Token

/-!
# Matches and what is made of them

When the pattern of a rule matches, the action of the rule sees the match and the scanner's state and
decides: it accepts the match with any number of tokens, or it rejects it.  It may name the state in
which the scan goes on; a rejecting action has no say in that.

A fallback decides in the same way about a character that no rule accepts.  It may also fail, and it
may remember what it has seen.
-/

namespace Munch

/-- A match of a rule's pattern, with the text around it. -/
structure Match where
  /-- The input before the match, last character first. -/
  before : Text
  /-- The matched text. -/
  text : Text
  /-- The input behind the match. -/
  following : Text
  /-- The place where the match starts. -/
  position : Position
  /-- What the groups of the pattern read, with the whole match as group 0. -/
  groups : List (Option Text)
  /-- The names of groups and their numbers. -/
  names : List (String × Nat)

namespace Match

/-- The input before the match. -/
def preceding (matched : Match) : Text :=
  matched.before.reverse

/-- The number of bytes matched. -/
def size (matched : Match) : Nat :=
  Text.size matched.text

/-- The byte offset at which the match starts. -/
def start (matched : Match) : Nat :=
  matched.position.offset

/-- The byte offset at which the match ends. -/
def stop (matched : Match) : Nat :=
  matched.start + matched.size

/-- Whether nothing was matched. -/
def isEmpty (matched : Match) : Bool :=
  matched.text.isEmpty

/-- What a group read, if it took part. -/
def group? (matched : Match) (index : Nat) : Option Text :=
  (matched.groups[index]?).join

/-- What a group with a name read, if it took part. -/
def named? (matched : Match) (name : String) : Option Text := do
  matched.group? (← matched.names.lookup name)

/-- The match as a piece of the input. -/
def slice (matched : Match) : Slice :=
  ⟨matched.before, matched.text, matched.following⟩

/-- The token for the whole match. -/
def token {κ : Type} (matched : Match) (kind : κ) : Token κ :=
  ⟨kind, matched.slice, matched.position⟩

/-- The token for the part of a match between two byte offsets relative to its start.  There is none
if the offsets are out of order, out of bounds or inside a character. -/
def tokenAt? {κ : Type} (matched : Match) (kind : κ) (first last : Nat) : Option (Token κ) := do
  let lexeme ← matched.slice.sub? first last
  let (skipped, _) ← Text.cut? matched.text first
  pure ⟨kind, lexeme, matched.position.after skipped⟩

end Match

/-- What is decided about a match. -/
inductive Outcome (τ : Type) where
  /-- Accept it with one token. -/
  | emit (token : τ)
  /-- Accept it with several tokens, to be handed out one by one. -/
  | emitAll (tokens : List τ)
  /-- Accept it without a token. -/
  | suppress
  /-- Do not accept it. -/
  | reject

namespace Outcome

variable {τ : Type}

/-- Whether the match is not accepted. -/
def isReject : Outcome τ → Bool
  | reject => true
  | _ => false

/-- The tokens to be handed out. -/
def tokens : Outcome τ → List τ
  | emit token => [token]
  | emitAll tokens => tokens
  | suppress => []
  | reject => []

end Outcome

/-- What an action sees of the scanner: its state, and the byte offset of the match. -/
structure Context where
  state : StateId
  offset : Nat

/-- What an action decides: the outcome, and the state in which to go on if the match is accepted. -/
structure Decision (τ : Type) where
  outcome : Outcome τ
  state : StateId

/-- A rule's way to decide about its matches. -/
abbrev Action (τ : Type) := Match → Context → Decision τ

namespace Action

/-- Accept every match without a token, and stay in the state. -/
def skip {τ : Type} : Action τ :=
  fun _ context => ⟨.suppress, context.state⟩

/-- Accept every match with one token for the whole of it, and stay in the state. -/
def token {κ : Type} (kind : κ) : Action (Token κ) :=
  fun matched context => ⟨.emit (matched.token kind), context.state⟩

end Action

/-- A way to decide about a character that no rule accepts, given its place and what is remembered of
earlier ones.  A rejecting outcome has the effect of `suppress`, since nothing is left to try. -/
abbrev Fallback (σ τ : Type) := Char → Position → σ → Except LexError (Outcome τ) × σ

namespace Fallback

variable {σ τ : Type}

/-- Every such character is an error. -/
def fail : Fallback σ τ :=
  fun char position memory => (.error (.unexpected char position), memory)

/-- Every such character is passed over. -/
def skip : Fallback σ τ :=
  fun _ _ memory => (.ok .suppress, memory)

end Fallback

end Munch
