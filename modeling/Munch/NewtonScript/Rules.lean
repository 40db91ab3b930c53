import Munch.NewtonScript.Category
import Munch.NewtonScript.Patterns
import Munch.Session

/-!
# The rules of NewtonScript

A reserved word is as long as the symbol it would otherwise be, and wins because its rule comes
first.  Block comments are scanned in a state of their own, in which a comment is divided into its
opening sign, its body and its closing sign; one that is not closed runs to the end of the input.
White space and comments are passed over unless they are asked for.
-/

namespace Munch.NewtonScript

/-- The state inside a block comment. -/
def commentState : StateId :=
  2

/-- Which of the separating tokens are handed out. -/
structure Options where
  keepWhiteSpace : Bool := false
  keepComments : Bool := false
  deriving DecidableEq

/-- Hand out white space and comments, so that the tokens make up the whole input. -/
def Options.keepTrivia : Options :=
  ⟨true, true⟩

/-- What becomes of a match that only separates others. -/
def trivia (category : Category) (keep : Bool) (matched : Match) : Outcome (Token Category) :=
  if keep then .emit (matched.token category) else .suppress

/-- A decimal integer in front of a point is none, since it belongs to a real. -/
def integerAction : Action (Token Category) :=
  fun matched context =>
    if !"0x".toList.isPrefixOf matched.text && ".".toList.isPrefixOf matched.following then
      ⟨.reject, context.state⟩
    else
      ⟨.emit (matched.token .integer), context.state⟩

/-- Separating text within a state. -/
def triviaAction (category : Category) (keep : Bool) : Action (Token Category) :=
  fun matched context => ⟨trivia category keep matched, context.state⟩

/-- A part of a comment behind which another state begins. -/
def commentAction (keep : Bool) (state : StateId) : Action (Token Category) :=
  fun matched _ => ⟨trivia .comment keep matched, state⟩

/-- The table of rules. -/
def rules (options : Options) : Except LexError (Table (Token Category)) :=
  let code := StateSet.ofList [initialState]
  let comment := StateSet.ofList [commentState]
  let keep := options.keepComments
  ({} : Builder (Token Category))
    |>.tokenIn code Patterns.reservedWord .reservedWord
    |>.tokenIn code Patterns.real .real
    |>.ruleIn code Patterns.integer integerAction
    |>.tokenIn code Patterns.character .character
    |>.tokenIn code Patterns.string .string
    |>.tokenIn code Patterns.symbol .symbol
    |>.tokenIn code Patterns.operator .operator
    |>.tokenIn code Patterns.delimiter .delimiter
    |>.ruleIn code Patterns.whiteSpace (triviaAction .whiteSpace options.keepWhiteSpace)
    |>.ruleIn code Patterns.lineComment (triviaAction .comment keep)
    |>.ruleIn code Patterns.commentOpen (commentAction keep commentState)
    |>.ruleIn comment Patterns.commentBody (triviaAction .comment keep)
    |>.ruleIn comment Patterns.commentClose (commentAction keep initialState)
    |>.build

/-- The tokens of an input under a fallback. -/
def tokenizeWith (fallback : Fallback Unit (Token Category)) (options : Options) (input : Text) :
    Except LexError (List (Token Category)) := do
  let lexer : Lexer Unit (Token Category) := ⟨← rules options, fallback⟩
  (lexer.tokenize (lexer.start input ())).result

/-- The tokens of an input, or the first character that cannot be part of one. -/
def tokenize (options : Options) (input : Text) : Except LexError (List (Token Category)) :=
  tokenizeWith Fallback.fail options input

end Munch.NewtonScript
