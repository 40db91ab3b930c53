import Munch.Position
import Munch.Text.Quoted

/-!
# What can go wrong

A rule can have a malformed pattern, and an input can have a character that no rule accepts.
-/

namespace Munch

/-- Why a table could not be built or an input not be divided into tokens. -/
inductive LexError where
  /-- The pattern of the rule with this number cannot be read. -/
  | malformedRule (index : Nat) (pattern : String)
  /-- No rule accepts the character at this place. -/
  | unexpected (char : Char) (position : Position)
  deriving DecidableEq

namespace LexError

/-- The byte offset that the error is about. -/
def offset? : LexError → Option Nat
  | malformedRule _ _ => none
  | unexpected _ position => some position.offset

/-- The error in words. -/
def message : LexError → String
  | malformedRule index pattern =>
      "malformed pattern for rule #" ++ toString index ++ " `" ++ pattern ++
        "`: error parsing pattern 0"
  | unexpected char position =>
      "unexpected character at index " ++ toString position.offset ++ ": " ++
        String.singleton char

/-- The cause and its details by name. -/
def describe : LexError → String
  | malformedRule index pattern =>
      "MalformedRule \x7b index: " ++ toString index ++ ", pattern: " ++
        String.ofList (Text.quoted pattern.toList) ++ ", .. \x7d"
  | unexpected char position =>
      "Lexical \x7b ch: " ++ String.ofList (Text.quotedChar char) ++ ", position: " ++
        position.describe ++ " \x7d"

end LexError

end Munch
