import Munch.Position
import Munch.Slice
import Munch.Text.Quoted

/-!
# Tokens

A token is a piece of text with a kind and a place.  Two tokens are alike when kind, spelling and
place agree, whatever their buffers.
-/

namespace Munch

/-- A classified piece of text. -/
structure Token (κ : Type) where
  kind : κ
  lexeme : Slice
  position : Position

namespace Token

variable {κ : Type}

instance [BEq κ] : BEq (Token κ) :=
  ⟨fun left right =>
    left.kind == right.kind && left.lexeme == right.lexeme && left.position == right.position⟩

/-- The spelling of a token. -/
def text (token : Token κ) : Text :=
  token.lexeme.text

/-- The byte offsets between which the token lies in its buffer. -/
def span (token : Token κ) : Nat × Nat :=
  (token.lexeme.start, token.lexeme.stop)

/-- The name of the kind and the quoted spelling. -/
def display [ToString κ] (token : Token κ) : String :=
  toString token.kind ++ " " ++ String.ofList (Text.quoted token.text)

end Token

end Munch
