import Munch.Text.Quoted

/-!
# Token lists as lines

Each token is a line with its category and its quoted spelling.
-/

namespace Munch.Render.Listing

/-- The line of one token, given as category and spelling, where `plain` tells which characters are
shown as they are. -/
def line (plain : Char → Bool) (entry : Text × Text) : Text :=
  entry.1 ++ ' ' :: (Text.Quoted.encode plain '"' entry.2 ++ ['\n'])

/-- The lines of a token list. -/
def render (entries : List (Text × Text)) : Text :=
  entries.flatMap (line Unicode.isPrintable)

end Munch.Render.Listing
