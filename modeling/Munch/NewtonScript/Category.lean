/-!
# Lexical categories of NewtonScript

Every token of NewtonScript belongs to one of ten categories.  Two of them, white space and comments,
only separate the others.
-/

namespace Munch.NewtonScript

/-- The lexical categories. -/
inductive Category where
  | reservedWord
  | real
  | integer
  | character
  | string
  | symbol
  | operator
  | delimiter
  | whiteSpace
  | comment
  deriving DecidableEq

namespace Category

/-- Every category, once. -/
def all : List Category :=
  [reservedWord, real, integer, character, string, symbol, operator, delimiter, whiteSpace, comment]

/-- The name under which tokens of the category are written out. -/
def name : Category → String
  | reservedWord => "RESERVED_WORD"
  | real => "REAL"
  | integer => "INTEGER"
  | character => "CHARACTER"
  | string => "STRING"
  | symbol => "SYMBOL"
  | operator => "OPERATOR"
  | delimiter => "DELIMITER"
  | whiteSpace => "WHITE_SPACE"
  | comment => "COMMENT"

/-- The name of the category as a value. -/
def describe : Category → String
  | reservedWord => "ReservedWord"
  | real => "Real"
  | integer => "Integer"
  | character => "Character"
  | string => "String"
  | symbol => "Symbol"
  | operator => "Operator"
  | delimiter => "Delimiter"
  | whiteSpace => "WhiteSpace"
  | comment => "Comment"

/-- Whether tokens of the category only separate others. -/
def isTrivia : Category → Bool
  | whiteSpace => true
  | comment => true
  | _ => false

instance : ToString Category :=
  ⟨name⟩

end Category

end Munch.NewtonScript
