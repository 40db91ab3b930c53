import Munch.Text

/-!
# Places in a text

A place is known by its line, its column and its byte offset.  Lines and columns count characters
from one, and only a line feed ends a line.
-/

namespace Munch

/-- A place in a text. -/
structure Position where
  line : Nat
  column : Nat
  offset : Nat
  deriving DecidableEq

namespace Position

/-- The place before the first character. -/
def start : Position :=
  ⟨1, 1, 0⟩

/-- The place behind one more character. -/
def advance (position : Position) (char : Char) : Position :=
  if char = '\n' then
    ⟨position.line + 1, 1, position.offset + char.utf8Size⟩
  else
    ⟨position.line, position.column + 1, position.offset + char.utf8Size⟩

/-- The place behind a further stretch of text. -/
def after (position : Position) (text : Text) : Position :=
  text.foldl advance position

@[simp]
theorem after_nil (position : Position) : position.after [] = position :=
  rfl

@[simp]
theorem after_cons (position : Position) (char : Char) (text : Text) :
    position.after (char :: text) = (position.advance char).after text :=
  rfl

/-- Two stretches in a row lead where their concatenation leads. -/
theorem after_append (position : Position) (first second : Text) :
    position.after (first ++ second) = (position.after first).after second :=
  List.foldl_append

theorem offset_advance (position : Position) (char : Char) :
    (position.advance char).offset = position.offset + char.utf8Size := by
  unfold advance
  split <;> rfl

/-- Bytes add up. -/
theorem offset_after (position : Position) (text : Text) :
    (position.after text).offset = position.offset + Text.size text := by
  induction text generalizing position with
  | nil => simp
  | cons char text ih => rw [after_cons, ih, offset_advance, Text.size_cons, Nat.add_assoc]

/-- Line and column, as they are shown to a reader. -/
def display (position : Position) : String :=
  toString position.line ++ ":" ++ toString position.column

/-- All three counts by name. -/
def describe (position : Position) : String :=
  "Position \x7b line: " ++ toString position.line ++ ", column: " ++ toString position.column ++
    ", offset: " ++ toString position.offset ++ " \x7d"

end Position

end Munch
