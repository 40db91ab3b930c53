import Munch.Position
import Munch.Slice

/-!
# Reading positions

A cursor stands between two characters of its input.  It moves forward only, by single characters
or by whole stretches given in bytes, and it keeps the place it has reached.
-/

namespace Munch

/-- A reading position in an input. -/
structure Cursor where
  /-- What has been read, last character first. -/
  passed : Text
  /-- What is still to be read. -/
  rest : Text
  /-- The place reached. -/
  position : Position

namespace Cursor

/-- The cursor in front of an input. -/
def start (input : Text) : Cursor :=
  ⟨[], input, Position.start⟩

/-- The whole input. -/
def buffer (cursor : Cursor) : Text :=
  cursor.passed.reverse ++ cursor.rest

/-- The byte offset reached. -/
def offset (cursor : Cursor) : Nat :=
  cursor.position.offset

/-- Whether nothing is left to read. -/
def atEnd (cursor : Cursor) : Bool :=
  cursor.rest.isEmpty

/-- The next character. -/
def peek? (cursor : Cursor) : Option Char :=
  cursor.rest.head?

/-- Read one character. -/
def advance? (cursor : Cursor) : Option (Char × Cursor) :=
  match cursor.rest with
  | [] => none
  | char :: rest => some (char, ⟨char :: cursor.passed, rest, cursor.position.advance char⟩)

/-- Read the next `count` bytes.  This is refused past the end and inside a character. -/
def advanceBytes? (cursor : Cursor) (count : Nat) : Option Cursor := do
  let (stretch, rest) ← Text.cut? cursor.rest count
  pure ⟨stretch.reverse ++ cursor.passed, rest, cursor.position.after stretch⟩

/-- The cursor at a byte offset of an input. -/
def at? (input : Text) (offset : Nat) : Option Cursor :=
  (start input).advanceBytes? offset

/-- What is still to be read, as a piece of the input. -/
def remaining (cursor : Cursor) : Slice :=
  ⟨cursor.passed, cursor.rest, []⟩

@[simp]
theorem buffer_start (input : Text) : (start input).buffer = input :=
  rfl

/-- Reading a character does not change the input. -/
theorem buffer_of_advance? {cursor moved : Cursor} {char : Char}
    (advanced : cursor.advance? = some (char, moved)) : moved.buffer = cursor.buffer := by
  cases rest_eq : cursor.rest with
  | nil => simp [advance?, rest_eq] at advanced
  | cons next rest =>
      simp only [advance?, rest_eq, Option.some.injEq, Prod.mk.injEq] at advanced
      obtain ⟨rfl, rfl⟩ := advanced
      simp [buffer, rest_eq]

/-- Reading a number of bytes reads exactly the stretch of that size. -/
theorem advanceBytes?_eq_some_iff {cursor moved : Cursor} {count : Nat} :
    cursor.advanceBytes? count = some moved ↔
      ∃ stretch, cursor.rest = stretch ++ moved.rest ∧ Text.size stretch = count ∧
        moved.passed = stretch.reverse ++ cursor.passed ∧
        moved.position = cursor.position.after stretch := by
  constructor
  · intro advanced
    obtain ⟨⟨stretch, rest⟩, divided, advanced⟩ := Option.bind_eq_some_iff.mp advanced
    obtain ⟨rest_eq, size_eq⟩ := Text.cut?_eq_some_iff.mp divided
    cases advanced
    exact ⟨stretch, rest_eq, size_eq, rfl, rfl⟩
  · rintro ⟨stretch, rest_eq, size_eq, passed_eq, position_eq⟩
    have divided : Text.cut? cursor.rest count = some (stretch, moved.rest) :=
      Text.cut?_eq_some_iff.mpr ⟨rest_eq, size_eq⟩
    cases moved
    simp_all [advanceBytes?]

/-- Reading a number of bytes does not change the input. -/
theorem buffer_of_advanceBytes? {cursor moved : Cursor} {count : Nat}
    (advanced : cursor.advanceBytes? count = some moved) : moved.buffer = cursor.buffer := by
  obtain ⟨stretch, rest_eq, _, passed_eq, _⟩ := advanceBytes?_eq_some_iff.mp advanced
  simp [buffer, rest_eq, passed_eq]

end Cursor

end Munch
