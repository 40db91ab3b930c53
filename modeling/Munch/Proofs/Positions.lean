import Mathlib.Data.List.DropRight
import Munch.Cursor
import Munch.Proofs.Boundaries

/-!
# Lines, columns and bytes

A place is moved on character by character, and its three counts are kept in different units.  Here
they are told from the text alone: lines by the line feeds in it, bytes by its UTF-8 form, and
columns by the characters behind its last line feed, or by all of them if there is none.

A cursor can be moved over a stretch of bytes at once, or over its characters one by one
(`Cursor.advanceTimes?`).  Both lead to the same cursor.
-/

namespace Munch

/-! ## Counts -/

namespace Position

theorem line_advance (position : Position) (char : Char) :
    (position.advance char).line = position.line + if char = '\n' then 1 else 0 := by
  unfold advance
  split <;> rfl

theorem column_advance (position : Position) (char : Char) :
    (position.advance char).column = if char = '\n' then 1 else position.column + 1 := by
  unfold advance
  split <;> rfl

/-- A line ends at each line feed. -/
theorem line_after (position : Position) (text : Text) :
    (position.after text).line = position.line + text.count '\n' := by
  induction text generalizing position with
  | nil => rfl
  | cons char text ih =>
      rw [after_cons, ih, line_advance, List.count_cons, Nat.add_assoc]
      simp [Nat.add_comm]

/-- A column is counted from the last line feed, or from the column of the start. -/
theorem column_after (position : Position) (text : Text) :
    (position.after text).column =
      if '\n' ∈ text then 1 + (text.rtakeWhile (· ≠ '\n')).length
      else position.column + text.length := by
  -- from the back: only the last line feed matters, and it is met first there
  induction text using List.reverseRecOn with
  | nil => rfl
  | append_singleton text char ih =>
      rw [after_append, after_cons, after_nil, column_advance, ih, List.rtakeWhile_concat]
      by_cases feed : char = '\n'
      · simp [feed]
      · by_cases earlier : '\n' ∈ text
        · simp [feed, earlier, Nat.add_assoc]
        · simp [feed, earlier, Ne.symm feed, Nat.add_assoc]

end Position

/-! ## Reading one by one -/

namespace Cursor

/-- Read a number of characters, one after the other. -/
def advanceTimes? (cursor : Cursor) : (times : Nat) → Option (Text × Cursor)
  | 0 => some ([], cursor)
  | times + 1 => do
      let (char, next) ← cursor.advance?
      let (chars, moved) ← next.advanceTimes? times
      pure (char :: chars, moved)

variable {cursor : Cursor} {stretch following : Text}

/-- Characters that come next are read one after the other. -/
theorem advanceTimes?_of_rest_eq (rest_eq : cursor.rest = stretch ++ following) :
    cursor.advanceTimes? stretch.length =
      some (stretch, ⟨stretch.reverse ++ cursor.passed, following,
        cursor.position.after stretch⟩) := by
  induction stretch generalizing cursor with
  | nil =>
      cases cursor
      cases rest_eq
      rfl
  | cons char stretch ih =>
      let next : Cursor :=
        ⟨char :: cursor.passed, stretch ++ following, cursor.position.advance char⟩
      have advanced : cursor.advance? = some (char, next) := by
        rw [advance?, rest_eq]
        rfl
      have others : next.advanceTimes? stretch.length = _ := ih rfl
      simp [advanceTimes?, advanced, others, next]

/-- Bytes can be read at once exactly up to a boundary of what is left, and then the cursor is the
one to which reading their characters one after the other leads. -/
theorem isBoundary_rest_iff {count : Nat} :
    cursor.rest.IsBoundary count ↔
      ∃ stretch moved, Text.size stretch = count ∧ cursor.advanceBytes? count = some moved ∧
        cursor.advanceTimes? stretch.length = some (stretch, moved) := by
  constructor
  · rintro ⟨stretch, following, rest_eq, rfl⟩
    exact ⟨stretch, _, rfl, advanceBytes?_eq_some_iff.mpr ⟨stretch, rest_eq, rfl, rfl, rfl⟩,
      advanceTimes?_of_rest_eq rest_eq⟩
  · rintro ⟨_, moved, _, advanced, _⟩
    obtain ⟨stretch, rest_eq, size_eq, _, _⟩ := advanceBytes?_eq_some_iff.mp advanced
    exact ⟨stretch, moved.rest, rest_eq, size_eq⟩

end Cursor

/-- From any place, two texts in a row lead where their concatenation leads; a text moves the line
by its line feeds and the offset by its bytes, and the column is one more than the number of
characters behind its last line feed, or is moved by all its characters if it has none.  A cursor is
therefore moved over a stretch of bytes, up to a boundary, as over the characters of the stretch. -/
theorem Position.after_append_and_counts :
    (∀ (position : Position) (first second : Text),
      position.after (first ++ second) = (position.after first).after second) ∧
    (∀ (position : Position) (text : Text),
      (position.after text).line = position.line + text.count '\n' ∧
      (position.after text).offset = position.offset + text.utf8Encode.size ∧
      (position.after text).column =
        if '\n' ∈ text then 1 + (text.rtakeWhile (· ≠ '\n')).length
        else position.column + text.length) ∧
    ∀ (cursor : Cursor) (count : Nat),
      cursor.rest.IsBoundary count ↔
        ∃ stretch moved, stretch.utf8Encode.size = count ∧
          cursor.advanceBytes? count = some moved ∧
          cursor.advanceTimes? stretch.length = some (stretch, moved) := by
  refine ⟨after_append, ?_, ?_⟩
  · intro position text
    rw [Text.size_utf8Encode]
    exact ⟨line_after position text, offset_after position text, column_after position text⟩
  · intro cursor count
    simp only [Text.size_utf8Encode]
    exact Cursor.isBoundary_rest_iff

end Munch
