import Munch.Proofs.Boundaries
import Munch.Slice

/-!
# Narrowing

A piece of a buffer is narrowed by offsets relative to its own start, while what comes out is again
a piece of the buffer.  The two views agree: `Slice.sub?_eq_some_iff_ofRange?` says that to narrow a
piece is to take a piece of the buffer that does not end behind it.  Narrowing twice is therefore
narrowing once, by the sum of the offsets.
-/

namespace Munch

/-- Two offsets between which there is a piece of a text: they are in order and within the text, and
both are boundaries. -/
def Text.IsRange (text : Text) (first last : Nat) : Prop :=
  first ≤ last ∧ last ≤ size text ∧ text.IsBoundary first ∧ text.IsBoundary last

instance (text : Text) (first last : Nat) : Decidable (text.IsRange first last) :=
  inferInstanceAs (Decidable (_ ∧ _ ∧ _ ∧ _))

namespace Slice

variable {slice piece : Slice} {first last offset : Nat}

/-- A part of a piece exists exactly if its ends are in order and are boundaries of the piece. -/
theorem exists_sub?_iff :
    (∃ piece, slice.sub? first last = some piece) ↔
      first ≤ last ∧ last ≤ slice.size ∧ slice.text.IsBoundary first ∧
        slice.text.IsBoundary last := by
  constructor
  · rintro ⟨piece, narrowed⟩
    obtain ⟨skipped, left, text_eq, rfl, rfl, _, _⟩ := sub?_eq_some_iff.mp narrowed
    have lastBoundary : slice.text.IsBoundary (Text.size skipped + piece.size) :=
      ⟨skipped ++ piece.text, left, text_eq, Text.size_append _ _⟩
    refine ⟨Nat.le_add_right _ _, lastBoundary.le_size, ?_, lastBoundary⟩
    exact ⟨skipped, piece.text ++ left, by rw [text_eq, List.append_assoc], rfl⟩
  · rintro ⟨ordered, _, firstBoundary, lastBoundary⟩
    obtain ⟨skipped, part, left, text_eq, size_eq, total⟩ :=
      Text.exists_parts ordered firstBoundary lastBoundary
    exact ⟨⟨skipped.reverse ++ slice.before, part, left ++ slice.after⟩,
      sub?_eq_some_iff.mpr ⟨skipped, left, text_eq, size_eq, total, rfl, rfl⟩⟩

/-- There is a piece of a buffer between two offsets exactly if they are a range of it. -/
theorem exists_ofRange?_iff {buffer : Text} :
    (∃ piece, ofRange? buffer first last = some piece) ↔ buffer.IsRange first last :=
  exists_sub?_iff

/-- A part of a piece lies in the buffer where the piece does. -/
theorem ofRange?_of_sub? (narrowed : slice.sub? first last = some piece) :
    ofRange? slice.buffer (slice.start + first) (slice.start + last) = some piece := by
  obtain ⟨skipped, left, text_eq, skipped_size, total, before_eq, _⟩ :=
    sub?_eq_some_iff.mp narrowed
  have start_eq : piece.start = slice.start + first := by
    rw [start, before_eq, Text.size_append, Text.size_reverse, skipped_size, Nat.add_comm]
    rfl
  apply ofRange?_eq_some_iff.mpr
  refine ⟨buffer_of_sub? narrowed, start_eq, ?_⟩
  rw [stop, start_eq, Nat.add_assoc, total]

/-- The boundaries of a piece are those of its buffer that lie within it. -/
theorem isBoundary_text_iff :
    slice.text.IsBoundary offset ↔
      offset ≤ slice.size ∧ slice.buffer.IsBoundary (slice.start + offset) := by
  have absolute (inside : offset ≤ slice.size) :
      slice.buffer.IsBoundary (slice.start + offset) ↔ slice.text.IsBoundary offset := by
    rw [start, ← Text.size_reverse, buffer, List.append_assoc, Text.isBoundary_append_left_iff,
      Text.isBoundary_append_right_iff inside]
  constructor
  · intro boundary
    exact ⟨boundary.le_size, (absolute boundary.le_size).mpr boundary⟩
  · rintro ⟨inside, boundary⟩
    exact (absolute inside).mp boundary

/-- Two offsets are a range of a piece exactly if the last is not behind it and they are a range of
its buffer, counted from the start of the buffer. -/
theorem isRange_text_iff :
    slice.text.IsRange first last ↔
      last ≤ slice.size ∧ slice.buffer.IsRange (slice.start + first) (slice.start + last) := by
  constructor
  · rintro ⟨ordered, inside, firstBoundary, lastBoundary⟩
    have first_absolute := (isBoundary_text_iff.mp firstBoundary).2
    have last_absolute := (isBoundary_text_iff.mp lastBoundary).2
    exact ⟨inside, Nat.add_le_add_left ordered _, last_absolute.le_size, first_absolute,
      last_absolute⟩
  · rintro ⟨inside, ordered, _, firstBoundary, lastBoundary⟩
    have ordered := Nat.le_of_add_le_add_left ordered
    exact ⟨ordered, inside, isBoundary_text_iff.mpr ⟨Nat.le_trans ordered inside, firstBoundary⟩,
      isBoundary_text_iff.mpr ⟨inside, lastBoundary⟩⟩

/-- Narrowing a piece is taking a piece of its buffer that does not end behind it. -/
theorem sub?_eq_some_iff_ofRange? :
    slice.sub? first last = some piece ↔
      last ≤ slice.size ∧
        ofRange? slice.buffer (slice.start + first) (slice.start + last) = some piece := by
  constructor
  · intro narrowed
    obtain ⟨_, inside, _⟩ := exists_sub?_iff.mp ⟨piece, narrowed⟩
    exact ⟨inside, ofRange?_of_sub? narrowed⟩
  · rintro ⟨inside, taken⟩
    have range := exists_ofRange?_iff.mp ⟨piece, taken⟩
    obtain ⟨part, narrowed⟩ := exists_sub?_iff.mpr (isRange_text_iff.mpr ⟨inside, range⟩)
    have same : part = piece := Option.some.inj ((ofRange?_of_sub? narrowed).symm.trans taken)
    rw [narrowed, same]

/-- Narrowing what was narrowed. -/
theorem sub?_eq_some_iff_of_sub? (narrowed : slice.sub? first last = some piece) {low high : Nat}
    {inner : Slice} :
    piece.sub? low high = some inner ↔
      high ≤ last - first ∧ slice.sub? (first + low) (first + high) = some inner := by
  obtain ⟨ordered, inside, _⟩ := exists_sub?_iff.mp ⟨piece, narrowed⟩
  obtain ⟨buffer_eq, start_eq, stop_eq⟩ := ofRange?_eq_some_iff.mp (ofRange?_of_sub? narrowed)
  have size_eq : piece.size = last - first := by
    rw [stop, start_eq] at stop_eq
    omega
  rw [sub?_eq_some_iff_ofRange?, sub?_eq_some_iff_ofRange?, size_eq, buffer_eq, start_eq,
    Nat.add_assoc, Nat.add_assoc]
  constructor
  · rintro ⟨within, inner_taken⟩
    exact ⟨within, by omega, inner_taken⟩
  · rintro ⟨within, _, inner_taken⟩
    exact ⟨within, inner_taken⟩

/-- The bytes of a part are those between its ends. -/
theorem utf8Encode_of_sub? (narrowed : slice.sub? first last = some piece) :
    piece.text.utf8Encode = slice.text.utf8Encode.extract first last := by
  obtain ⟨skipped, left, text_eq, rfl, rfl, _, _⟩ := sub?_eq_some_iff.mp narrowed
  rw [text_eq, List.append_assoc, List.utf8Encode_append, List.utf8Encode_append, size,
    ← Text.size_utf8Encode, ← Text.size_utf8Encode]
  calc
    piece.text.utf8Encode = piece.text.utf8Encode.extract 0 piece.text.utf8Encode.size :=
      ByteArray.extract_zero_size.symm
    _ = (piece.text.utf8Encode ++ left.utf8Encode).extract 0 piece.text.utf8Encode.size :=
      ByteArray.extract_append_size_left.symm
    _ = _ := by rw [← ByteArray.extract_append_size_add, Nat.add_zero]

/-- Between two offsets that are a range of a buffer there is a piece of it.  It can be narrowed
exactly by the ranges of its own text.  What comes out is again a piece of the buffer between two
offsets that are a range of it, namely those given, counted from the start of the piece, and its
bytes are those of the piece between them.  To narrow it again is to narrow the piece by the sum of
the offsets, up to where it was narrowed first. -/
theorem narrowed_of_isRange {buffer : Text} {start stop : Nat}
    (valid : buffer.IsRange start stop) :
    ∃ slice, ofRange? buffer start stop = some slice ∧
      slice.buffer = buffer ∧ slice.start = start ∧ slice.stop = stop ∧
      ∀ first last,
        ((∃ piece, slice.sub? first last = some piece) ↔ slice.text.IsRange first last) ∧
        ∀ piece, slice.sub? first last = some piece →
          buffer.IsRange (start + first) (start + last) ∧
          piece.buffer = buffer ∧ piece.start = start + first ∧ piece.stop = start + last ∧
          piece.text.utf8Encode = slice.text.utf8Encode.extract first last ∧
          ∀ low high inner, piece.sub? low high = some inner ↔
            high ≤ last - first ∧ slice.sub? (first + low) (first + high) = some inner := by
  obtain ⟨slice, taken⟩ := exists_ofRange?_iff.mpr valid
  obtain ⟨rfl, rfl, rfl⟩ := ofRange?_eq_some_iff.mp taken
  refine ⟨slice, taken, rfl, rfl, rfl, ?_⟩
  intro first last
  refine ⟨exists_sub?_iff, ?_⟩
  intro piece narrowed
  have piece_taken := ofRange?_of_sub? narrowed
  obtain ⟨buffer_eq, start_eq, stop_eq⟩ := ofRange?_eq_some_iff.mp piece_taken
  exact ⟨exists_ofRange?_iff.mp ⟨piece, piece_taken⟩, buffer_eq, start_eq, stop_eq,
    utf8Encode_of_sub? narrowed, fun low high inner => sub?_eq_some_iff_of_sub? narrowed⟩

/-- Behind the first of five characters, of which the third has two bytes and the fourth has three:
the piece is not divided inside the third; narrowed to the third and fourth and then to the fourth
alone, it is what narrowing once gives; and what was cut off does not come back. -/
theorem narrowed_of_isRange_accents :
    Text.IsRange ['x', 'a', 'é', '世', 'b'] 1 8 ∧
      ∃ slice, ofRange? ['x', 'a', 'é', '世', 'b'] 1 8 = some slice ∧
        (¬ ∃ piece, slice.sub? 2 6 = some piece) ∧
        ∃ piece, slice.sub? 1 6 = some piece ∧ piece.start = 2 ∧ piece.stop = 7 ∧
          piece.text = ['é', '世'] ∧
          (∃ inner, piece.sub? 2 5 = some inner ∧ slice.sub? 3 6 = some inner) ∧
          ∃ longer, piece.sub? 2 6 ≠ some longer ∧ slice.sub? 3 7 = some longer := by
  have valid : Text.IsRange ['x', 'a', 'é', '世', 'b'] 1 8 := by decide
  obtain ⟨slice, taken, _, _, _, narrows⟩ := narrowed_of_isRange valid
  cases taken
  obtain ⟨piece, narrowed⟩ := (narrows 1 6).1.mpr (by decide)
  obtain ⟨_, _, start_eq, stop_eq, _, again⟩ := (narrows 1 6).2 piece narrowed
  refine ⟨valid, _, rfl, ?_, piece, narrowed, start_eq, stop_eq, ?_, ?_, ?_⟩
  · rw [(narrows 2 6).1]
    decide
  · cases narrowed
    rfl
  · obtain ⟨inner, same⟩ := (narrows 3 6).1.mpr (by decide)
    exact ⟨inner, (again 2 5 inner).mpr ⟨by decide, same⟩, same⟩
  · obtain ⟨longer, whole⟩ := (narrows 3 7).1.mpr (by decide)
    refine ⟨longer, ?_, whole⟩
    intro beyond
    exact absurd ((again 2 6 longer).mp beyond).1 (by decide)

end Slice

end Munch
