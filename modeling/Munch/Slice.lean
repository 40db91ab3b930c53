import Munch.Text

/-!
# Pieces of a buffer

A slice is a piece of a buffer that still knows what surrounds it.  It is kept as the three parts
into which it divides the buffer, so it always lies inside the buffer and never splits a character.
Byte ranges enter through `Slice.sub?` and `Slice.ofRange?`, which refuse the ranges that are not
such a piece.
-/

namespace Munch

/-- A piece of a buffer, with the parts before and behind it. -/
structure Slice where
  /-- What precedes the piece in its buffer, last character first. -/
  before : Text
  /-- The piece itself. -/
  text : Text
  /-- What follows the piece in its buffer. -/
  after : Text

namespace Slice

/-- A whole text as a piece of itself. -/
def ofText (text : Text) : Slice :=
  ⟨[], text, []⟩

/-- The buffer that the piece was taken from. -/
def buffer (slice : Slice) : Text :=
  slice.before.reverse ++ slice.text ++ slice.after

/-- The byte offset in the buffer at which the piece starts. -/
def start (slice : Slice) : Nat :=
  Text.size slice.before

/-- The number of bytes of the piece. -/
def size (slice : Slice) : Nat :=
  Text.size slice.text

/-- The byte offset in the buffer at which the piece ends. -/
def stop (slice : Slice) : Nat :=
  slice.start + slice.size

/-- Whether the piece has no characters. -/
def isEmpty (slice : Slice) : Bool :=
  slice.text.isEmpty

/-- The part of a piece between two byte offsets relative to its own start.  There is none if the
offsets are out of order, out of bounds or inside a character. -/
def sub? (slice : Slice) (first last : Nat) : Option Slice :=
  if first ≤ last then do
    let (skipped, rest) ← Text.cut? slice.text first
    let (text, left) ← Text.cut? rest (last - first)
    pure ⟨skipped.reverse ++ slice.before, text, left ++ slice.after⟩
  else
    none

/-- The piece of a buffer between two byte offsets. -/
def ofRange? (buffer : Text) (first last : Nat) : Option Slice :=
  (ofText buffer).sub? first last

@[simp]
theorem buffer_ofText (text : Text) : (ofText text).buffer = text := by
  simp [ofText, buffer]

/-- A part of a piece lies behind `first` bytes of it, ends at `last`, and keeps what surrounds
it. -/
theorem sub?_eq_some_iff {slice piece : Slice} {first last : Nat} :
    slice.sub? first last = some piece ↔
      ∃ skipped left, slice.text = skipped ++ piece.text ++ left ∧ Text.size skipped = first ∧
        first + piece.size = last ∧ piece.before = skipped.reverse ++ slice.before ∧
        piece.after = left ++ slice.after := by
  constructor
  · intro narrowed
    unfold sub? at narrowed
    split at narrowed
    · rename_i ordered
      obtain ⟨⟨skipped, rest⟩, outer, narrowed⟩ := Option.bind_eq_some_iff.mp narrowed
      obtain ⟨⟨text, left⟩, inner, narrowed⟩ := Option.bind_eq_some_iff.mp narrowed
      obtain ⟨text_eq, skipped_size⟩ := Text.cut?_eq_some_iff.mp outer
      obtain ⟨rest_eq, text_size⟩ := Text.cut?_eq_some_iff.mp inner
      cases narrowed
      refine ⟨skipped, left, ?_, skipped_size, ?_, rfl, rfl⟩
      · rw [text_eq, rest_eq, List.append_assoc]
      · simp only [size]
        omega
    · contradiction
  · rintro ⟨skipped, left, text_eq, skipped_size, total, before_eq, after_eq⟩
    have outer : Text.cut? slice.text first = some (skipped, piece.text ++ left) :=
      Text.cut?_eq_some_iff.mpr ⟨by rw [text_eq, List.append_assoc], skipped_size⟩
    have inner : Text.cut? (piece.text ++ left) (last - first) = some (piece.text, left) := by
      apply Text.cut?_eq_some_iff.mpr
      refine ⟨rfl, ?_⟩
      simp only [size] at total
      omega
    have ordered : first ≤ last := by omega
    cases piece
    simp_all [sub?]

/-- A part of a piece belongs to the same buffer. -/
theorem buffer_of_sub? {slice piece : Slice} {first last : Nat}
    (narrowed : slice.sub? first last = some piece) : piece.buffer = slice.buffer := by
  obtain ⟨skipped, left, text_eq, _, _, before_eq, after_eq⟩ := sub?_eq_some_iff.mp narrowed
  simp [buffer, text_eq, before_eq, after_eq]

/-- The piece of a buffer between two offsets is the one piece of it that starts and ends there. -/
theorem ofRange?_eq_some_iff {text : Text} {piece : Slice} {first last : Nat} :
    ofRange? text first last = some piece ↔
      piece.buffer = text ∧ piece.start = first ∧ piece.stop = last := by
  unfold ofRange?
  rw [sub?_eq_some_iff]
  constructor
  · rintro ⟨skipped, left, text_eq, skipped_size, total, before_eq, after_eq⟩
    have start_eq : piece.start = first := by
      simpa [start, before_eq, ofText] using skipped_size
    refine ⟨?_, start_eq, ?_⟩
    · simpa [buffer, before_eq, after_eq, ofText] using text_eq.symm
    · rw [stop, start_eq, total]
  · rintro ⟨rfl, rfl, rfl⟩
    refine ⟨piece.before.reverse, piece.after, rfl, Text.size_reverse _, rfl, ?_, ?_⟩
    · simp [ofText]
    · simp [ofText]

/-- Two pieces are alike when they are spelled alike, whatever their buffers. -/
instance : BEq Slice :=
  ⟨fun left right => left.text == right.text⟩

end Slice

end Munch
