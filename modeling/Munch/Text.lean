/-!
# Text measured in bytes

Text is a list of characters, and every offset into it counts bytes of its UTF-8 form.  An offset is
usable only where one character ends and the next begins; `Text.cut?` divides a text there and
refuses every other offset, so a character is never split.

`Text.cut?_eq_some_iff` says exactly which divisions there are.
-/

namespace Munch

/-- A text is its list of characters. -/
abbrev Text := List Char

namespace Text

/-- The number of bytes of a text in UTF-8. -/
def size : Text → Nat
  | [] => 0
  | char :: rest => char.utf8Size + size rest

@[simp]
theorem size_nil : size [] = 0 :=
  rfl

@[simp]
theorem size_cons (char : Char) (rest : Text) : size (char :: rest) = char.utf8Size + size rest :=
  rfl

@[simp]
theorem size_append (left right : Text) : size (left ++ right) = size left + size right := by
  induction left with
  | nil => simp
  | cons char left ih => simp [ih, Nat.add_assoc]

@[simp]
theorem size_reverse (text : Text) : size text.reverse = size text := by
  induction text with
  | nil => rfl
  | cons char text ih => simp [ih, Nat.add_comm]

/-- Only the empty text has no bytes. -/
theorem size_eq_zero_iff {text : Text} : size text = 0 ↔ text = [] := by
  cases text with
  | nil => simp
  | cons char text =>
      have positive := char.utf8Size_pos
      simp only [size_cons, reduceCtorEq, iff_false]
      omega

/-- The two parts of a text on either side of byte `offset`, when a character starts or the text
ends there. -/
def cut? : Text → Nat → Option (Text × Text)
  | text, 0 => some ([], text)
  | [], _ + 1 => none
  | char :: rest, offset + 1 =>
      if char.utf8Size ≤ offset + 1 then
        (cut? rest (offset + 1 - char.utf8Size)).map fun parts => (char :: parts.1, parts.2)
      else
        none

@[simp]
theorem cut?_zero (text : Text) : cut? text 0 = some ([], text) := by
  cases text <;> rfl

/-- A text is divided at the byte size of each of its beginnings. -/
theorem cut?_append (left right : Text) : cut? (left ++ right) (size left) = some (left, right) := by
  induction left with
  | nil => simp
  | cons char left ih =>
      obtain ⟨width, width_eq⟩ := Nat.exists_eq_succ_of_ne_zero (Nat.ne_of_gt char.utf8Size_pos)
      have offset_eq : size (char :: left) = width + size left + 1 := by
        rw [size_cons, width_eq]; omega
      have rest_eq : width + size left + 1 - char.utf8Size = size left := by omega
      rw [offset_eq, List.cons_append, cut?, if_pos (by omega), rest_eq, ih]
      rfl

/-- The parts of a division make up the text, and the first has as many bytes as the offset. -/
theorem append_and_size_of_cut? {text left right : Text} {offset : Nat}
    (divided : cut? text offset = some (left, right)) : text = left ++ right ∧ size left = offset := by
  induction text generalizing offset left right with
  | nil =>
      cases offset with
      | zero => simp_all
      | succ offset => simp [cut?] at divided
  | cons char text ih =>
      cases offset with
      | zero => simp_all
      | succ offset =>
          rw [cut?] at divided
          split at divided
          · obtain ⟨⟨first, second⟩, rest_divided, parts_eq⟩ := Option.map_eq_some_iff.mp divided
            obtain ⟨rfl, rfl⟩ := Prod.mk.inj parts_eq
            obtain ⟨rest_eq, size_eq⟩ := ih rest_divided
            exact ⟨by rw [rest_eq, List.cons_append], by rw [size_cons, size_eq]; omega⟩
          · contradiction

theorem cut?_eq_some_iff {text left right : Text} {offset : Nat} :
    cut? text offset = some (left, right) ↔ text = left ++ right ∧ size left = offset := by
  constructor
  · exact append_and_size_of_cut?
  · rintro ⟨rfl, rfl⟩
    exact cut?_append left right

end Text

end Munch
