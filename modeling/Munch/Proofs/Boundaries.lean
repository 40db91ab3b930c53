import Munch.Text

/-!
# Boundaries between characters

Offsets into a text count the bytes of its UTF-8 form, and those between two characters are its
boundaries.  `Text.isBoundary_iff_isUTF8FirstByte` says which they are in terms of the bytes alone.

A part of a text has the boundaries of the text that lie within it, counted from where the part
starts.  So whether an offset is usable can be asked of a part or of the whole.
-/

namespace Munch

namespace Text

variable {text front back : Text} {first last offset : Nat}

/-- The bytes of a text are those of its characters. -/
@[simp]
theorem size_utf8Encode (text : Text) : text.utf8Encode.size = size text := by
  induction text with
  | nil => rfl
  | cons char text ih =>
      rw [List.utf8Encode_cons, ByteArray.size_append, List.utf8Encode_singleton,
        List.size_toByteArray, String.length_utf8EncodeChar, ih, size_cons]

/-- An offset between two characters of a text, or at one of its ends. -/
def IsBoundary (text : Text) (offset : Nat) : Prop :=
  ∃ before behind, text = before ++ behind ∧ size before = offset

theorem isBoundary_iff_isSome_cut? :
    text.IsBoundary offset ↔ (cut? text offset).isSome = true := by
  simp only [Option.isSome_iff_exists, Prod.exists, cut?_eq_some_iff, IsBoundary]

instance (text : Text) (offset : Nat) : Decidable (text.IsBoundary offset) :=
  decidable_of_iff _ isBoundary_iff_isSome_cut?.symm

theorem IsBoundary.le_size (boundary : text.IsBoundary offset) : offset ≤ size text := by
  obtain ⟨before, behind, rfl, rfl⟩ := boundary
  rw [size_append]
  exact Nat.le_add_right _ _

theorem rawEndPos_ofList (text : Text) : (String.ofList text).rawEndPos = ⟨size text⟩ := by
  rw [String.rawEndPos, String.utf8ByteSize, String.toByteArray_ofList, size_utf8Encode]

theorem isBoundary_iff_isValid :
    text.IsBoundary offset ↔ String.Pos.Raw.IsValid (String.ofList text) ⟨offset⟩ := by
  rw [String.Pos.Raw.isValid_iff_exists_append]
  constructor
  · rintro ⟨before, behind, rfl, rfl⟩
    exact ⟨String.ofList before, String.ofList behind, String.ofList_append,
      (rawEndPos_ofList before).symm⟩
  · rintro ⟨before, behind, text_eq, offset_eq⟩
    refine ⟨before.toList, behind.toList, ?_, ?_⟩
    · rw [← String.toList_append, ← text_eq, String.toList_ofList]
    · have end_eq := rawEndPos_ofList before.toList
      rw [String.ofList_toList, ← offset_eq] at end_eq
      exact (congrArg String.Pos.Raw.byteIdx end_eq).symm

/-- The boundaries are the end of the UTF-8 form and the places of the first bytes of characters. -/
theorem isBoundary_iff_isUTF8FirstByte :
    text.IsBoundary offset ↔
      offset = size text ∨
        ∃ inside : offset < text.utf8Encode.size, text.utf8Encode[offset].IsUTF8FirstByte := by
  rw [isBoundary_iff_isValid, String.Pos.Raw.isValid_iff_isUTF8FirstByte]
  simp only [rawEndPos_ofList, String.getUTF8Byte, String.toByteArray_ofList, size_utf8Encode,
    String.Pos.Raw.mk.injEq, String.Pos.Raw.lt_iff]

/-- Two boundaries divide a text into three parts. -/
theorem exists_parts (ordered : first ≤ last) (firstBoundary : text.IsBoundary first)
    (lastBoundary : text.IsBoundary last) :
    ∃ skipped part left, text = skipped ++ part ++ left ∧ size skipped = first ∧
      first + size part = last := by
  obtain ⟨skipped, rest, text_eq, rfl⟩ := firstBoundary
  obtain ⟨front, left, front_eq, rfl⟩ := lastBoundary
  rcases List.append_eq_append_iff.mp (text_eq.symm.trans front_eq) with
    ⟨part, rfl, rfl⟩ | ⟨overlap, rfl, rfl⟩
  · exact ⟨skipped, part, left, by rw [text_eq, List.append_assoc], rfl, (size_append _ _).symm⟩
  · -- the first boundary would lie behind the last
    rw [size_append] at ordered
    have nothing : overlap = [] := size_eq_zero_iff.mp (by omega)
    subst overlap
    exact ⟨front, [], rest, by simp [text_eq], by simp, by simp⟩

/-! ## Parts of a text -/

/-- The boundaries behind the front of a text are those of what follows it. -/
theorem isBoundary_append_left_iff :
    IsBoundary (front ++ text) (size front + offset) ↔ text.IsBoundary offset := by
  constructor
  · rintro ⟨before, behind, parts_eq, size_eq⟩
    rcases List.append_eq_append_iff.mp parts_eq with ⟨between, rfl, rfl⟩ | ⟨overlap, rfl, rfl⟩
    · rw [size_append] at size_eq
      exact ⟨between, behind, rfl, Nat.add_left_cancel size_eq⟩
    · -- the boundary cannot lie within the front
      rw [size_append] at size_eq
      exact ⟨[], text, rfl, by rw [size_nil]; omega⟩
  · rintro ⟨before, behind, rfl, rfl⟩
    exact ⟨front ++ before, behind, (List.append_assoc _ _ _).symm, size_append _ _⟩

/-- The boundaries up to the end of a part are not changed by what follows it. -/
theorem isBoundary_append_right_iff (inside : offset ≤ size text) :
    IsBoundary (text ++ back) offset ↔ text.IsBoundary offset := by
  constructor
  · rintro ⟨before, behind, parts_eq, rfl⟩
    rcases List.append_eq_append_iff.mp parts_eq with ⟨overlap, rfl, rfl⟩ | ⟨between, rfl, rfl⟩
    · -- the boundary can only be the end of the part
      rw [size_append] at inside
      have nothing : overlap = [] := size_eq_zero_iff.mp (by omega)
      exact ⟨text, [], (List.append_nil text).symm, by rw [nothing, List.append_nil]⟩
    · exact ⟨before, between, rfl, rfl⟩
  · rintro ⟨before, behind, rfl, rfl⟩
    exact ⟨before, behind ++ back, List.append_assoc _ _ _, rfl⟩

end Text

end Munch
