import Mathlib.Data.List.Basic
import Munch.Text

/-!
# Reading what was written

A reader takes a value from the front of a text and leaves the rest.  It recovers a written form if
it takes back what was written, whatever follows, and it inverts the form if it takes nothing else.

Values that are written one after the other are taken back by `Reader.many`, which reads as long as
it can.  So what follows them has to be something that cannot be read, and `Reader.upTo` is for
values behind which such a text is written.
-/

namespace Munch.Text

/-- A way to take a value from the front of a text. -/
abbrev Reader (α : Type) := Text → Option (α × Text)

namespace Reader

variable {α β γ : Type}

/-! ## Readers -/

/-- Read as often as possible, and leave what is then in front.  A value that takes up no text is
not read. -/
def many (read : Reader α) (text : Text) : List α × Text :=
  match read text with
  | none => ([], text)
  | some (item, rest) =>
      if rest.length < text.length then (item :: (many read rest).1, (many read rest).2)
      else ([], text)
termination_by text.length

/-- Read behind a fixed text. -/
def behind (opening : Text) (read : Reader α) : Reader α := fun text => do
  read (← opening.isPrefixOf? text)

/-- Read as often as possible, in front of a fixed text. -/
def upTo (read : Reader α) (closing : Text) : Reader (List α) := fun text => do
  let items := read.many text
  pure (items.1, ← closing.isPrefixOf? items.2)

/-- Read two values one after the other. -/
def pair (first : Reader α) (second : Reader β) : Reader (α × β) := fun text => do
  let (left, text) ← first text
  let (right, text) ← second text
  pure ((left, right), text)

/-- Read all of a text. -/
def whole (read : Reader α) (text : Text) : Option α :=
  match read text with
  | some (item, []) => some item
  | _ => none

/-! ## Written forms -/

/-- What is written of a value is read as `value` says, whatever follows. -/
def Recovers (read : Reader α) (write : β → Text) (value : β → α) : Prop :=
  ∀ item rest, read (write item ++ rest) = some (value item, rest)

/-- A value is read exactly where its written form stands. -/
def Inverts (read : Reader α) (write : α → Text) : Prop :=
  ∀ text item rest, read text = some (item, rest) ↔ text = write item ++ rest

variable {read : Reader α}

section

variable {write : β → Text} {value : β → α}

theorem many_of_eq_none {text : Text} (stops : read text = none) : read.many text = ([], text) := by
  rw [many, stops]

/-- Values that are written one after the other are read one after the other, up to a text that
cannot be read. -/
theorem Recovers.many_flatMap (recovers : read.Recovers write value)
    (something : ∀ item, write item ≠ []) {rest : Text} (stops : read rest = none)
    (items : List β) : read.many (items.flatMap write ++ rest) = (items.map value, rest) := by
  induction items with
  | nil => exact many_of_eq_none stops
  | cons item items ih =>
      have shorter : (items.flatMap write ++ rest).length <
          (write item ++ (items.flatMap write ++ rest)).length := by
        have positive := List.length_pos_iff.mpr (something item)
        rw [@List.length_append _ (write item)]
        omega
      rw [List.flatMap_cons, List.append_assoc, many, recovers]
      dsimp only
      rw [if_pos shorter, ih]
      rfl

theorem Recovers.behind (recovers : read.Recovers write value) (opening : Text) :
    (read.behind opening).Recovers (fun item => opening ++ write item) value := by
  intro item rest
  have stripped : opening.isPrefixOf? (opening ++ write item ++ rest) = some (write item ++ rest) :=
    List.isPrefixOf?_eq_some_iff_append_eq.mpr (List.append_assoc _ _ _).symm
  rw [Reader.behind, stripped]
  exact recovers item rest

theorem Recovers.upTo (recovers : read.Recovers write value) (something : ∀ item, write item ≠ [])
    {closing : Text} (stops : ∀ rest, read (closing ++ rest) = none) :
    (read.upTo closing).Recovers (fun items => items.flatMap write ++ closing)
      (List.map value) := by
  intro items rest
  have stripped : closing.isPrefixOf? (closing ++ rest) = some rest :=
    List.isPrefixOf?_eq_some_iff_append_eq.mpr rfl
  rw [Reader.upTo, List.append_assoc, recovers.many_flatMap something (stops rest) items]
  simp [stripped]

theorem Recovers.whole (recovers : read.Recovers write value) (item : β) :
    read.whole (write item) = some (value item) := by
  have found := recovers item []
  rw [List.append_nil] at found
  rw [Reader.whole, found]

end

section

variable {write : α → Text}

theorem Inverts.recovers (inverts : read.Inverts write) : read.Recovers write id :=
  fun item rest => (inverts (write item ++ rest) item rest).mpr rfl

/-- What is read is what was written, up to a text that cannot be read. -/
theorem Inverts.many_eq_iff (inverts : read.Inverts write)
    (something : ∀ item, write item ≠ []) {text rest : Text} {items : List α} :
    read.many text = (items, rest) ↔ text = items.flatMap write ++ rest ∧ read rest = none := by
  constructor
  · intro read_eq
    fun_induction many read text generalizing items with
    | case1 text stops =>
        obtain ⟨rfl, rfl⟩ := Prod.mk.inj read_eq
        exact ⟨rfl, stops⟩
    | case2 text item behind found shorter ih =>
        obtain ⟨rfl, rfl⟩ := Prod.mk.inj read_eq
        obtain ⟨behind_eq, stops⟩ := ih rfl
        have text_eq : text = write item ++ behind := (inverts text item behind).mp found
        refine ⟨?_, stops⟩
        rw [List.flatMap_cons, List.append_assoc, ← behind_eq]
        exact text_eq
    | case3 text item behind found longer =>
        -- a written form is not empty, so there is always less left
        have text_eq : text = write item ++ behind := (inverts text item behind).mp found
        have positive := List.length_pos_iff.mpr (something item)
        rw [text_eq, List.length_append] at longer
        omega
  · rintro ⟨rfl, stops⟩
    rw [inverts.recovers.many_flatMap something stops, List.map_id]

theorem Inverts.behind (inverts : read.Inverts write) (opening : Text) :
    (read.behind opening).Inverts fun item => opening ++ write item := by
  intro text item rest
  constructor
  · intro found
    obtain ⟨inner, stripped, found⟩ := Option.bind_eq_some_iff.mp found
    rw [← List.isPrefixOf?_eq_some_iff_append_eq.mp stripped, (inverts inner item rest).mp found,
      List.append_assoc]
  · rintro rfl
    exact inverts.recovers.behind opening item rest

theorem Inverts.upTo (inverts : read.Inverts write) (something : ∀ item, write item ≠ [])
    {closing : Text} (stops : ∀ rest, read (closing ++ rest) = none) :
    (read.upTo closing).Inverts fun items => items.flatMap write ++ closing := by
  intro text items rest
  constructor
  · intro found
    rw [Reader.upTo] at found
    rcases many_eq : read.many text with ⟨inner, left⟩
    rw [many_eq] at found
    obtain ⟨last, stripped, found⟩ := Option.bind_eq_some_iff.mp found
    obtain ⟨rfl, rfl⟩ := Prod.mk.inj (Option.some.inj found)
    obtain ⟨text_eq, _⟩ := (inverts.many_eq_iff something).mp many_eq
    rw [text_eq, List.append_assoc, List.isPrefixOf?_eq_some_iff_append_eq.mp stripped]
  · rintro rfl
    have found := inverts.recovers.upTo something stops items rest
    rwa [List.map_id] at found

theorem Inverts.pair {second : Reader β} {writeSecond : β → Text} (inverts : read.Inverts write)
    (invertsSecond : second.Inverts writeSecond) :
    (read.pair second).Inverts fun items => write items.1 ++ writeSecond items.2 := by
  rintro text ⟨left, right⟩ rest
  constructor
  · intro found
    obtain ⟨⟨item, middle⟩, first, found⟩ := Option.bind_eq_some_iff.mp found
    obtain ⟨⟨other, last⟩, found, same⟩ := Option.bind_eq_some_iff.mp found
    cases same
    rw [(inverts text left middle).mp first, (invertsSecond middle right rest).mp found,
      List.append_assoc]
  · rintro rfl
    simp [Reader.pair, inverts.recovers left, invertsSecond.recovers right]

theorem Inverts.whole_eq_some_iff (inverts : read.Inverts write) {text : Text} {item : α} :
    read.whole text = some item ↔ text = write item := by
  constructor
  · intro found
    rw [whole] at found
    split at found
    · rename_i other first
      obtain rfl := Option.some.inj found
      rw [(inverts text other []).mp first, List.append_nil]
    · contradiction
  · rintro rfl
    have found := inverts.recovers item []
    rw [List.append_nil] at found
    rw [whole, found]
    rfl

end

end Reader

end Munch.Text
