import Mathlib.Logic.Basic
import Munch.Proofs.Regex.Acceptance

/-!
# Expressions by their shape

Names for the shapes in which expressions are commonly written, and what each of them accepts.  Sets
of characters are unions, built up from the left as they are read; so are the texts of words.
-/

namespace Munch.Regex

namespace CharClass

variable {char : Char}

/-- The union of some sets. -/
def unions (sets : List CharClass) : CharClass :=
  sets.foldl union empty

/-- The listed characters. -/
def signs (chars : List Char) : CharClass :=
  unions (chars.map single)

/-- All but the listed characters. -/
def outside (chars : List Char) : CharClass :=
  compl (signs chars)

@[simp]
theorem contains_single {other : Char} : (single other).contains char = true ↔ char = other := by
  simp only [single, contains, Bool.and_eq_true, decide_eq_true_eq]
  constructor
  · rintro ⟨above, below⟩
    exact Char.le_antisymm below above
  · rintro rfl
    exact ⟨Char.le_refl _, Char.le_refl _⟩

@[simp]
theorem contains_unions {sets : List CharClass} :
    (unions sets).contains char = true ↔ ∃ set ∈ sets, set.contains char = true := by
  have folded : ∀ (sets : List CharClass) (start : CharClass),
      (sets.foldl union start).contains char = true ↔
      start.contains char = true ∨ ∃ set ∈ sets, set.contains char = true := by
    intro sets
    induction sets with
    | nil => simp
    | cons head sets ih =>
        intro start
        rw [List.foldl_cons, ih]
        simp [contains, or_assoc]
  rw [unions, folded]
  simp [contains]

@[simp]
theorem contains_signs {chars : List Char} :
    (signs chars).contains char = true ↔ char ∈ chars := by
  simp [signs]

@[simp]
theorem contains_outside {chars : List Char} :
    (outside chars).contains char = true ↔ char ∉ chars := by
  rw [← contains_signs, outside, contains, Bool.not_eq_true', Bool.not_eq_true]

end CharClass

/-- Reads one given character. -/
def sign (char : Char) : Regex :=
  oneOf (.single char)

/-- Reads a given text. -/
def word : Text → Regex
  | [] => empty
  | char :: text => text.foldl (fun regex char => cat regex (sign char)) (sign char)

/-- Reads as one of several expressions, the earlier ones rather than the later. -/
def choice : List Regex → Regex
  | [] => oneOf .empty
  | [regex] => regex
  | regex :: next :: others => alt regex (choice (next :: others))

/-- Reads the body or nothing. -/
def optional (body : Regex) : Regex :=
  alt body empty

/-- Reads the body any number of times. -/
def many (body : Regex) : Regex :=
  optional (plus true body)

/-- Reads characters of a set, as many as there are, and one at least. -/
def run (set : CharClass) : Regex :=
  plus true (oneOf set)

variable {last : Option Char} {text rest : Text}

@[simp]
theorem accepts_empty : empty.Accepts last text rest ↔ text = [] :=
  .rfl

@[simp]
theorem accepts_oneOf {set : CharClass} :
    (oneOf set).Accepts last text rest ↔ ∃ char, set.contains char = true ∧ text = [char] :=
  .rfl

@[simp]
theorem accepts_cat {first second : Regex} :
    (cat first second).Accepts last text rest ↔ ∃ front back, text = front ++ back ∧
      first.Accepts last front (back ++ rest) ∧ second.Accepts (behind last front) back rest :=
  .rfl

@[simp]
theorem accepts_alt {first second : Regex} :
    (alt first second).Accepts last text rest ↔
      first.Accepts last text rest ∨ second.Accepts last text rest :=
  .rfl

@[simp]
theorem accepts_sign {char : Char} : (sign char).Accepts last text rest ↔ text = [char] := by
  simp [sign]

@[simp]
theorem accepts_word {spelling : Text} :
    (word spelling).Accepts last text rest ↔ text = spelling := by
  have folded : ∀ spelling regex start, (∀ {last text rest}, Accepts regex last text rest ↔
      text = start) → ∀ {last text rest},
        (spelling.foldl (fun regex char => cat regex (sign char)) regex).Accepts last text rest ↔
          text = start ++ spelling := by
    intro spelling
    induction spelling with
    | nil =>
        intro regex start exact_start last text rest
        rw [List.append_nil]
        exact exact_start
    | cons char spelling ih =>
        intro regex start exact_start last text rest
        have longer : ∀ {last text rest}, (cat regex (sign char)).Accepts last text rest ↔
            text = start ++ [char] := by
          intro last text rest
          simp [exact_start]
        rw [List.foldl_cons, ih _ _ longer, List.append_assoc]
        rfl
  cases spelling with
  | nil => rfl
  | cons char spelling =>
      exact folded spelling (sign char) [char] accepts_sign

@[simp]
theorem accepts_choice {choices : List Regex} :
    (choice choices).Accepts last text rest ↔
      ∃ chosen ∈ choices, chosen.Accepts last text rest := by
  induction choices with
  | nil => simp [choice, CharClass.contains]
  | cons regex others ih =>
      cases others with
      | nil => simp [choice]
      | cons next others =>
          rw [choice, accepts_alt, ih]
          simp

@[simp]
theorem accepts_optional {body : Regex} :
    (optional body).Accepts last text rest ↔ body.Accepts last text rest ∨ text = [] :=
  .rfl

@[simp]
theorem accepts_run {set : CharClass} :
    (run set).Accepts last text rest ↔
      text ≠ [] ∧ ∀ char ∈ text, set.contains char = true := by
  constructor
  · intro accepted
    induction accepted with
    | once only =>
        obtain ⟨char, inside, rfl⟩ := only
        simpa using inside
    | again first _ ih =>
        obtain ⟨char, inside, rfl⟩ := first
        simpa using ⟨inside, ih.2⟩
  · rintro ⟨something, inside⟩
    induction text generalizing last with
    | nil => contradiction
    | cons char text ih =>
        obtain ⟨headInside, inside⟩ := List.forall_mem_cons.mp inside
        by_cases single : text = []
        · subst single
          exact .once ⟨char, headInside, rfl⟩
        · exact Rounds.again ⟨char, headInside, rfl⟩ (ih single inside)

/-- Whether the expression never reads the character. -/
def avoids (char : Char) : Regex → Bool
  | oneOf set => !set.contains char
  | group _ body => body.avoids char
  | cat first second => first.avoids char && second.avoids char
  | alt first second => first.avoids char && second.avoids char
  | plus _ body => body.avoids char
  | _ => true

theorem not_mem_of_accepts {regex : Regex} {char : Char} (avoided : regex.avoids char = true)
    (accepted : regex.Accepts last text rest) : char ∉ text := by
  induction regex generalizing last text rest with
  | empty =>
      cases accepted
      exact List.not_mem_nil
  | oneOf set =>
      obtain ⟨read, inside, rfl⟩ := accepted
      rw [List.mem_singleton]
      rintro rfl
      simp [avoids, inside] at avoided
  | look condition =>
      obtain ⟨_, rfl⟩ := accepted
      exact List.not_mem_nil
  | guard id =>
      cases accepted
      exact List.not_mem_nil
  | group index body ih => exact ih avoided accepted
  | cat first second firstIh secondIh =>
      obtain ⟨firstAvoids, secondAvoids⟩ := Bool.and_eq_true_iff.mp avoided
      obtain ⟨front, back, rfl, frontAccepted, backAccepted⟩ := accepted
      rw [List.mem_append, not_or]
      exact ⟨firstIh firstAvoids frontAccepted, secondIh secondAvoids backAccepted⟩
  | alt first second firstIh secondIh =>
      obtain ⟨firstAvoids, secondAvoids⟩ := Bool.and_eq_true_iff.mp avoided
      rcases accepted with accepted | accepted
      · exact firstIh firstAvoids accepted
      · exact secondIh secondAvoids accepted
  | plus greedy body ih =>
      induction accepted with
      | once only => exact ih avoided only
      | again first _ others =>
          rw [List.mem_append, not_or]
          exact ⟨ih avoided first, others⟩

end Munch.Regex
