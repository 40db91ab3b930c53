import Munch.Proofs.NewtonScript.Starts

/-!
# Numbers

Which number stands at the start of a text is found by looking at one run of digits after the other:
`numberAt` does so, without regard to rules.  The lexer finds the same (`emits_numberAt`): two rules
compete at a digit, and the one for integers does not look beyond its digits, but where a point
follows them the rule for reals reads more.
-/

namespace Munch.NewtonScript

open Regex

/-! ## Reading a number -/

/-- A minus sign, if the text starts with one. -/
def minusAt (text : Text) : Text :=
  if text.head? = some '-' then ['-'] else []

/-- The exponent at the start of a text: its mark, perhaps a minus sign, and digits.  Without digits
there is none. -/
def exponentAt : Text → Text
  | [] => []
  | mark :: text =>
      let digits := (text.drop (minusAt text).length).takeWhile Unicode.isAsciiDigit
      if mark ∈ ['e', 'E'] ∧ digits ≠ [] then mark :: minusAt text ++ digits else []

/-- The number at the start of a text that starts with a digit, and its category. -/
def numberAt (text : Text) : Category × Text :=
  let hexDigits := (text.drop 2).takeWhile isHexDigit
  let whole := text.takeWhile Unicode.isAsciiDigit
  let following := text.dropWhile Unicode.isAsciiDigit
  if ['0', 'x'] <+: text ∧ hexDigits ≠ [] then
    (.integer, '0' :: 'x' :: hexDigits)
  else if following.head? = some '.' then
    let fraction := following.tail.takeWhile Unicode.isAsciiDigit
    let exponent := exponentAt (following.tail.dropWhile Unicode.isAsciiDigit)
    (.real, whole ++ ['.'] ++ fraction ++ exponent)
  else
    (.integer, whole)

example : numberAt "0x1.5".toList = (.integer, "0x1".toList) ∧
    numberAt "0xg".toList = (.integer, "0".toList) ∧
    numberAt "1..2".toList = (.real, "1.".toList) ∧
    numberAt "1.5e+3".toList = (.real, "1.5".toList) ∧
    numberAt "1.e-30f".toList = (.real, "1.e-30".toList) := by
  decide

/-! ## Matches -/

namespace Form

variable {last : Option Char} {text rest : Text}

/-- The expression of exponents. -/
def exponent : Regex :=
  cat (cat (oneOf (.signs ['e', 'E'])) (optional (sign '-'))) (run digit)

theorem minusAt_append (text : Text) : minusAt text ++ text.drop (minusAt text).length = text := by
  unfold minusAt
  split
  · rename_i negative
    obtain ⟨others, rfl⟩ := List.head?_eq_some_iff.mp negative
    rfl
  · rfl

theorem prefers_minusAt (last : Option Char) (text : Text) :
    (optional (sign '-')).Prefers last (minusAt text) (text.drop (minusAt text).length) := by
  unfold minusAt
  split
  · exact (prefers_sign '-').optional
  · rename_i positive
    apply Refuses.optional
    rintro _ back rfl accepted
    obtain rfl := accepts_sign.mp accepted
    exact positive rfl

/-- Where no digit follows, there is no exponent. -/
theorem refuses_exponent {mark : Char}
    (nothing : (text.drop (minusAt text).length).takeWhile Unicode.isAsciiDigit = []) :
    exponent.Refuses last (mark :: text) := by
  refine Refuses.cat ?_
  rintro _ back text_eq ⟨_, signed, rfl, ⟨_, _, rfl⟩, minus⟩
  obtain ⟨_, rfl⟩ : _ ∧ text = signed ++ back := List.cons.inj text_eq
  apply Refuses.run
  rw [contains_digit_eq]
  rcases minus with minus | rfl
  · obtain rfl := accepts_sign.mp minus
    exact Text.any_head?_of_takeWhile_eq_nil nothing
  · -- where the sign is left out although it stands there, it is no digit
    rw [List.nil_append, minusAt] at nothing
    split at nothing
    · rename_i negative
      rw [negative]
      rfl
    · exact Text.any_head?_of_takeWhile_eq_nil nothing

theorem prefers_exponent {mark : Char} (marked : mark ∈ ['e', 'E'])
    (something : (text.drop (minusAt text).length).takeWhile Unicode.isAsciiDigit ≠ []) :
    exponent.Prefers last
      ([mark] ++ minusAt text ++
        (text.drop (minusAt text).length).takeWhile Unicode.isAsciiDigit)
      ((text.drop (minusAt text).length).dropWhile Unicode.isAsciiDigit) := by
  have sign := prefers_minusAt (behind last [mark]) text
  rw [← contains_digit_eq] at something ⊢
  refine .cat (.cat (prefers_oneOf (CharClass.contains_signs.mpr marked)) ?_)
    (prefers_run_takeWhile something)
  rw [List.takeWhile_append_dropWhile]
  exact sign

/-- The exponent that stands there is matched. -/
theorem exists_prefers_exponentAt (last : Option Char) (text : Text) :
    ∃ rest, text = exponentAt text ++ rest ∧
      (optional exponent).Prefers last (exponentAt text) rest := by
  cases text with
  | nil => exact ⟨[], rfl, (Refuses.cat_left (Refuses.cat_left (.oneOf rfl))).optional⟩
  | cons mark text =>
      by_cases written : mark ∈ ['e', 'E'] ∧
          (text.drop (minusAt text).length).takeWhile Unicode.isAsciiDigit ≠ []
      · have exponent_eq : exponentAt (mark :: text) = [mark] ++ minusAt text ++
            (text.drop (minusAt text).length).takeWhile Unicode.isAsciiDigit := if_pos written
        rw [exponent_eq]
        refine ⟨_, ?_, (prefers_exponent written.1 written.2).optional⟩
        rw [List.append_assoc, List.takeWhile_append_dropWhile, List.append_assoc, minusAt_append]
        rfl
      · have exponent_eq : exponentAt (mark :: text) = [] := if_neg written
        rw [exponent_eq]
        refine ⟨mark :: text, rfl, Refuses.optional ?_⟩
        by_cases marked : mark ∈ ['e', 'E']
        · apply refuses_exponent
          simpa [marked] using written
        · refine Refuses.cat_left (Refuses.cat_left (.oneOf ?_))
          rw [List.head?_cons, Option.any_some, Bool.eq_false_iff, ne_eq, CharClass.contains_signs]
          exact marked

/-- A real is accepted only where a point follows the digits. -/
theorem head?_dropWhile_of_real (accepted : real.regex.Accepts last text rest) :
    ((text ++ rest).dropWhile Unicode.isAsciiDigit).head? = some '.' := by
  obtain ⟨_, exponent, rfl, ⟨_, fraction, rfl, ⟨digits, _, rfl, whole, point⟩, _⟩, _⟩ := accepted
  obtain rfl := accepts_sign.mp point
  have figures : ∀ char ∈ digits, Unicode.isAsciiDigit char = true := fun char member =>
    contains_digit.mp ((accepts_run.mp whole).2 char member)
  simp only [List.append_assoc]
  rw [List.dropWhile_append_of_pos figures]
  rfl

/-- Digits, a point, the digits behind it and the exponent that stands there are matched. -/
theorem exists_prefers_real {more : Text} (last : Option Char)
    (something : text.takeWhile Unicode.isAsciiDigit ≠ [])
    (pointed : text.dropWhile Unicode.isAsciiDigit = '.' :: more) :
    ∃ rest, text = text.takeWhile Unicode.isAsciiDigit ++ ['.'] ++
        more.takeWhile Unicode.isAsciiDigit ++
        exponentAt (more.dropWhile Unicode.isAsciiDigit) ++ rest ∧
      real.regex.Prefers last (text.takeWhile Unicode.isAsciiDigit ++ ['.'] ++
        more.takeWhile Unicode.isAsciiDigit ++
        exponentAt (more.dropWhile Unicode.isAsciiDigit)) rest := by
  obtain ⟨rest, rest_eq, exponent⟩ :=
    exists_prefers_exponentAt (behind last (text.takeWhile Unicode.isAsciiDigit ++ ['.'] ++
      more.takeWhile Unicode.isAsciiDigit)) (more.dropWhile Unicode.isAsciiDigit)
  have fraction : (optional (run digit)).Prefers
      (behind last (text.takeWhile Unicode.isAsciiDigit ++ ['.']))
      (more.takeWhile Unicode.isAsciiDigit) (more.dropWhile Unicode.isAsciiDigit) := by
    rw [← contains_digit_eq]
    exact prefers_optional_run_takeWhile digit more
  have whole : (run digit).Prefers last (text.takeWhile Unicode.isAsciiDigit) ('.' :: more) := by
    rw [← pointed]
    rw [← contains_digit_eq] at something ⊢
    exact prefers_run_takeWhile something
  refine ⟨rest, ?_, .cat (.cat (.cat ?_ (prefers_sign '.')) ?_) exponent⟩
  · rw [List.append_assoc, ← rest_eq, List.append_assoc, List.takeWhile_append_dropWhile,
      List.append_assoc, List.singleton_append, ← pointed, List.takeWhile_append_dropWhile]
  · rw [← rest_eq, List.takeWhile_append_dropWhile]
    exact whole
  · rw [← rest_eq]
    exact fraction

/-- A mark and the hexadecimal digits behind it are matched. -/
theorem prefers_hexadecimal {more : Text} (something : more.takeWhile isHexDigit ≠ []) :
    integer.regex.Prefers last (['0', 'x'] ++ more.takeWhile isHexDigit)
      (more.dropWhile isHexDigit) := by
  rw [← contains_hexDigit_eq] at something ⊢
  exact .alt (.cat (prefers_word ['0', 'x']) (prefers_run_takeWhile something))

/-- Without a mark, or without a hexadecimal digit behind it, digits are matched. -/
theorem prefers_decimal (something : text.takeWhile Unicode.isAsciiDigit ≠ [])
    (unmarked : ¬ (['0', 'x'] <+: text ∧ (text.drop 2).takeWhile isHexDigit ≠ [])) :
    integer.regex.Prefers last (text.takeWhile Unicode.isAsciiDigit)
      (text.dropWhile Unicode.isAsciiDigit) := by
  rw [← contains_digit_eq] at something ⊢
  refine (prefers_run_takeWhile something).alt_of_refuses ?_
  rw [List.takeWhile_append_dropWhile]
  refine Refuses.cat ?_
  rintro front back rfl marked
  obtain rfl := accepts_word.mp marked
  apply Refuses.run
  rw [contains_hexDigit_eq]
  apply Text.any_head?_of_takeWhile_eq_nil
  by_contra digits
  exact unmarked ⟨List.prefix_append _ _, digits⟩

/-- At a digit, only reals and integers come into question. -/
theorem eq_real_or_integer_of_match? {options : Options} {form : Form} {matched : Match}
    {cursor : Cursor} {char : Char} {more : Text} (code : form.state = initialState)
    (found : (form.rule options).match? cursor = some matched)
    (rest_eq : cursor.rest = char :: more) (figure : Unicode.isAsciiDigit char = true) :
    form = real ∨ form = integer := by
  obtain ⟨others, text_eq, _⟩ := exists_cons_of_match? found rest_eq
  have appears := appearance_of_match? found code
  rw [text_eq, ofText_of_digit figure] at appears
  split at appears
  · exact .inl (eq_of_appearance_eq appears (by decide))
  · exact .inr (eq_of_appearance_eq appears (by decide))

end Form

/-! ## Numbers handed out -/

section

variable {options : Options} {σ : Type} {fallback : Fallback σ (Token Category)}
  {session : Session σ (Token Category)} {char : Char} {more text rest : Text}

/-- Where no point follows the digits, an integer is handed out. -/
theorem emits_integer (ready : Lexer.Ready ⟨tableOf options Form.all, fallback⟩ session)
    (state_eq : session.state = initialState) (rest_eq : session.cursor.rest = char :: more)
    (figure : Unicode.isAsciiDigit char = true)
    (unpointed : (session.cursor.rest.dropWhile Unicode.isAsciiDigit).head? ≠ some '.')
    (text_eq : session.cursor.rest = text ++ rest)
    (prefers : Form.integer.regex.Prefers session.cursor.passed.head? text rest) :
    Lexer.Emits ⟨tableOf options Form.all, fallback⟩ session .integer text initialState := by
  obtain ⟨matched, found, rfl⟩ :
      ∃ matched, (Form.integer.rule options).match? session.cursor = some matched ∧
        matched.text = text := Rule.exists_match?_of_prefers text_eq prefers
  refine emits_of_match? ready found state_eq.symm ?_ nofun rfl
  intro kind other code otherFound
  rcases Form.eq_real_or_integer_of_match? code otherFound rest_eq figure with rfl | rfl
  · obtain ⟨_, other_eq, _⟩ := Rule.eq_of_match? otherFound
    have pointed := Form.head?_dropWhile_of_real (Form.accepts_of_match? otherFound)
    rw [← other_eq] at pointed
    exact absurd pointed unpointed
  · cases found.symm.trans otherFound
    exact Nat.le_refl _

/-- A real is handed out if it can be. -/
theorem emits_real (ready : Lexer.Ready ⟨tableOf options Form.all, fallback⟩ session)
    (state_eq : session.state = initialState) (rest_eq : session.cursor.rest = char :: more)
    (figure : Unicode.isAsciiDigit char = true) (text_eq : session.cursor.rest = text ++ rest)
    (prefers : Form.real.regex.Prefers session.cursor.passed.head? text rest) :
    Lexer.Emits ⟨tableOf options Form.all, fallback⟩ session .real text initialState := by
  obtain ⟨matched, found, rfl⟩ :
      ∃ matched, (Form.real.rule options).match? session.cursor = some matched ∧
        matched.text = text := Rule.exists_match?_of_prefers text_eq prefers
  refine emits_of_match? ready found state_eq.symm ?_ nofun rfl
  intro kind other code otherFound
  rcases Form.eq_real_or_integer_of_match? code otherFound rest_eq figure with rfl | rfl
  · cases found.symm.trans otherFound
    exact Nat.le_refl _
  · -- an integer has no point, so it does not go on as far as the real
    have free : '.' ∉ other.text := not_mem_of_accepts (by decide) (Form.accepts_of_match? otherFound)
    obtain ⟨first, others, behind, real_eq, _⟩ :=
      Form.exists_digits_of_real (Form.accepts_of_match? found)
    obtain ⟨_, other_eq, _⟩ := Rule.eq_of_match? otherFound
    apply Text.size_le_of_prefix
    rcases List.prefix_or_prefix_of_prefix ⟨_, other_eq.symm⟩ ⟨_, text_eq.symm⟩ with
      shorter | ⟨left, longer⟩
    · exact shorter
    · apply absurd _ free
      rw [← longer, real_eq]
      simp

/-- At a digit, the number that stands there is handed out. -/
theorem emits_of_digit (ready : Lexer.Ready ⟨tableOf options Form.all, fallback⟩ session)
    (state_eq : session.state = initialState) (rest_eq : session.cursor.rest = char :: more)
    (figure : Unicode.isAsciiDigit char = true) :
    Lexer.Emits ⟨tableOf options Form.all, fallback⟩ session (numberAt session.cursor.rest).1
      (numberAt session.cursor.rest).2 initialState := by
  have something : session.cursor.rest.takeWhile Unicode.isAsciiDigit ≠ [] := by
    rw [rest_eq, List.takeWhile_cons_of_pos figure]
    exact List.cons_ne_nil _ _
  by_cases marked : ['0', 'x'] <+: session.cursor.rest ∧
      (session.cursor.rest.drop 2).takeWhile isHexDigit ≠ []
  · rw [numberAt, if_pos marked]
    obtain ⟨⟨digits, digits_eq⟩, hexadecimal⟩ := marked
    rw [← digits_eq] at hexadecimal ⊢
    change Lexer.Emits _ session .integer (['0', 'x'] ++ digits.takeWhile isHexDigit) initialState
    refine emits_integer ready state_eq rest_eq figure ?_ ?_ (Form.prefers_hexadecimal hexadecimal)
    · rw [← digits_eq]
      exact nofun
    · rw [← digits_eq, List.append_assoc, List.takeWhile_append_dropWhile]
  · rw [numberAt, if_neg marked]
    split
    · rename_i pointed
      obtain ⟨behind, pointed⟩ := List.head?_eq_some_iff.mp pointed
      obtain ⟨following, text_eq, prefers⟩ :=
        Form.exists_prefers_real session.cursor.passed.head? something pointed
      rw [pointed]
      exact emits_real ready state_eq rest_eq figure text_eq prefers
    · rename_i unpointed
      exact emits_integer ready state_eq rest_eq figure unpointed
        List.takeWhile_append_dropWhile.symm (Form.prefers_decimal something marked)

end

/-- Whatever the options, the fallback and the history of a lexer: where it looks for a token outside
block comments and a digit comes next, it hands out the number that stands there, and the fallback is
not asked. -/
theorem emits_numberAt (options : Options) :
    ∃ table, rules options = .ok table ∧
      ∀ (σ : Type) (fallback : Fallback σ (Token Category)) (session : Session σ (Token Category))
          (char : Char) (more : Text),
        let lexer : Lexer σ (Token Category) := ⟨table, fallback⟩
        lexer.Visits session → session.pending = [] → session.state = initialState →
        session.cursor.rest = char :: more → Unicode.isAsciiDigit char = true →
        lexer.Emits session (numberAt session.cursor.rest).1 (numberAt session.cursor.rest).2
          initialState := by
  refine ⟨tableOf options Form.all, rules_eq_map options, ?_⟩
  intro σ fallback session char more lexer visited pending_eq state_eq rest_eq figure
  have ready : lexer.Ready session :=
    visited.ready (decisive_tableOf options) pending_eq (rest_eq ▸ List.cons_ne_nil _ _)
  exact emits_of_digit ready state_eq rest_eq figure

/-- A point behind a hexadecimal integer is not part of it. -/
theorem emits_numberAt_hexadecimal :
    ∃ table, rules {} = .ok table ∧
      let lexer : Lexer Unit (Token Category) := ⟨table, Fallback.fail⟩
      lexer.Emits (lexer.start "0x1f.5".toList ()) .integer "0x1f".toList initialState := by
  obtain ⟨table, built, emits⟩ := emits_numberAt {}
  exact ⟨table, built, emits Unit Fallback.fail _ '0' _ (.between _ () []) rfl rfl rfl (by decide)⟩

end Munch.NewtonScript
