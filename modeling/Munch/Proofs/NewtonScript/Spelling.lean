import Munch.Proofs.NewtonScript.Forms

/-!
# How lexemes are spelled

The form of a lexeme can be read off its spelling, mostly off its first character: `Form.ofText`
does so.  Only a reserved word is spelled like a lexeme of another form, a symbol.

Outside block comments a lexeme starts with a blank or with a character of ASCII, although others
may be part of it (`Form.isBlank_or_isAscii_of_accepts`).
-/

namespace Munch

/-! ## Characters -/

namespace Unicode

variable {char : Char}

/-- A property of ASCII characters can be found out by trying all of them. -/
theorem of_isAscii (property : Char → Bool)
    (checked : ∀ code < 128, property (Char.ofNat code) = true) (ascii : isAscii char = true) :
    property char = true := by
  rw [← Char.ofNat_toNat char]
  exact checked char.toNat (of_decide_eq_true ascii)

theorem isAscii_of_isAsciiWord (inside : isAsciiWord char = true) : isAscii char = true := by
  have below : char ≤ 'z' := by
    simp only [isAsciiWord, isAsciiLetter, isAsciiDigit, Bool.or_eq_true, Bool.and_eq_true,
      decide_eq_true_eq, beq_iff_eq] at inside
    rcases inside with ((⟨_, below⟩ | ⟨_, below⟩) | ⟨_, below⟩) | rfl
    · exact below
    · exact Char.le_trans below (by decide)
    · exact Char.le_trans below (by decide)
    · decide
  rw [Char.le_def, UInt32.le_iff_toNat_le] at below
  exact decide_eq_true (Nat.lt_of_le_of_lt below (by decide))

/-- No character of words is blank. -/
theorem isBlank_of_isWord (inside : isWord char = true) : isBlank char = false := by
  cases ascii : isAscii char with
  | true =>
      have apart : (!(isWord char && isBlank char)) = true :=
        of_isAscii (fun char => !(isWord char && isBlank char)) (by decide) ascii
      simpa [inside] using apart
  | false =>
      have checked : ∀ range ∈ blankRanges, ∀ step ≤ range.2 - range.1,
          isWord (Char.ofNat (range.1 + step)) = false := by
        decide +kernel
      cases blank : isBlank char with
      | false => rfl
      | true =>
          simp only [isBlank, ascii, Bool.false_eq_true, if_false, inRanges, List.any_eq_true,
            Bool.and_eq_true, decide_eq_true_eq] at blank
          obtain ⟨range, member, above, below⟩ := blank
          have outside := checked range member (char.toNat - range.1) (by omega)
          rw [Nat.add_sub_cancel' above, Char.ofNat_toNat, inside] at outside
          cases outside

theorem isWord_of_isAsciiWord (inside : isAsciiWord char = true) : isWord char = true := by
  rw [isWord, if_pos (isAscii_of_isAsciiWord inside)]
  exact inside

theorem isBlank_of_isAsciiWord (inside : isAsciiWord char = true) : isBlank char = false :=
  isBlank_of_isWord (isWord_of_isAsciiWord inside)

theorem isAsciiWord_of_isAsciiDigit (inside : isAsciiDigit char = true) :
    isAsciiWord char = true := by
  simp [isAsciiWord, inside]

end Unicode

namespace NewtonScript.Form

open Regex

variable {char : Char} {last : Option Char} {text rest : Text}

@[simp]
theorem contains_digit : digit.contains char = true ↔ Unicode.isAsciiDigit char = true := by
  simp [digit, CharClass.contains, Unicode.isAsciiDigit]

@[simp]
theorem contains_letter :
    letter.contains char = true ↔ Unicode.isAsciiLetter char = true ∨ char = '_' := by
  simp [letter, CharClass.contains, Unicode.isAsciiLetter, or_assoc]

@[simp]
theorem contains_wordSign : wordSign.contains char = true ↔ Unicode.isAsciiWord char = true := by
  simp [wordSign, CharClass.contains, Unicode.isAsciiWord, Unicode.isAsciiLetter,
    Unicode.isAsciiDigit, or_assoc]

/-! ## The form of a text -/

/-- The form that a text outside block comments is spelled in. -/
def ofText : Text → Form
  | [] => operator
  | first :: others =>
      if Unicode.isBlank first then whiteSpace
      else if Unicode.isAsciiDigit first then if '.' ∈ others then real else integer
      else if Unicode.isAsciiWord first || first == '|' then symbol
      else if first = '$' then character
      else if first = '"' then string
      else if first ∈ delimiterSigns then delimiter
      else if first = '/' ∧ others.head? = some '/' then lineComment
      else if first = '/' ∧ others.head? = some '*' then commentOpen
      else operator

/-- The form that lexemes of a form are spelled in: reserved words are spelled like symbols. -/
def appearance : Form → Form
  | reservedWord => symbol
  | form => form

theorem eq_of_appearance_eq {form kind : Form} (same : form.appearance = kind)
    (other : kind ≠ symbol) : form = kind := by
  cases form with
  | reservedWord => exact absurd same.symm other
  | _ => exact same

theorem eq_of_appearance_eq_symbol {form : Form} (same : form.appearance = symbol) :
    form = reservedWord ∨ form = symbol := by
  cases form with
  | reservedWord => exact .inl rfl
  | symbol => exact .inr rfl
  | _ => cases same

theorem ofText_of_digit {others : Text} (inside : Unicode.isAsciiDigit char = true) :
    ofText (char :: others) = if '.' ∈ others then real else integer := by
  have plain := Unicode.isBlank_of_isAsciiWord (Unicode.isAsciiWord_of_isAsciiDigit inside)
  simp [ofText, plain, inside]

theorem ofText_of_letter {others : Text} (inside : letter.contains char = true) :
    ofText (char :: others) = symbol := by
  have word : Unicode.isAsciiWord char = true := by
    rcases contains_letter.mp inside with inside | rfl
    · simp [Unicode.isAsciiWord, inside]
    · decide
  have figure : Unicode.isAsciiDigit char = false := by
    have apart : (!(Unicode.isAsciiDigit char && letter.contains char)) = true :=
      Unicode.of_isAscii (fun char => !(Unicode.isAsciiDigit char && letter.contains char))
        (by decide) (Unicode.isAscii_of_isAsciiWord word)
    simpa [-contains_letter, inside] using apart
  simp [ofText, Unicode.isBlank_of_isAsciiWord word, figure, word]

/-- The text is one of the reserved words. -/
def Reserved (text : Text) : Prop :=
  ∃ spelling ∈ reservedWords, text = spelling.toList

theorem Reserved.isAsciiLetter_of_mem (reserved : Reserved text) (member : char ∈ text) :
    Unicode.isAsciiLetter char = true := by
  obtain ⟨spelling, among, rfl⟩ := reserved
  have checked : ∀ spelling ∈ reservedWords,
      spelling.toList.all Unicode.isAsciiLetter = true := by
    decide +kernel
  exact List.all_eq_true.mp (checked spelling among) char member

/-- A reserved word ends where no character of words follows. -/
theorem accepts_reservedWord :
    reservedWord.regex.Accepts last text rest ↔
      Reserved text ∧ rest.head?.any Unicode.isWord = false := by
  -- behind a reserved word stands a character of words, so a boundary says that none follows
  have boundary : ∀ {text : Text}, Reserved text →
      ((look (.word .boundary .word)).Accepts (behind last text) [] rest ↔
        rest.head?.any Unicode.isWord = false) := by
    intro text reserved
    have ends : (behind last text).any Unicode.isWord = true := by
      unfold behind
      cases last_eq : text.getLast? with
      | none =>
          obtain ⟨spelling, member, rfl⟩ := reserved
          have checked : ∀ spelling ∈ reservedWords, spelling.toList ≠ [] := by decide +kernel
          exact absurd (List.getLast?_eq_none_iff.mp last_eq) (checked spelling member)
      | some char =>
          have letter := reserved.isAsciiLetter_of_mem (List.mem_of_getLast? last_eq)
          exact Unicode.isWord_of_isAsciiWord (by simp [Unicode.isAsciiWord, letter])
    simp [Accepts, Look.holds, WordEdge.holds, Property.holds, ends]
  have chosen_iff : ∀ {last text rest},
      (choice (reservedWords.map fun spelling => word spelling.toList)).Accepts last text rest ↔
        Reserved text := by
    intro last text rest
    simp only [accepts_choice, List.mem_map, exists_exists_and_eq_and, accepts_word, Reserved]
  constructor
  · rintro ⟨front, back, rfl, chosen, looked⟩
    have reserved := chosen_iff.mp chosen
    obtain ⟨_, rfl⟩ := id looked
    rw [List.append_nil]
    exact ⟨reserved, (boundary reserved).mp looked⟩
  · rintro ⟨reserved, stops⟩
    exact ⟨text, [], by simp, chosen_iff.mpr reserved, (boundary reserved).mpr stops⟩

theorem ofText_of_reservedWord (accepted : reservedWord.regex.Accepts last text rest) :
    ofText text = symbol := by
  obtain ⟨⟨spelling, member, rfl⟩, _⟩ := accepts_reservedWord.mp accepted
  have checked : ∀ spelling ∈ reservedWords, ofText spelling.toList = symbol := by
    decide +kernel
  exact checked spelling member

/-- A real has digits and a point, whatever else. -/
theorem exists_digits_of_real (accepted : real.regex.Accepts last text rest) :
    ∃ first others more, text = first :: others ++ '.' :: more ∧
      Unicode.isAsciiDigit first = true := by
  obtain ⟨_, exponent, rfl, ⟨_, fraction, rfl, ⟨digits, _, rfl, whole, point⟩, _⟩, _⟩ := accepted
  obtain ⟨something, inside⟩ := accepts_run.mp whole
  obtain rfl := accepts_sign.mp point
  obtain ⟨first, others, rfl⟩ := List.exists_cons_of_ne_nil something
  refine ⟨first, others, fraction ++ exponent, by simp, ?_⟩
  exact contains_digit.mp (inside first List.mem_cons_self)

theorem ofText_of_real (accepted : real.regex.Accepts last text rest) : ofText text = real := by
  obtain ⟨first, others, more, rfl, figure⟩ := exists_digits_of_real accepted
  rw [List.cons_append, ofText_of_digit figure]
  simp

theorem ofText_of_integer (accepted : integer.regex.Accepts last text rest) :
    ofText text = integer := by
  have free : '.' ∉ text := not_mem_of_accepts (by decide) accepted
  obtain ⟨first, others, rfl, figure⟩ :
      ∃ first others, text = first :: others ∧ Unicode.isAsciiDigit first = true := by
    rcases accepted with ⟨front, digits, rfl, marked, _⟩ | plain
    · obtain rfl := accepts_word.mp marked
      exact ⟨'0', 'x' :: digits, rfl, by decide⟩
    · obtain ⟨something, inside⟩ := accepts_run.mp plain
      obtain ⟨first, others, rfl⟩ := List.exists_cons_of_ne_nil something
      exact ⟨first, others, rfl, contains_digit.mp (inside first List.mem_cons_self)⟩
  rw [ofText_of_digit figure, if_neg (List.not_mem_of_not_mem_cons free)]

theorem ofText_of_character (accepted : character.regex.Accepts last text rest) :
    ofText text = character := by
  obtain ⟨_, others, rfl, first, _⟩ := accepted
  obtain rfl := accepts_sign.mp first
  rfl

theorem ofText_of_string (accepted : string.regex.Accepts last text rest) :
    ofText text = string := by
  obtain ⟨_, _, rfl, ⟨_, _, rfl, ⟨_, _, rfl, first, _⟩, _⟩, _⟩ := accepted
  obtain rfl := accepts_sign.mp first
  rfl

theorem exists_letter_of_identifier (accepted : identifier.Accepts last text rest) :
    ∃ first others, text = first :: others ∧ letter.contains first = true := by
  obtain ⟨_, others, rfl, ⟨first, inside, rfl⟩, _⟩ := accepted
  exact ⟨first, others, rfl, inside⟩

theorem exists_bar_of_barred (accepted : barred.Accepts last text rest) :
    ∃ others, text = '|' :: others := by
  obtain ⟨_, _, rfl, ⟨_, _, rfl, first, _⟩, _⟩ := accepted
  obtain rfl := accepts_sign.mp first
  exact ⟨_, rfl⟩

theorem ofText_of_symbol (accepted : symbol.regex.Accepts last text rest) :
    ofText text = symbol := by
  rcases accepted with accepted | accepted
  · obtain ⟨first, others, rfl, inside⟩ := exists_letter_of_identifier accepted
    exact ofText_of_letter inside
  · obtain ⟨others, rfl⟩ := exists_bar_of_barred accepted
    rfl

theorem mem_of_operator (accepted : operator.regex.Accepts last text rest) :
    text ∈ operatorPairs ++ operatorSigns.map fun sign => [sign] := by
  simp only [regex, accepts_choice, List.mem_append, List.mem_map, List.mem_singleton] at accepted
  rw [List.mem_append]
  obtain ⟨chosen, ⟨spelling, member, rfl⟩ | rfl, accepted⟩ := accepted
  · rw [accepts_word] at accepted
    exact .inl (accepted ▸ member)
  · obtain ⟨sign, inside, rfl⟩ := accepted
    exact .inr (List.mem_map.mpr ⟨sign, CharClass.contains_signs.mp inside, rfl⟩)

theorem ofText_of_operator (accepted : operator.regex.Accepts last text rest) :
    ofText text = operator := by
  have checked : ∀ text ∈ operatorPairs ++ operatorSigns.map fun sign => [sign],
      ofText text = operator := by
    decide
  exact checked text (mem_of_operator accepted)

theorem ofText_of_delimiter (accepted : delimiter.regex.Accepts last text rest) :
    ofText text = delimiter := by
  obtain ⟨sign, inside, rfl⟩ := accepted
  have checked : (delimiterSigns.all fun sign => ofText [sign] = delimiter) = true := by
    decide
  exact of_decide_eq_true (List.all_eq_true.mp checked sign (CharClass.contains_signs.mp inside))

theorem ofText_of_whiteSpace (accepted : whiteSpace.regex.Accepts last text rest) :
    ofText text = whiteSpace := by
  obtain ⟨something, inside⟩ := accepts_run.mp accepted
  obtain ⟨first, others, rfl⟩ := List.exists_cons_of_ne_nil something
  exact if_pos (inside first List.mem_cons_self)

theorem ofText_of_lineComment (accepted : lineComment.regex.Accepts last text rest) :
    ofText text = lineComment := by
  obtain ⟨_, others, rfl, opening, _⟩ := accepted
  obtain rfl := accepts_word.mp opening
  rfl

theorem ofText_of_commentOpen (accepted : commentOpen.regex.Accepts last text rest) :
    ofText text = commentOpen := by
  rw [regex, accepts_word] at accepted
  subst accepted
  rfl

/-- Outside block comments, the form of a lexeme can be read off its spelling, up to reserved words,
which are spelled like symbols. -/
theorem ofText_of_accepts {form : Form} (code : form.isComment = false)
    (accepted : form.regex.Accepts last text rest) : ofText text = form.appearance := by
  cases form with
  | reservedWord => exact ofText_of_reservedWord accepted
  | real => exact ofText_of_real accepted
  | integer => exact ofText_of_integer accepted
  | character => exact ofText_of_character accepted
  | string => exact ofText_of_string accepted
  | symbol => exact ofText_of_symbol accepted
  | operator => exact ofText_of_operator accepted
  | delimiter => exact ofText_of_delimiter accepted
  | whiteSpace => exact ofText_of_whiteSpace accepted
  | lineComment => exact ofText_of_lineComment accepted
  | commentOpen => exact ofText_of_commentOpen accepted
  | commentBody => contradiction
  | commentClose => contradiction

/-- Outside block comments, what starts with a blank is white space. -/
theorem eq_whiteSpace_of_isBlank {form : Form} (code : form.isComment = false) {others : Text}
    (accepted : form.regex.Accepts last (char :: others) rest)
    (blank : Unicode.isBlank char = true) : form = whiteSpace := by
  have spelled : ofText (char :: others) = whiteSpace := if_pos blank
  exact eq_of_appearance_eq ((ofText_of_accepts code accepted).symm.trans spelled) (by decide)

/-- Outside block comments, a lexeme starts with a blank or with a character of ASCII. -/
theorem isBlank_or_isAscii_of_accepts {form : Form} (code : form.isComment = false)
    {others : Text} (accepted : form.regex.Accepts last (char :: others) rest) :
    Unicode.isBlank char = true ∨ Unicode.isAscii char = true := by
  apply Decidable.byContradiction
  intro neither
  obtain ⟨plain, foreign⟩ := not_or.mp neither
  have word : Unicode.isAsciiWord char = false :=
    Bool.eq_false_iff.mpr fun inside => foreign (Unicode.isAscii_of_isAsciiWord inside)
  have figure : Unicode.isAsciiDigit char = false :=
    Bool.eq_false_iff.mpr fun inside =>
      absurd (Unicode.isAsciiWord_of_isAsciiDigit inside) (by simp [word])
  have sign : char ∉ '|' :: '$' :: '"' :: '/' :: delimiterSigns := by
    have checked : ('|' :: '$' :: '"' :: '/' :: delimiterSigns).all Unicode.isAscii = true := by
      decide
    exact fun member => foreign (List.all_eq_true.mp checked char member)
  simp only [List.mem_cons, not_or] at sign
  -- such a text would be spelled like an operator, but operators are made of signs of ASCII
  have spelled : ofText (char :: others) = operator := by
    simp [ofText, plain, figure, word, sign]
  have appears : form.appearance = operator := (ofText_of_accepts code accepted).symm.trans spelled
  obtain rfl : form = operator := eq_of_appearance_eq appears (by decide)
  have checked : ∀ text ∈ operatorPairs ++ operatorSigns.map fun sign => [sign],
      text.all Unicode.isAscii = true := by
    decide
  have ascii := checked _ (mem_of_operator accepted)
  exact foreign (List.all_eq_true.mp ascii char List.mem_cons_self)

/-- What closes a block comment is never part of its body. -/
theorem not_commentBody_of_commentClose {other : Option Char} {following : Text}
    (closing : commentClose.regex.Accepts last text rest) :
    ¬ commentBody.regex.Accepts other text following := by
  obtain ⟨stars, _, rfl, run, slash⟩ := closing
  obtain ⟨something, inside⟩ := accepts_run.mp run
  obtain rfl := accepts_sign.mp slash
  have signs : ∀ char ∈ stars ++ ['/'], char = '*' ∨ char = '/' := by
    intro char member
    rcases List.mem_append.mp member with member | member
    · exact .inl (CharClass.contains_single.mp (inside char member))
    · exact .inr (List.mem_singleton.mp member)
  rintro (rounds | run)
  · obtain ⟨front, back, text_eq, first⟩ := rounds.exists_first
    rcases first with ⟨char, plain, rfl⟩ | ⟨_, _, rfl, _, char, plain, rfl⟩
    · -- the first character is a star
      obtain ⟨star, others, rfl⟩ := List.exists_cons_of_ne_nil something
      obtain ⟨rfl, _⟩ := List.cons.inj text_eq
      simp [CharClass.contains_single.mp (inside star List.mem_cons_self)] at plain
    · have member : char ∈ stars ++ ['/'] := by
        rw [text_eq]
        simp
      rcases signs char member with rfl | rfl
      · simp at plain
      · simp at plain
  · have slash := (accepts_run.mp run).2 '/' (by simp)
    simp at slash

/-- Of two forms that are read in the same state, none has a lexeme of the other, except that a
reserved word is spelled like a symbol. -/
theorem appearance_eq_of_accepts {form kind : Form} (state_eq : form.state = kind.state)
    {other : Option Char} {following : Text} (accepted : form.regex.Accepts last text rest)
    (alsoAccepted : kind.regex.Accepts other text following) :
    form.appearance = kind.appearance := by
  cases code : form.isComment with
  | false =>
      have kindCode : kind.isComment = false := by
        cases kindCode : kind.isComment with
        | false => rfl
        | true => simp [state, code, kindCode, initialState, commentState] at state_eq
      rw [← ofText_of_accepts code accepted, ofText_of_accepts kindCode alsoAccepted]
  | true =>
      cases form with
      | commentBody =>
          cases kind with
          | commentBody => rfl
          | commentClose => exact absurd accepted (not_commentBody_of_commentClose alsoAccepted)
          | _ => contradiction
      | commentClose =>
          cases kind with
          | commentBody => exact absurd alsoAccepted (not_commentBody_of_commentClose accepted)
          | commentClose => rfl
          | _ => contradiction
      | _ => contradiction

end NewtonScript.Form

end Munch
