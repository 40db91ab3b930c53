import Munch.Proofs.NewtonScript.Starts

/-!
# A scanner for literals

Strings, symbols between bars and characters start with a sign of their own.  `Literal.Language` is
their grammar, and `Literal.scan` a scanner that goes through a text once and never goes back.  It
finds the one beginning of the text that belongs to the language, if there is any
(`Literal.scan_eq_some_iff`).

What carries this is `Literal.Remains`, the texts that can still complete a literal when the scanner
is in a mode.
-/

namespace Munch.NewtonScript

/-! ## The grammar -/

/-- The literals with an opening sign. -/
inductive Literal where
  | string
  | barred
  | character
  deriving DecidableEq

namespace Literal

/-- The sign that a literal starts with. -/
def opening : Literal → Char
  | string => '"'
  | barred => '|'
  | character => '$'

/-- The category of the tokens. -/
def category : Literal → Category
  | string => .string
  | barred => .symbol
  | character => .character

/-- Whether a literal goes on up to the sign that it starts with. -/
def isPaired : Literal → Bool
  | character => false
  | _ => true

/-- What may stand behind a backslash, besides numbers of characters. -/
def escapes : Literal → List Char
  | string => ['"', '\\', 'n', 't']
  | barred => ['|', '\\']
  | character => ['n', 't', '\\']

/-- Groups of four hexadecimal digits. -/
def HexGroups (digits : Text) : Prop :=
  4 ∣ digits.length ∧ ∀ char ∈ digits, isHexDigit char = true

/-- What stands behind the opening sign. -/
inductive Rest : Literal → Text → Prop
  | close {literal : Literal} {char : Char} (paired : literal.isPaired = true)
      (closing : char = literal.opening) : Rest literal [char]
  | plain {literal : Literal} {char : Char} {text : Text} (paired : literal.isPaired = true)
      (other : char ≠ literal.opening) (unescaped : char ≠ '\\') (rest : Rest literal text) :
      Rest literal (char :: text)
  | escape {literal : Literal} {char : Char} {text : Text} (paired : literal.isPaired = true)
      (listed : char ∈ literal.escapes) (rest : Rest literal text) :
      Rest literal ('\\' :: char :: text)
  /-- Characters by number. -/
  | block {digits text : Text} (groups : HexGroups digits) (rest : Rest string text) :
      Rest string ('\\' :: 'u' :: (digits ++ '\\' :: 'u' :: text))
  /-- Characters by number at the end. -/
  | lastBlock {digits : Text} (groups : HexGroups digits) :
      Rest string ('\\' :: 'u' :: (digits ++ ['"']))
  | single {char : Char} (unescaped : char ≠ '\\') (visible : Unicode.isBlank char = false) :
      Rest character [char]
  | singleEscape {char : Char} (listed : char ∈ character.escapes) : Rest character ['\\', char]
  /-- A character by its number, of four digits behind a mark or of two without. -/
  | number {digits : Text} (marked : digits.length = 4)
      (inside : ∀ char ∈ digits, isHexDigit char = true) :
      Rest character ('\\' :: 'u' :: digits)
  | shortNumber {digits : Text} (unmarked : digits.length = 2)
      (inside : ∀ char ∈ digits, isHexDigit char = true) : Rest character ('\\' :: digits)

/-- The texts of a literal. -/
def Language (literal : Literal) (text : Text) : Prop :=
  ∃ rest, text = literal.opening :: rest ∧ literal.Rest rest

/-! ## The scanner -/

/-- What a scanner knows of the text before its place. -/
inductive Mode where
  /-- Behind the opening sign, or behind a whole part. -/
  | plain
  /-- Behind a backslash. -/
  | escaped
  /-- Among the digits of characters by number, behind so many of a group. -/
  | block (count : Fin 4)
  /-- Behind a backslash that ends them. -/
  | blockEscaped
  /-- In front of a digit with so many behind it. -/
  | digits (more : Nat)

/-- What a scanner makes of the next character. -/
inductive Verdict where
  | goOn (mode : Mode)
  | accept
  | refuse

/-- A step behind a backslash: a number may follow. -/
def stepNumber : Literal → Char → Verdict
  | string, char => if char = 'u' then .goOn (.block 0) else .refuse
  | barred, _ => .refuse
  | character, char =>
      if char = 'u' then .goOn (.digits 3)
      else if isHexDigit char then .goOn (.digits 0)
      else .refuse

/-- One step of the scanner of a literal. -/
def step (literal : Literal) : Mode → Char → Verdict
  | .plain, char =>
      if char = '\\' then .goOn .escaped
      else if literal.isPaired then
        if char = literal.opening then .accept else .goOn .plain
      else if Unicode.isBlank char then .refuse
      else .accept
  | .escaped, char =>
      if char ∈ literal.escapes then
        if literal.isPaired then .goOn .plain else .accept
      else literal.stepNumber char
  | .block count, char =>
      if isHexDigit char then .goOn (.block (count + 1))
      else if count = 0 ∧ char = literal.opening then .accept
      else if count = 0 ∧ char = '\\' then .goOn .blockEscaped
      else .refuse
  | .blockEscaped, char => if char = 'u' then .goOn .plain else .refuse
  | .digits 0, char => if isHexDigit char then .accept else .refuse
  | .digits (more + 1), char => if isHexDigit char then .goOn (.digits more) else .refuse

/-- Go on from a mode, up to the first verdict. -/
def scanFrom (literal : Literal) : Mode → Text → Option Text
  | _, [] => none
  | mode, char :: text =>
      match literal.step mode char with
      | .goOn next => (literal.scanFrom next text).map (char :: ·)
      | .accept => some [char]
      | .refuse => none

/-- The literal at the start of a text. -/
def scan (literal : Literal) : Text → Option Text
  | [] => none
  | char :: text =>
      if char = literal.opening then (literal.scanFrom .plain text).map (char :: ·) else none

example : string.scan "\"a\\u00e9\\u\\\"\\u0041\" b\"".toList =
    some "\"a\\u00e9\\u\\\"\\u0041\"".toList ∧
    barred.scan "|a\\|b| c|".toList = some "|a\\|b|".toList ∧
    character.scan "$\\u004".toList = none := by
  decide

/-! ## The scanner follows the grammar -/

/-- The texts that complete a literal from a mode. -/
def Remains (literal : Literal) : Mode → Text → Prop
  | .plain, text => literal.Rest text
  | .escaped, text => literal.Rest ('\\' :: text)
  | .block count, text => ∃ digits, 4 ∣ count.val + digits.length ∧
      (∀ char ∈ digits, isHexDigit char = true) ∧
      (text = digits ++ [literal.opening] ∨
        ∃ more, text = digits ++ '\\' :: 'u' :: more ∧ literal.Rest more)
  | .blockEscaped, text => ∃ more, text = 'u' :: more ∧ literal.Rest more
  | .digits more, text => text.length = more + 1 ∧ ∀ char ∈ text, isHexDigit char = true

/-- The texts that complete a literal behind a verdict. -/
def Leaves (literal : Literal) : Verdict → Text → Prop
  | .goOn mode, text => literal.Remains mode text
  | .accept, text => text = []
  | .refuse, _ => False

variable {literal : Literal} {mode : Mode} {char : Char} {text lexeme : Text}

theorem rest_cons_iff :
    literal.Rest (char :: text) ↔ literal.Leaves (literal.step .plain char) text := by
  rw [step]
  split
  · rename_i escaping
    rw [escaping]
    rfl
  · rename_i unescaped
    constructor
    · intro rest
      cases rest with
      | close paired closing =>
          rw [if_pos paired, if_pos closing]
          rfl
      | plain paired other _ rest =>
          rw [if_pos paired, if_neg other]
          exact rest
      | single _ visible =>
          rw [if_neg nofun, visible]
          rfl
      | _ => exact absurd rfl unescaped
    · split
      · rename_i paired
        split
        · rintro rfl
          rename_i closing
          exact .close paired closing
        · rename_i other
          exact .plain paired other unescaped
      · rename_i unpaired
        split
        · exact False.elim
        · rintro rfl
          rename_i visible
          cases literal with
          | character => exact .single unescaped (Bool.eq_false_iff.mpr visible)
          | _ => exact absurd rfl unpaired

/-- Characters by number are a part of a string, or the last one. -/
theorem rest_block_iff :
    string.Rest ('\\' :: 'u' :: text) ↔ string.Remains (.block 0) text := by
  constructor
  · intro rest
    cases rest with
    | plain _ _ unescaped _ => exact absurd rfl unescaped
    | escape _ listed _ => contradiction
    | block groups rest =>
        exact ⟨_, by simpa using groups.1, groups.2, .inr ⟨_, rfl, rest⟩⟩
    | lastBlock groups => exact ⟨_, by simpa using groups.1, groups.2, .inl rfl⟩
  · rintro ⟨digits, divides, inside, rfl | ⟨more, rfl, rest⟩⟩
    · exact .lastBlock ⟨by simpa using divides, inside⟩
    · exact .block ⟨by simpa using divides, inside⟩ rest

theorem rest_number_iff (unlisted : char ∉ literal.escapes) :
    literal.Rest ('\\' :: char :: text) ↔ literal.Leaves (literal.stepNumber char) text := by
  constructor
  · intro rest
    cases rest with
    | plain _ _ unescaped _ => exact absurd rfl unescaped
    | escape _ listed _ => exact absurd listed unlisted
    | singleEscape listed => exact absurd listed unlisted
    | block groups rest => exact rest_block_iff.mp (.block groups rest)
    | lastBlock groups => exact rest_block_iff.mp (.lastBlock groups)
    | number marked inside => exact ⟨marked, inside⟩
    | shortNumber unmarked inside =>
        obtain ⟨figure, inside⟩ := List.forall_mem_cons.mp inside
        have other : char ≠ 'u' := by
          rintro rfl
          contradiction
        rw [stepNumber, if_neg other, if_pos figure]
        exact ⟨Nat.succ.inj unmarked, inside⟩
  · cases literal with
    | string =>
        rw [stepNumber]
        split
        · rename_i numbered
          rw [numbered]
          exact rest_block_iff.mpr
        · exact False.elim
    | barred => exact False.elim
    | character =>
        rw [stepNumber]
        split
        · rename_i numbered
          rw [numbered]
          exact fun digits => .number digits.1 digits.2
        · split
          · rename_i figure
            intro digits
            exact .shortNumber (congrArg Nat.succ digits.1)
              (List.forall_mem_cons.mpr ⟨figure, digits.2⟩)
          · exact False.elim

theorem rest_escape_iff :
    literal.Rest ('\\' :: char :: text) ↔ literal.Leaves (literal.step .escaped char) text := by
  rw [step]
  split
  · rename_i listed
    constructor
    · intro rest
      cases rest with
      | escape paired _ rest =>
          rw [if_pos paired]
          exact rest
      | singleEscape _ => rfl
      | plain _ _ unescaped _ => exact absurd rfl unescaped
      | block _ _ => exact absurd listed (by decide)
      | lastBlock _ => exact absurd listed (by decide)
      | number _ _ => exact absurd listed (by decide)
      | shortNumber _ inside =>
          have checked : character.escapes.all (fun char => !isHexDigit char) = true := by decide
          have other := List.all_eq_true.mp checked char listed
          rw [inside char List.mem_cons_self] at other
          cases other
    · split
      · rename_i paired
        exact .escape paired listed
      · rintro rfl
        rename_i unpaired
        cases literal with
        | character => exact .singleEscape listed
        | _ => exact absurd rfl unpaired
  · rename_i unlisted
    exact rest_number_iff unlisted

/-- The sign that closes characters by number is no digit. -/
theorem isHexDigit_opening (literal : Literal) : isHexDigit literal.opening = false := by
  cases literal <;> decide

theorem remains_block_iff {count : Fin 4} :
    literal.Remains (.block count) (char :: text) ↔
      literal.Leaves (literal.step (.block count) char) text := by
  have carried : ∀ length, 4 ∣ (count + 1).val + length ↔ 4 ∣ count.val + (length + 1) := by
    intro length
    rw [Fin.val_add]
    omega
  rw [step]
  constructor
  · rintro ⟨_ | ⟨digit, digits⟩, divides, inside, ended⟩
    · -- behind whole groups, the literal or the block comes to its end
      obtain rfl : count = 0 := by
        rw [List.length_nil, Nat.add_zero] at divides
        omega
      rcases ended with ended | ⟨more, ended, rest⟩
      · obtain ⟨rfl, rfl⟩ := List.cons.inj ended
        rw [isHexDigit_opening]
        simp [Leaves]
      · obtain ⟨rfl, rfl⟩ := List.cons.inj ended
        have other : '\\' ≠ literal.opening := by cases literal <;> decide
        have figure : isHexDigit '\\' = false := by decide
        simp [figure, other, Leaves, Remains, rest]
    · obtain ⟨figure, inside⟩ := List.forall_mem_cons.mp inside
      have char_eq : char = digit := by
        rcases ended with ended | ⟨more, ended, _⟩
        · exact (List.cons.inj ended).1
        · exact (List.cons.inj ended).1
      rw [char_eq, if_pos figure]
      refine ⟨digits, (carried digits.length).mpr divides, inside, ?_⟩
      simpa [char_eq] using ended
  · split
    · rename_i figure
      rintro ⟨digits, divides, inside, ended⟩
      refine ⟨char :: digits, (carried digits.length).mp divides,
        List.forall_mem_cons.mpr ⟨figure, inside⟩, ?_⟩
      simpa using ended
    · split
      · rename_i closing
        obtain ⟨rfl, rfl⟩ := closing
        rintro rfl
        exact ⟨[], Nat.dvd_zero 4, by simp, .inl rfl⟩
      · split
        · rename_i ended
          obtain ⟨rfl, rfl⟩ := ended
          rintro ⟨more, rfl, rest⟩
          exact ⟨[], Nat.dvd_zero 4, by simp, .inr ⟨more, rfl, rest⟩⟩
        · exact False.elim

theorem remains_digits_iff {more : Nat} :
    literal.Remains (.digits more) (char :: text) ↔
      literal.Leaves (literal.step (.digits more) char) text := by
  have cons_iff : literal.Remains (.digits more) (char :: text) ↔
      text.length = more ∧ isHexDigit char = true ∧ ∀ char ∈ text, isHexDigit char = true := by
    simp [Remains]
  rw [cons_iff]
  cases more with
  | zero =>
      rw [step]
      split
      · rename_i figure
        simp +contextual [figure, Leaves]
      · rename_i other
        simp [other, Leaves]
  | succ more =>
      rw [step]
      split
      · rename_i figure
        simp [figure, Leaves, Remains]
      · rename_i other
        simp [other, Leaves]

/-- What completes a literal from a mode is a character and what completes it behind the verdict on
that character. -/
theorem remains_cons_iff :
    literal.Remains mode (char :: text) ↔ literal.Leaves (literal.step mode char) text := by
  cases mode with
  | plain => exact rest_cons_iff
  | escaped => exact rest_escape_iff
  | block count => exact remains_block_iff
  | blockEscaped =>
      rw [step]
      split
      · rename_i numbered
        simp [Remains, Leaves, numbered]
      · rename_i other
        simp [Remains, Leaves, other]
  | digits more => exact remains_digits_iff

/-- In no mode is a literal complete. -/
theorem not_remains_nil : ¬ literal.Remains mode [] := by
  intro remains
  cases mode with
  | plain => cases remains
  | escaped =>
      cases remains with
      | close _ closing => cases literal <;> exact absurd closing (by decide)
      | plain _ _ unescaped _ => exact unescaped rfl
      | single unescaped _ => exact unescaped rfl
      | shortNumber unmarked _ => cases unmarked
  | block count =>
      obtain ⟨digits, _, _, ended | ⟨_, ended, _⟩⟩ := remains
      · simp at ended
      · simp at ended
  | blockEscaped =>
      obtain ⟨_, ended, _⟩ := remains
      cases ended
  | digits more => cases remains.1

/-- The scanner finds what completes a literal from its mode, and there is one such text only. -/
theorem scanFrom_eq_some_iff :
    literal.scanFrom mode text = some lexeme ↔ lexeme <+: text ∧ literal.Remains mode lexeme := by
  induction text generalizing mode lexeme with
  | nil =>
      constructor
      · exact nofun
      · rintro ⟨begins, remains⟩
        rw [List.prefix_nil.mp begins] at remains
        exact absurd remains not_remains_nil
  | cons char text ih =>
      constructor
      · intro found
        rw [scanFrom] at found
        split at found
        · rename_i next stepped
          obtain ⟨more, others, rfl⟩ := Option.map_eq_some_iff.mp found
          obtain ⟨begins, remains⟩ := ih.mp others
          refine ⟨List.cons_prefix_cons.mpr ⟨rfl, begins⟩, remains_cons_iff.mpr ?_⟩
          rw [stepped]
          exact remains
        · rename_i stepped
          cases found
          refine ⟨⟨text, rfl⟩, remains_cons_iff.mpr ?_⟩
          rw [stepped]
          rfl
        · cases found
      · rintro ⟨begins, remains⟩
        cases lexeme with
        | nil => exact absurd remains not_remains_nil
        | cons first more =>
            obtain ⟨rfl, others⟩ := List.cons_prefix_cons.mp begins
            have left := remains_cons_iff.mp remains
            rw [scanFrom]
            cases stepped : literal.step mode first with
            | goOn next =>
                rw [stepped] at left
                change (literal.scanFrom next text).map (first :: ·) = _
                rw [ih.mpr ⟨others, left⟩]
                rfl
            | accept =>
                rw [stepped] at left
                rw [show more = [] from left]
            | refuse =>
                rw [stepped] at left
                exact left.elim

/-- The scanner finds the beginning of a text that belongs to the language, and there is one such
beginning only. -/
theorem scan_eq_some_iff :
    literal.scan text = some lexeme ↔ lexeme <+: text ∧ literal.Language lexeme := by
  constructor
  · intro found
    cases text with
    | nil => cases found
    | cons char text =>
        rw [scan] at found
        split at found
        · rename_i opened
          obtain ⟨rest, others, rfl⟩ := Option.map_eq_some_iff.mp found
          obtain ⟨begins, remains⟩ := scanFrom_eq_some_iff.mp others
          exact ⟨List.cons_prefix_cons.mpr ⟨rfl, begins⟩, rest, by rw [opened], remains⟩
        · cases found
  · rintro ⟨begins, rest, rfl, remains⟩
    obtain ⟨behind, rfl⟩ := begins
    have found : literal.scanFrom .plain (rest ++ behind) = some rest :=
      scanFrom_eq_some_iff.mpr ⟨List.prefix_append _ _, remains⟩
    rw [List.cons_append, scan, if_pos rfl, found]
    rfl

end Literal

end Munch.NewtonScript
