import Munch.Proofs.NewtonScript.Scanner

/-!
# Strings, symbols between bars and characters

At the opening sign of a literal, the lexer hands out what the scanner of the literal finds, and
where the scanner finds nothing, the opening sign goes to the fallback (`emits_literal`).

The scanner never goes back, while the expressions of the rules may well do so, most of all the one
of strings: there, characters by number end with the sign they begin with, or with the string.  But
an expression accepts the language of its literal (`Literal.accepts_opening_iff`), and of the
beginnings of a text only one belongs to it.
-/

namespace Munch.NewtonScript

open Regex

/-! ## Expressions -/

namespace Form

variable {last : Option Char} {text rest front back : Text}

theorem accepts_many_append {body : Regex} (first : body.Accepts last front (back ++ rest))
    (others : (many body).Accepts (behind last front) back rest) :
    (many body).Accepts last (front ++ back) rest := by
  rcases others with rounds | rfl
  · exact .inl (.again first rounds)
  · rw [List.append_nil]
    exact .inl (.once first)

theorem accepts_hexQuad :
    hexQuad.Accepts last text rest ↔
      text.length = 4 ∧ ∀ char ∈ text, isHexDigit char = true := by
  simp only [hexQuad, accepts_cat, accepts_oneOf, contains_hexDigit_eq]
  constructor
  · rintro ⟨_, _, rfl, ⟨_, _, rfl, ⟨_, _, rfl, ⟨first, figure, rfl⟩, second, secondFigure, rfl⟩,
      third, thirdFigure, rfl⟩, fourth, fourthFigure, rfl⟩
    simp [figure, secondFigure, thirdFigure, fourthFigure]
  · rintro ⟨length_eq, inside⟩
    obtain ⟨first, second, third, fourth, rfl⟩ := List.length_eq_four.mp length_eq
    simp only [List.forall_mem_cons] at inside
    exact ⟨[first, second, third], [fourth], rfl, ⟨[first, second], [third], rfl,
      ⟨[first], [second], rfl, ⟨first, inside.1, rfl⟩, second, inside.2.1, rfl⟩,
      third, inside.2.2.1, rfl⟩, fourth, inside.2.2.2.1, rfl⟩

theorem accepts_hexQuads :
    (many hexQuad).Accepts last text rest ↔ Literal.HexGroups text := by
  constructor
  · have single : ∀ {last text rest}, hexQuad.Accepts last text rest → Literal.HexGroups text := by
      intro last text rest accepted
      obtain ⟨length_eq, inside⟩ := accepts_hexQuad.mp accepted
      exact ⟨⟨1, length_eq⟩, inside⟩
    have append : ∀ {front back}, Literal.HexGroups front → Literal.HexGroups back →
        Literal.HexGroups (front ++ back) := by
      rintro front back ⟨frontDivides, frontInside⟩ ⟨backDivides, backInside⟩
      refine ⟨?_, List.forall_mem_append.mpr ⟨frontInside, backInside⟩⟩
      rw [List.length_append]
      exact Nat.dvd_add frontDivides backDivides
    rintro (rounds | rfl)
    · exact Rounds.forall_of_append single append rounds
    · exact ⟨Nat.dvd_zero 4, by simp⟩
  · rintro ⟨⟨count, length_eq⟩, inside⟩
    induction count generalizing last text with
    | zero => exact .inr (List.length_eq_zero_iff.mp length_eq)
    | succ count ih =>
        rw [← List.take_append_drop 4 text] at inside ⊢
        obtain ⟨frontInside, backInside⟩ := List.forall_mem_append.mp inside
        refine accepts_many_append (accepts_hexQuad.mpr ⟨?_, frontInside⟩) (ih backInside ?_)
        · rw [List.length_take]
          omega
        · rw [List.length_drop]
          omega

/-! ### Strings and symbols between bars -/

theorem accepts_cat_assoc {first second third : Regex} :
    (cat (cat first second) third).Accepts last text rest ↔
      (cat first (cat second third)).Accepts last text rest := by
  constructor
  · rintro ⟨_, back, rfl, ⟨front, middle, rfl, firstAccepted, secondAccepted⟩, thirdAccepted⟩
    rw [← List.append_assoc] at firstAccepted
    rw [behind_append] at thirdAccepted
    exact ⟨front, middle ++ back, List.append_assoc _ _ _, firstAccepted, middle, back, rfl,
      secondAccepted, thirdAccepted⟩
  · rintro ⟨front, _, rfl, firstAccepted, middle, back, rfl, secondAccepted, thirdAccepted⟩
    rw [List.append_assoc] at firstAccepted
    rw [← behind_append] at thirdAccepted
    exact ⟨front ++ middle, back, (List.append_assoc _ _ _).symm,
      ⟨front, middle, rfl, firstAccepted, secondAccepted⟩, thirdAccepted⟩

/-- One more part may stand in front. -/
theorem accepts_part_append {part tail : Regex} (first : part.Accepts last front (back ++ rest))
    (others : (cat (many part) tail).Accepts (behind last front) back rest) :
    (cat (many part) tail).Accepts last (front ++ back) rest := by
  obtain ⟨parts, ended, rfl, partsAccepted, tailAccepted⟩ := others
  rw [List.append_assoc] at first
  rw [← behind_append] at tailAccepted
  exact ⟨front ++ parts, ended, (List.append_assoc _ _ _).symm,
    accepts_many_append first partsAccepted, tailAccepted⟩

/-- Parts and an ending make up what is behind an opening sign, if each of the parts can stand in
front of it. -/
theorem rest_of_parts {literal : Literal} {part tail : Regex}
    (extends_part : ∀ {last text rest more}, part.Accepts last text rest → literal.Rest more →
      literal.Rest (text ++ more))
    (closes : ∀ {last text rest}, tail.Accepts last text rest → literal.Rest text)
    (accepted : (cat (many part) tail).Accepts last text rest) : literal.Rest text := by
  obtain ⟨parts, ended, rfl, partsAccepted, tailAccepted⟩ := accepted
  have closed := closes tailAccepted
  rcases partsAccepted with rounds | rfl
  · clear tailAccepted
    generalize ended ++ rest = following at rounds
    induction rounds with
    | once only => exact extends_part only closed
    | again first _ ih =>
        rw [List.append_assoc]
        exact extends_part first ih
  · exact closed

/-- A plain character between the signs of a literal, or an escape. -/
def plainPart (literal : Literal) : Regex :=
  alt (oneOf (.outside [literal.opening, '\\']))
    (cat (sign '\\') (oneOf (.signs literal.escapes)))

theorem rest_append_of_plainPart {literal : Literal} {more : Text}
    (paired : literal.isPaired = true) (accepted : (plainPart literal).Accepts last text rest)
    (others : literal.Rest more) : literal.Rest (text ++ more) := by
  rcases accepted with ⟨char, inside, rfl⟩ | ⟨_, _, rfl, first, char, listed, rfl⟩
  · simp only [CharClass.contains_outside, List.mem_cons, not_or] at inside
    exact .plain paired inside.1 inside.2.1 others
  · obtain rfl := accepts_sign.mp first
    exact .escape paired (CharClass.contains_signs.mp listed) others

theorem plainPart_of_plain {literal : Literal} {char : Char} (other : char ≠ literal.opening)
    (unescaped : char ≠ '\\') : (plainPart literal).Accepts last [char] rest :=
  .inl ⟨char, CharClass.contains_outside.mpr (by simpa using ⟨other, unescaped⟩), rfl⟩

theorem plainPart_of_escape {literal : Literal} {char : Char} (listed : char ∈ literal.escapes) :
    (plainPart literal).Accepts last ['\\', char] rest :=
  .inr ⟨['\\'], [char], rfl, accepts_sign.mpr rfl, char, CharClass.contains_signs.mpr listed, rfl⟩

/-- Characters by number as a part of a string. -/
def stringBlock : Regex :=
  cat (cat (cat (word ['\\', 'u']) (many hexQuad)) (sign '\\')) (sign 'u')

theorem accepts_stringPart :
    stringPart.Accepts last text rest ↔
      (plainPart .string).Accepts last text rest ∨ stringBlock.Accepts last text rest :=
  or_assoc.symm

/-- What stands behind the opening quote of a string. -/
def stringRest : Regex :=
  cat (many stringPart) (cat (optional stringTail) (sign '"'))

theorem accepts_string_iff :
    string.regex.Accepts last text rest ↔ (cat (sign '"') stringRest).Accepts last text rest := by
  rw [regex, accepts_cat_assoc, accepts_cat_assoc, stringRest]

theorem rest_of_stringRest (accepted : stringRest.Accepts last text rest) :
    Literal.string.Rest text := by
  refine rest_of_parts ?_ ?_ accepted
  · intro last text rest more partAccepted others
    rcases accepts_stringPart.mp partAccepted with plain |
      ⟨_, _, rfl, ⟨_, _, rfl, ⟨_, digits, rfl, opening, quads⟩, slash⟩, letter⟩
    · exact rest_append_of_plainPart rfl plain others
    · obtain rfl := accepts_word.mp opening
      obtain rfl := accepts_sign.mp slash
      obtain rfl := accepts_sign.mp letter
      simpa using Literal.Rest.block (accepts_hexQuads.mp quads) others
  · rintro last _ rest ⟨tail, _, rfl, ended, closing⟩
    obtain rfl := accepts_sign.mp closing
    rcases ended with ⟨_, digits, rfl, mark, quads⟩ | rfl
    · obtain rfl := accepts_word.mp mark
      exact .lastBlock (accepts_hexQuads.mp quads)
    · exact .close rfl rfl

theorem accepts_stringRest :
    stringRest.Accepts last text rest ↔ Literal.string.Rest text := by
  refine ⟨rest_of_stringRest, fun others => ?_⟩
  generalize kind_eq : Literal.string = literal at others
  induction others generalizing last with
  | close _ closing =>
      cases kind_eq
      obtain rfl := closing
      exact ⟨[], ['"'], rfl, .inr rfl, [], ['"'], rfl, .inr rfl, accepts_sign.mpr rfl⟩
  | plain _ other unescaped _ ih =>
      cases kind_eq
      exact accepts_part_append
        (accepts_stringPart.mpr (.inl (plainPart_of_plain other unescaped))) (ih rfl)
  | escape _ listed _ ih =>
      cases kind_eq
      exact accepts_part_append
        (accepts_stringPart.mpr (.inl (plainPart_of_escape listed))) (ih rfl)
  | @block digits text groups _ ih =>
      have block : stringBlock.Accepts last (['\\', 'u'] ++ digits ++ ['\\'] ++ ['u'])
          (text ++ rest) :=
        ⟨_, _, rfl, ⟨_, _, rfl, ⟨_, _, rfl, accepts_word.mpr rfl, accepts_hexQuads.mpr groups⟩,
          accepts_sign.mpr rfl⟩, accepts_sign.mpr rfl⟩
      have longer := accepts_part_append (accepts_stringPart.mpr (.inr block)) (ih rfl)
      simp only [List.append_assoc, List.cons_append, List.nil_append] at longer
      exact longer
  | @lastBlock digits groups =>
      exact ⟨[], _, rfl, .inr rfl, ['\\', 'u'] ++ digits, ['"'], rfl,
        .inl ⟨_, _, rfl, accepts_word.mpr rfl, accepts_hexQuads.mpr groups⟩,
        accepts_sign.mpr rfl⟩
  | _ => cases kind_eq

/-- What stands behind the opening bar of a symbol. -/
def barredRest : Regex :=
  cat (many symbolPart) (sign '|')

theorem accepts_barredRest :
    barredRest.Accepts last text rest ↔ Literal.barred.Rest text := by
  constructor
  · refine rest_of_parts (fun part others => rest_append_of_plainPart rfl part others) ?_
    intro last text rest closing
    obtain rfl := accepts_sign.mp closing
    exact .close rfl rfl
  · intro others
    generalize kind_eq : Literal.barred = literal at others
    induction others generalizing last with
    | close _ closing =>
        cases kind_eq
        obtain rfl := closing
        exact ⟨[], ['|'], rfl, .inr rfl, accepts_sign.mpr rfl⟩
    | plain _ other unescaped _ ih =>
        cases kind_eq
        exact accepts_part_append (plainPart_of_plain other unescaped) (ih rfl)
    | escape _ listed _ ih =>
        cases kind_eq
        exact accepts_part_append (plainPart_of_escape listed) (ih rfl)
    | _ => cases kind_eq

/-! ### Characters -/

theorem accepts_sign_cat {char : Char} {body : Regex} :
    (cat (sign char) body).Accepts last (char :: text) rest ↔
      body.Accepts (some char) text rest := by
  constructor
  · rintro ⟨_, back, text_eq, first, others⟩
    obtain rfl := accepts_sign.mp first
    obtain ⟨_, rfl⟩ := List.cons.inj text_eq
    exact others
  · intro others
    exact ⟨[char], text, rfl, accepts_sign.mpr rfl, others⟩

/-- The escapes of characters. -/
def characterEscape : Regex :=
  alt (oneOf (.signs ['n', 't', '\\']))
    (alt (cat (sign 'u') hexQuad) (cat (oneOf hexDigit) (oneOf hexDigit)))

theorem accepts_characterEscape :
    characterEscape.Accepts last text rest ↔ Literal.character.Rest ('\\' :: text) := by
  simp only [characterEscape, accepts_alt, accepts_oneOf, CharClass.contains_signs]
  constructor
  · rintro (⟨char, listed, rfl⟩ | ⟨_, digits, rfl, mark, quad⟩ |
      ⟨_, _, rfl, ⟨first, firstFigure, rfl⟩, second, secondFigure, rfl⟩)
    · exact .singleEscape listed
    · obtain rfl := accepts_sign.mp mark
      obtain ⟨marked, inside⟩ := accepts_hexQuad.mp quad
      exact .number marked inside
    · rw [contains_hexDigit_eq] at firstFigure secondFigure
      exact .shortNumber rfl (by simp [firstFigure, secondFigure])
  · intro others
    cases others with
    | singleEscape listed => exact .inl ⟨_, listed, rfl⟩
    | number marked inside =>
        exact .inr (.inl (accepts_sign_cat.mpr (accepts_hexQuad.mpr ⟨marked, inside⟩)))
    | shortNumber unmarked inside =>
        obtain ⟨first, second, rfl⟩ := List.length_eq_two.mp unmarked
        simp only [List.forall_mem_cons, ← contains_hexDigit_eq] at inside
        exact .inr (.inr ⟨[first], [second], rfl, ⟨first, inside.1, rfl⟩, second, inside.2.1, rfl⟩)
    | close paired => cases paired
    | plain paired => cases paired
    | escape paired => cases paired
    | single unescaped => exact absurd rfl unescaped

/-- What stands behind the dollar sign of a character. -/
def characterRest : Regex :=
  alt (cat (sign '\\') characterEscape)
    (oneOf (.compl (.unions [.single '\\', .property .blank])))

theorem accepts_characterRest :
    characterRest.Accepts last text rest ↔ Literal.character.Rest text := by
  have visible_iff : ∀ {char : Char},
      (CharClass.compl (.unions [.single '\\', .property .blank])).contains char = true ↔
        char ≠ '\\' ∧ Unicode.isBlank char = false := by
    intro char
    rw [CharClass.contains, Bool.not_eq_true', ← Bool.not_eq_true, CharClass.contains_unions]
    simp [CharClass.contains, Property.holds]
  constructor
  · rintro (⟨_, back, rfl, slash, escape⟩ | ⟨char, inside, rfl⟩)
    · obtain rfl := accepts_sign.mp slash
      exact accepts_characterEscape.mp escape
    · obtain ⟨unescaped, visible⟩ := visible_iff.mp inside
      exact .single unescaped visible
  · intro others
    cases text with
    | nil => cases others
    | cons char text =>
        by_cases escaping : char = '\\'
        · subst escaping
          exact .inl (accepts_sign_cat.mpr (accepts_characterEscape.mpr others))
        · cases others with
          | single unescaped visible =>
              exact .inr ⟨char, visible_iff.mpr ⟨unescaped, visible⟩, rfl⟩
          | close paired => cases paired
          | plain paired => cases paired
          | _ => exact absurd rfl escaping

end Form

/-- The form of the lexemes of a literal. -/
def Literal.form : Literal → Form
  | string => .string
  | barred => .symbol
  | character => .character

namespace Literal

variable {literal : Literal} {last : Option Char} {text rest : Text}

/-- The expression of a literal accepts its language. -/
theorem accepts_opening_iff :
    literal.form.regex.Accepts last (literal.opening :: text) rest ↔ literal.Rest text := by
  cases literal with
  | string =>
      exact Form.accepts_string_iff.trans (Form.accepts_sign_cat.trans Form.accepts_stringRest)
  | barred =>
      have barred_iff : Form.barred.Accepts last ('|' :: text) rest ↔ barred.Rest text := by
        rw [Form.barred, Form.accepts_cat_assoc]
        exact Form.accepts_sign_cat.trans Form.accepts_barredRest
      constructor
      · rintro (accepted | accepted)
        · obtain ⟨first, _, text_eq, inside⟩ := Form.exists_letter_of_identifier accepted
          obtain ⟨rfl, _⟩ := List.cons.inj text_eq
          exact absurd inside (by decide)
        · exact barred_iff.mp accepted
      · intro others
        exact .inr (barred_iff.mpr others)
  | character => exact Form.accepts_sign_cat.trans Form.accepts_characterRest

variable {options : Options} {cursor : Cursor} {form : Form} {matched : Match}

/-- At the opening sign of a literal, only its form comes into question. -/
theorem eq_form_of_match? (code : form.state = initialState)
    (found : (form.rule options).match? cursor = some matched)
    (opens : cursor.rest.head? = some literal.opening) : form = literal.form := by
  obtain ⟨more, rest_eq⟩ := List.head?_eq_some_iff.mp opens
  obtain ⟨others, text_eq, _⟩ := Form.exists_cons_of_match? found rest_eq
  have appears := Form.appearance_of_match? found code
  rw [text_eq] at appears
  cases literal with
  | string => exact Form.eq_of_appearance_eq appears (by decide)
  | character => exact Form.eq_of_appearance_eq appears (by decide)
  | barred =>
      rcases Form.eq_of_appearance_eq_symbol appears with rfl | rfl
      · have reserved := (Form.accepts_reservedWord.mp (Form.accepts_of_match? found)).1
        rw [text_eq] at reserved
        have letter := reserved.isAsciiLetter_of_mem List.mem_cons_self
        exact absurd letter (by decide)
      · rfl

/-- What is matched at the opening sign is what the scanner finds. -/
theorem scan_eq_of_match? (code : form.state = initialState)
    (found : (form.rule options).match? cursor = some matched)
    (opens : cursor.rest.head? = some literal.opening) :
    literal.scan cursor.rest = some matched.text := by
  obtain rfl := eq_form_of_match? code found opens
  obtain ⟨more, cursor_eq⟩ := List.head?_eq_some_iff.mp opens
  obtain ⟨others, text_eq, _⟩ := Form.exists_cons_of_match? found cursor_eq
  obtain ⟨_, rest_eq, _⟩ := Rule.eq_of_match? found
  have accepted := Form.accepts_of_match? found
  rw [text_eq] at accepted
  exact scan_eq_some_iff.mpr ⟨⟨_, rest_eq.symm⟩, others, text_eq, accepts_opening_iff.mp accepted⟩

/-- What the scanner finds is matched. -/
theorem exists_match?_of_scan (options : Options) (scanned : literal.scan cursor.rest = some text) :
    ∃ matched, (literal.form.rule options).match? cursor = some matched := by
  obtain ⟨⟨behind, rest_eq⟩, others, rfl, remains⟩ := scan_eq_some_iff.mp scanned
  exact Form.exists_match?_of_accepts rest_eq.symm (accepts_opening_iff.mpr remains)

theorem state_form (literal : Literal) : literal.form.state = initialState := by
  cases literal <;> rfl

end Literal

/-! ## Literals handed out -/

section

variable {options : Options} {σ : Type} {fallback : Fallback σ (Token Category)}
  {session : Session σ (Token Category)} {literal : Literal} {lexeme : Text}

/-- At the opening sign of a literal, what the scanner finds is handed out. -/
theorem emits_of_scan (ready : Lexer.Ready ⟨tableOf options Form.all, fallback⟩ session)
    (state_eq : session.state = initialState)
    (scanned : literal.scan session.cursor.rest = some lexeme) :
    Lexer.Emits ⟨tableOf options Form.all, fallback⟩ session literal.category lexeme
      initialState := by
  have opens : session.cursor.rest.head? = some literal.opening := by
    obtain ⟨⟨behind, rest_eq⟩, others, rfl, _⟩ := Literal.scan_eq_some_iff.mp scanned
    rw [← rest_eq]
    rfl
  obtain ⟨matched, found⟩ := Literal.exists_match?_of_scan options scanned
  have text_eq : ∀ {kind : Form} {other : Match}, kind.state = initialState →
      (kind.rule options).match? session.cursor = some other → other.text = lexeme := by
    intro kind other code otherFound
    have otherScanned := Literal.scan_eq_of_match? code otherFound opens
    exact Option.some.inj (otherScanned.symm.trans scanned)
  have emits := emits_of_match? ready found (literal.state_form.trans state_eq.symm)
    ?longest ?unreserved ?kept
  case longest =>
    intro kind other code otherFound
    rw [Match.size, Match.size, text_eq (code.trans literal.state_form) otherFound,
      text_eq literal.state_form found]
  case unreserved =>
    intro _
    rw [Option.eq_none_iff_forall_ne_some]
    intro other otherFound
    have same := Literal.eq_form_of_match? rfl otherFound opens
    cases literal <;> cases same
  case kept => cases literal <;> rfl
  rw [text_eq literal.state_form found] at emits
  cases literal <;> exact emits

/-- Where the scanner finds nothing, the fallback is asked about the opening sign. -/
theorem misses_of_scan (ready : Lexer.Ready ⟨tableOf options Form.all, fallback⟩ session)
    (state_eq : session.state = initialState)
    (opens : session.cursor.rest.head? = some literal.opening)
    (nothing : literal.scan session.cursor.rest = none) :
    Lexer.Misses ⟨tableOf options Form.all, fallback⟩ session literal.opening := by
  obtain ⟨more, rest_eq⟩ := List.head?_eq_some_iff.mp opens
  apply misses_of_match? ready rest_eq
  intro kind other code found
  have scanned := Literal.scan_eq_of_match? (code.trans state_eq) found opens
  rw [nothing] at scanned
  cases scanned

end

/-- Literals with an opening sign.  Whatever the options, the fallback and the history of a lexer:
where it looks for a token outside block comments and the opening sign of a literal comes next, at
most one beginning of what is left belongs to the language of the literal.  It is what the scanner
finds, and what is handed out.  If there is none, the fallback is asked about the sign. -/
theorem emits_literal (options : Options) :
    ∃ table, rules options = .ok table ∧
      ∀ (σ : Type) (fallback : Fallback σ (Token Category)) (session : Session σ (Token Category))
          (literal : Literal),
        let lexer : Lexer σ (Token Category) := ⟨table, fallback⟩
        let rest := session.cursor.rest
        lexer.Visits session → session.pending = [] → session.state = initialState →
        rest.head? = some literal.opening →
        (∀ first second : Text, first <+: rest → second <+: rest → literal.Language first →
          literal.Language second → first = second) ∧
        (∀ lexeme, literal.scan rest = some lexeme ↔ lexeme <+: rest ∧ literal.Language lexeme) ∧
        (∀ lexeme, lexeme <+: rest → literal.Language lexeme →
          lexer.Emits session literal.category lexeme initialState) ∧
        ((∀ lexeme, lexeme <+: rest → ¬ literal.Language lexeme) →
          lexer.Misses session literal.opening) := by
  refine ⟨tableOf options Form.all, rules_eq_map options, ?_⟩
  intro σ fallback session literal lexer rest visited pending_eq state_eq opens
  have ready : lexer.Ready session := by
    refine visited.ready (decisive_tableOf options) pending_eq fun ended => ?_
    rw [show rest = [] from ended] at opens
    cases opens
  refine ⟨?_, fun lexeme => Literal.scan_eq_some_iff, ?_, ?_⟩
  · intro first second firstBegins secondBegins firstInside secondInside
    have firstFound := Literal.scan_eq_some_iff.mpr ⟨firstBegins, firstInside⟩
    have secondFound := Literal.scan_eq_some_iff.mpr ⟨secondBegins, secondInside⟩
    exact Option.some.inj (firstFound.symm.trans secondFound)
  · intro lexeme begins inside
    exact emits_of_scan ready state_eq (Literal.scan_eq_some_iff.mpr ⟨begins, inside⟩)
  · intro none_inside
    apply misses_of_scan ready state_eq opens
    rw [Option.eq_none_iff_forall_ne_some]
    intro lexeme scanned
    obtain ⟨begins, inside⟩ := Literal.scan_eq_some_iff.mp scanned
    exact none_inside lexeme begins inside

/-- A string with an escaped quote and a character by number at its end, and a character with too few
digits. -/
theorem emits_literal_string :
    ∃ table, rules {} = .ok table ∧
      let lexer : Lexer Unit (Token Category) := ⟨table, Fallback.skip⟩
      lexer.Emits (lexer.start "\"a\\\"\\u0041\" \"".toList ()) .string
          "\"a\\\"\\u0041\"".toList initialState ∧
        lexer.Misses (lexer.start "$\\u004".toList ()) '$' := by
  obtain ⟨table, built, emits⟩ := emits_literal {}
  refine ⟨table, built, ?_, ?_⟩
  · obtain ⟨_, scan_iff, found, _⟩ :=
      emits Unit Fallback.skip _ .string (.between "\"a\\\"\\u0041\" \"".toList () []) rfl rfl rfl
    have scanned := (scan_iff "\"a\\\"\\u0041\"".toList).mp rfl
    exact found _ scanned.1 scanned.2
  · obtain ⟨_, scan_iff, _, missed⟩ :=
      emits Unit Fallback.skip _ .character (.between "$\\u004".toList () []) rfl rfl rfl
    refine missed fun lexeme begins inside => ?_
    have scanned := (scan_iff lexeme).mpr ⟨begins, inside⟩
    cases scanned

end Munch.NewtonScript
