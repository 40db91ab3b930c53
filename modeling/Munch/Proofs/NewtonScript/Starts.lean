import Munch.Proofs.NewtonScript.Respacing
import Munch.Proofs.Places
import Munch.Proofs.Regex.FirstMatch

/-!
# Where a lexeme starts

At a place that a lexer of NewtonScript comes to, the rules of the forms decide what the next pull
does.  If a form has the longest match there, its lexeme is handed out (`emits_of_match?`), and if no
form has a match, the next character goes to the fallback (`misses_of_match?`).

Outside block comments the first character of a lexeme says which forms come into question.
-/

namespace Munch

namespace Text

/-- The beginning of a text has no more bytes than the text. -/
theorem size_le_of_prefix {front text : Text} (begins : front <+: text) : size front ≤ size text := by
  obtain ⟨back, rfl⟩ := begins
  rw [size_append]
  exact Nat.le_add_right _ _

end Text

namespace NewtonScript

open Regex

/-- The hexadecimal digits, in either case. -/
def isHexDigit (char : Char) : Bool :=
  Unicode.isAsciiDigit char || ('a' ≤ char && char ≤ 'f') || ('A' ≤ char && char ≤ 'F')

namespace Form

theorem contains_digit_eq : digit.contains = Unicode.isAsciiDigit := by
  funext char
  exact Bool.eq_iff_iff.mpr contains_digit

theorem contains_hexDigit_eq : hexDigit.contains = isHexDigit := by
  funext char
  simp [hexDigit, CharClass.unions, CharClass.contains, isHexDigit, Unicode.isAsciiDigit]

/-- The state behind a lexeme of the form. -/
def stateBehind : Form → StateId
  | commentOpen => commentState
  | commentBody => commentState
  | _ => initialState

variable {options : Options} {form : Form} {matched : Match} {context : Context} {cursor : Cursor}

/-- What becomes of an accepted lexeme that is kept. -/
theorem action_eq_of_keeps (kept : options.keeps (matched.token form.category) = true)
    (accepted : (form.action options matched context).outcome.isReject = false)
    (state_eq : form.state = context.state) :
    form.action options matched context =
      ⟨.emit (matched.token form.category), form.stateBehind⟩ := by
  cases plain : form.isTrivia with
  | false =>
      rw [action_eq_of_isTrivia plain accepted, ← state_eq, state, isComment_of_isTrivia plain]
      cases form with
      | commentOpen => contradiction
      | commentBody => contradiction
      | _ => rfl
  | true =>
      have emitted : trivia form.category (options.keeps (matched.token form.category)) matched =
          .emit (matched.token form.category) := by
        rw [kept]
        rfl
      cases form with
      | whiteSpace => exact congrArg₂ _ emitted state_eq.symm
      | lineComment => exact congrArg₂ _ emitted state_eq.symm
      | commentOpen => exact congrArg (Decision.mk · _) emitted
      | commentBody => exact congrArg₂ _ emitted state_eq.symm
      | commentClose => exact congrArg (Decision.mk · _) emitted
      | _ => contradiction

/-- A match starts with the next character. -/
theorem exists_cons_of_match? {char : Char} {more : Text}
    (found : (form.rule options).match? cursor = some matched)
    (rest_eq : cursor.rest = char :: more) :
    ∃ others, matched.text = char :: others ∧ more = others ++ matched.following := by
  obtain ⟨_, _, offered⟩ := exists_offers_of_match? found
  exact exists_cons_of_offers offered rest_eq

/-- Outside block comments, the spelling of a match tells its form. -/
theorem appearance_of_match? (found : (form.rule options).match? cursor = some matched)
    (code : form.state = initialState) : form.appearance = ofText matched.text := by
  have outside : form.isComment = false := by
    cases inside : form.isComment with
    | false => rfl
    | true =>
        rw [state, inside] at code
        contradiction
  exact (ofText_of_accepts outside (accepts_of_match? found)).symm

end Form

section

variable {options : Options} {σ : Type} {fallback : Fallback σ (Token Category)}
  {session : Session σ (Token Category)} {form : Form} {matched : Match}

/-- A form with the longest match hands it out, if such lexemes are kept.  A symbol must not be
reserved. -/
theorem emits_of_match? (ready : Lexer.Ready ⟨tableOf options Form.all, fallback⟩ session)
    (found : (form.rule options).match? session.cursor = some matched)
    (state_eq : form.state = session.state)
    (longest : ∀ {kind : Form} {other : Match}, kind.state = form.state →
      (kind.rule options).match? session.cursor = some other → other.size ≤ matched.size)
    (unreserved : form = .symbol → (Form.reservedWord.rule options).match? session.cursor = none)
    (kept : options.keeps (matched.token form.category) = true) :
    Lexer.Emits ⟨tableOf options Form.all, fallback⟩ session form.category matched.text
      form.stateBehind := by
  obtain ⟨index, form_eq, offered⟩ := exists_offers_of_match? found
  rw [state_eq] at offered longest
  have fits : form.Fits options session.cursor session.state ⟨index, form.rule options, matched⟩ :=
    ⟨rfl, state_eq, Form.accepts_of_match? found⟩
  have foremost : (tableOf options Form.all).Foremost session.cursor session.state
      ⟨index, form.rule options, matched⟩ := by
    refine ⟨offered, ?_, ?_⟩
    · intro other otherOffered
      obtain ⟨kind, _, otherFits⟩ := exists_form_of_offers otherOffered
      exact longest otherFits.state_eq (otherFits.rule_eq ▸ otherOffered.matching)
    · intro other otherOffered size_eq
      by_contra later
      obtain ⟨kind, kind_eq, otherFits⟩ := exists_form_of_offers otherOffered
      obtain ⟨rfl, rfl⟩ := reservedWord_symbol_of_size_eq otherOffered offered otherFits fits
        kind_eq form_eq size_eq (Nat.lt_of_not_le later)
      have matching := otherOffered.matching
      rw [otherFits.rule_eq, unreserved rfl] at matching
      contradiction
  have accepted := (decisive_tableOf options _ _ _ foremost).2 session.context
  exact ready.emits foremost (text_ne_nil_of_offers offered)
    (Form.action_eq_of_keeps kept accepted state_eq)

/-- Where no form has a match, the fallback is asked. -/
theorem misses_of_match? (ready : Lexer.Ready ⟨tableOf options Form.all, fallback⟩ session)
    {char : Char} {more : Text} (rest_eq : session.cursor.rest = char :: more)
    (nothing : ∀ {kind : Form} {other : Match}, kind.state = session.state →
      (kind.rule options).match? session.cursor ≠ some other) :
    Lexer.Misses ⟨tableOf options Form.all, fallback⟩ session char := by
  apply ready.misses rest_eq
  intro candidate offered
  obtain ⟨kind, _, fits⟩ := exists_form_of_offers offered
  exact nothing fits.state_eq (fits.rule_eq ▸ offered.matching)

end

end NewtonScript

end Munch
