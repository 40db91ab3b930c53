import Munch.Proofs.NewtonScript.Comments
import Munch.Proofs.NewtonScript.Literals
import Munch.Proofs.Tiling

/-!
# Where NewtonScript cannot be read

A text is refused at the first place, outside block comments, where no lexeme starts.  Such a place
can be told from the text behind it (`Stray`): it is the opening sign of a literal that is not
completed, or a character that starts no lexeme at all.  All other characters are lexemes on their
own, whatever they are followed by, and inside a block comment every character is read.

What was read in front of that place is a sequence of tokens with no block comment left open.
`Passes` follows the lexemes from one place to the next, inside and outside block comments, and the
facts about the tokens are proved along it.
-/

namespace Munch

/-- If the fallback is asked first, nothing matches. -/
theorem Lexer.Ready.not_offers_of_misses {σ τ : Type} {lexer : Lexer σ τ} {session : Session σ τ}
    {char : Char} (ready : lexer.Ready session) (misses : lexer.Misses session char)
    (candidate : Candidate τ) :
    ¬ lexer.table.Offers session.cursor session.state (fun _ => true) candidate := by
  obtain ⟨events, events_eq⟩ := List.head?_eq_some_iff.mp misses
  obtain ⟨_, step⟩ := (scans_next ready.pending_eq ready.unfinished).exists_step events_eq
  intro offered
  cases step with
  | unmatched none_left _ _ => exact none_left candidate (ready.clear.offers_iff.mpr offered)

namespace NewtonScript

open Regex

/-! ## Characters that start no lexeme -/

/-- The characters that are lexemes on their own, outside block comments. -/
def isStart (char : Char) : Bool :=
  Unicode.isAsciiWord char || Unicode.isBlank char ||
    char ∈ Form.operatorSigns ++ Form.delimiterSigns

/-- No lexeme starts with a character in front of a text: the character opens a literal, but no
beginning of the text completes it, or it starts nothing. -/
def Stray (char : Char) (rest : Text) : Prop :=
  (∃ literal : Literal, char = literal.opening ∧
    ∀ lexeme, lexeme <+: char :: rest → ¬ literal.Language lexeme) ∨
  isStart char = false ∧ ∀ literal : Literal, char ≠ literal.opening

theorem isStart_opening (literal : Literal) : isStart literal.opening = false := by
  cases literal <;> decide

theorem Stray.isStart_eq_false {char : Char} {rest : Text} (stray : Stray char rest) :
    isStart char = false := by
  rcases stray with ⟨literal, rfl, _⟩ | ⟨outside, _⟩
  · exact isStart_opening literal
  · exact outside

namespace Form

variable {char : Char} {last : Option Char} {others rest : Text} {form : Form}

/-- A character that is a lexeme on its own has a form. -/
theorem exists_accepts_of_isStart (start : isStart char = true) :
    ∃ form : Form, form.state = initialState ∧
      ∀ last rest, form.regex.Accepts last [char] rest := by
  simp only [isStart, Unicode.isAsciiWord, Bool.or_eq_true, decide_eq_true_eq, beq_iff_eq,
    List.mem_append] at start
  rcases start with ((((inside | figure) | rfl) | blank) | sign | sign)
  · refine ⟨symbol, rfl, fun last rest => .inl ?_⟩
    exact ⟨[char], [], rfl, ⟨char, contains_letter.mpr (.inl inside), rfl⟩, .inr rfl⟩
  · refine ⟨integer, rfl, fun last rest => .inr (accepts_run.mpr ?_)⟩
    simpa using figure
  · refine ⟨symbol, rfl, fun last rest => .inl ?_⟩
    exact ⟨['_'], [], rfl, ⟨'_', contains_letter.mpr (.inr rfl), rfl⟩, .inr rfl⟩
  · refine ⟨whiteSpace, rfl, fun last rest => accepts_run.mpr ⟨List.cons_ne_nil _ _, ?_⟩⟩
    rintro _ (_ | ⟨_, absent⟩)
    · exact blank
    · contradiction
  · refine ⟨operator, rfl, fun last rest => accepts_choice.mpr ?_⟩
    exact ⟨_, List.mem_append_right _ (List.mem_singleton_self _), char,
      CharClass.contains_signs.mpr sign, rfl⟩
  · exact ⟨delimiter, rfl, fun last rest => ⟨char, CharClass.contains_signs.mpr sign, rfl⟩⟩

/-- Outside block comments, a lexeme starts with a character that is one on its own, or with the
opening sign of a literal. -/
theorem isStart_or_opening_of_accepts (code : form.isComment = false)
    (accepted : form.regex.Accepts last (char :: others) rest) :
    isStart char = true ∨ ∃ literal : Literal, char = literal.opening := by
  by_contra neither
  obtain ⟨outside, unopened⟩ := not_or.mp neither
  have bar : char ≠ '|' := fun same => unopened ⟨.barred, same⟩
  have dollar : char ≠ '$' := fun same => unopened ⟨.character, same⟩
  have quote : char ≠ '"' := fun same => unopened ⟨.string, same⟩
  simp only [isStart, Bool.or_eq_true, decide_eq_true_eq, List.mem_append, not_or] at outside
  obtain ⟨⟨word, blank⟩, sign, delimiting⟩ := outside
  have figure : ¬ Unicode.isAsciiDigit char = true := fun inside =>
    word (Unicode.isAsciiWord_of_isAsciiDigit inside)
  have slash : char ≠ '/' := by
    rintro rfl
    exact sign (by decide)
  -- such a text would be spelled like an operator, but operators are made of their own signs
  have spelled : ofText (char :: others) = operator := by
    simp [ofText, blank, figure, word, bar, dollar, quote, delimiting, slash]
  have appears : form.appearance = operator := (ofText_of_accepts code accepted).symm.trans spelled
  obtain rfl : form = operator := eq_of_appearance_eq appears (by decide)
  have checked : ∀ text ∈ operatorPairs ++ operatorSigns.map fun sign => [sign],
      text.head?.all (fun sign => sign ∈ operatorSigns) = true := by
    decide
  exact sign (of_decide_eq_true (checked _ (mem_of_operator accepted)))

theorem isComment_of_state (code : form.state = initialState) : form.isComment = false := by
  cases form <;> first | rfl | contradiction

/-- Outside block comments, no form has a match exactly where the next character is stray. -/
theorem unmatched_iff_stray {options : Options} {cursor : Cursor}
    (rest_eq : cursor.rest = char :: rest) :
    (∀ (form : Form) (matched : Match), form.state = initialState →
      (form.rule options).match? cursor ≠ some matched) ↔ Stray char rest := by
  constructor
  · intro unmatched
    by_cases opens : ∃ literal : Literal, char = literal.opening
    · obtain ⟨literal, rfl⟩ := opens
      refine .inl ⟨literal, rfl, fun lexeme begins inside => ?_⟩
      rw [← rest_eq] at begins
      obtain ⟨matched, found⟩ :=
        literal.exists_match?_of_scan options (Literal.scan_eq_some_iff.mpr ⟨begins, inside⟩)
      exact unmatched literal.form matched literal.state_form found
    · refine .inr ⟨Bool.eq_false_iff.mpr fun start => ?_, fun literal same => opens ⟨literal, same⟩⟩
      obtain ⟨form, code, accepted⟩ := exists_accepts_of_isStart start
      obtain ⟨matched, found⟩ :=
        exists_match?_of_accepts (List.singleton_append ▸ rest_eq) (accepted _ _)
      exact unmatched form matched code found
  · rintro stray form matched code found
    obtain ⟨others, text_eq, _⟩ := exists_cons_of_match? found rest_eq
    rcases stray with ⟨literal, rfl, uncompleted⟩ | ⟨outside, unopened⟩
    · have opens : cursor.rest.head? = some literal.opening := by rw [rest_eq]; rfl
      obtain ⟨begins, inside⟩ :=
        Literal.scan_eq_some_iff.mp (Literal.scan_eq_of_match? code found opens)
      rw [rest_eq] at begins
      exact uncompleted matched.text begins inside
    · have accepted := accepts_of_match? found
      rw [text_eq] at accepted
      rcases isStart_or_opening_of_accepts (isComment_of_state code) accepted with
        start | ⟨literal, same⟩
      · rw [start] at outside
        contradiction
      · exact unopened literal same

end Form

/-! ## Block comments -/

/-- Whether a block comment is open behind a token, given whether one is open in front of it: the
opening signs open it, and a part that ends with the closing signs closes it. -/
def openBehind (isOpen : Bool) (token : Token Category) : Bool :=
  if isOpen then !(['*', '/'].isSuffixOf token.text) else token.text == ['/', '*']

namespace Form

variable {last : Option Char} {text rest : Text} {form : Form}

/-- The text ends neither with a star nor with the closing signs of a block comment. -/
def EndsOpen (text : Text) : Prop :=
  text.getLast? ≠ some '*' ∧ ¬ ['*', '/'] <:+ text

theorem EndsOpen.append {front back : Text} (frontOpen : EndsOpen front)
    (backOpen : EndsOpen back) : EndsOpen (front ++ back) := by
  by_cases nothing : back = []
  · rwa [nothing, List.append_nil]
  · constructor
    · rw [List.getLast?_append_of_ne_nil front nothing]
      exact backOpen.1
    · intro closed
      rcases List.suffix_or_suffix_of_suffix closed (List.suffix_append front back) with
        later | shorter
      · exact backOpen.2 later
      · simp only [List.suffix_cons_iff, List.suffix_nil, nothing, or_false] at shorter
        rcases shorter with rfl | rfl
        · exact backOpen.2 (List.suffix_refl _)
        · -- the star of the closing signs would end the front
          obtain ⟨left, text_eq⟩ := closed
          rw [List.append_cons] at text_eq
          obtain ⟨rfl, _⟩ := List.append_inj' text_eq rfl
          exact frontOpen.1 (by simp)

theorem endsOpen_of_commentPart (accepted : commentPart.Accepts last text rest) :
    EndsOpen text := by
  rcases accepted with ⟨char, plain, rfl⟩ | ⟨stars, _, rfl, _, char, plain, rfl⟩
  · constructor
    · simpa using plain
    · intro closed
      exact absurd closed.length_le (by simp)
  · obtain ⟨star, slash⟩ : char ≠ '*' ∧ char ≠ '/' := by simpa using plain
    constructor
    · simpa using star
    · rintro ⟨front, text_eq⟩
      have last_eq := congrArg List.getLast? text_eq
      exact slash (by simpa using last_eq.symm)

/-- No part of a body ends with the closing signs. -/
theorem not_suffix_of_commentBody (accepted : commentBody.regex.Accepts last text rest) :
    ¬ ['*', '/'] <:+ text := by
  rcases accepted with rounds | run
  · have endsOpen : EndsOpen text :=
      Rounds.forall_of_append (fun part => endsOpen_of_commentPart part)
        (fun front back => front.append back) rounds
    exact endsOpen.2
  · intro closed
    have slash := (accepts_run.mp run).2 '/' (closed.subset (by simp))
    simp at slash

theorem suffix_of_commentClose (accepted : commentClose.regex.Accepts last text rest) :
    ['*', '/'] <:+ text := by
  obtain ⟨stars, _, rfl, run, slash⟩ := accepted
  obtain ⟨something, starred⟩ := accepts_run.mp run
  obtain rfl := accepts_sign.mp slash
  obtain ⟨front, star, rfl⟩ := (List.eq_nil_or_concat' stars).resolve_left something
  obtain rfl : star = '*' := CharClass.contains_single.mp (starred star (by simp))
  exact ⟨front, by simp⟩

/-- Whether a lexeme leaves a block comment open can be seen from the state behind it. -/
theorem openBehind_token {options : Options} {cursor : Cursor} {matched : Match}
    (found : (form.rule options).match? cursor = some matched) (kind : Category) :
    openBehind (form.state == commentState) (matched.token kind) =
      (form.stateBehind == commentState) := by
  have accepted := accepts_of_match? found
  unfold openBehind
  change (if _ then !(['*', '/'].isSuffixOf matched.text) else matched.text == ['/', '*']) = _
  cases code : form.isComment with
  | true =>
      have inside : form.state = commentState := by
        rw [state, code]
        rfl
      rw [inside, beq_self_eq_true, if_pos rfl]
      rcases eq_commentBody_or_commentClose inside with rfl | rfl
      · have unclosed := not_suffix_of_commentBody accepted
        rw [← List.isSuffixOf_iff_suffix, Bool.not_eq_true] at unclosed
        rw [unclosed]
        rfl
      · rw [List.isSuffixOf_iff_suffix.mpr (suffix_of_commentClose accepted)]
        rfl
  | false =>
      have outside : (form.state == commentState) = false := by
        rw [state, code]
        rfl
      rw [outside, if_neg Bool.false_ne_true]
      by_cases opens : form = commentOpen
      · subst form
        rw [regex, accepts_word] at accepted
        rw [accepted]
        rfl
      · have other : matched.text ≠ ['/', '*'] := by
          intro text_eq
          have spelled := ofText_of_accepts code accepted
          rw [text_eq] at spelled
          exact opens (eq_of_appearance_eq spelled.symm (by decide))
        have behind : (form.stateBehind == commentState) = false := by
          cases form <;> first | rfl | contradiction
        rw [behind]
        simpa using other

end Form

/-! ## From lexeme to lexeme -/

/-- The lexer that hands out all tokens and stops at the first error. -/
def strict : Lexer Unit (Token Category) :=
  ⟨tableOf .keepTrivia Form.all, Fallback.fail⟩

/-- The lexemes that are recognised from one place and state to another, as tokens. -/
inductive Passes : Cursor → StateId → List (Token Category) → Cursor → StateId → Prop
  | refl (cursor : Cursor) (state : StateId) : Passes cursor state [] cursor state
  | lexeme {cursor place : Cursor} {state final : StateId} {index : Nat} {form : Form}
      {matched : Match} {tokens : List (Token Category)}
      (foremost : strict.table.Foremost cursor state ⟨index, form.rule .keepTrivia, matched⟩)
      (state_eq : form.state = state)
      (rest : Passes matched.behind form.stateBehind tokens place final) :
      Passes cursor state (matched.token form.category :: tokens) place final

/-- An accepted lexeme is handed out, since all of them are kept. -/
theorem action_eq_of_foremost {cursor : Cursor} {state : StateId} {index : Nat} {form : Form}
    {matched : Match} {context : Context}
    (foremost : strict.table.Foremost cursor state ⟨index, form.rule .keepTrivia, matched⟩)
    (state_eq : form.state = context.state) :
    form.action .keepTrivia matched context =
      ⟨.emit (matched.token form.category), form.stateBehind⟩ := by
  have accepted := (decisive_tableOf .keepTrivia _ _ _ foremost).2 context
  apply Form.action_eq_of_keeps _ accepted state_eq
  cases form <;> rfl

namespace Passes

variable {cursor place : Cursor} {state final : StateId} {tokens : List (Token Category)}

/-- The tokens make up the text between the places. -/
theorem reads (passes : Passes cursor state tokens place final) :
    cursor.Reads (tokens.flatMap Token.text) place := by
  induction passes with
  | refl cursor _ => exact .refl cursor
  | lexeme foremost _ _ ih => exact (Rule.reads_of_match? foremost.offered.matching).trans ih

/-- The tokens follow each other. -/
theorem tiles (passes : Passes cursor state tokens place final) :
    Tiles (Text.size cursor.passed) (tokens.map Token.span) (Text.size place.passed) := by
  induction passes with
  | refl => rfl
  | @lexeme cursor place state final index form matched tokens foremost _ _ ih =>
      obtain ⟨before_eq, _, _⟩ := Rule.eq_of_match? foremost.offered.matching
      have behind_size : Text.size matched.behind.passed =
          Text.size matched.before + Text.size matched.text := by
        rw [Match.behind, Text.size_append, Text.size_reverse, Nat.add_comm]
      rw [behind_size] at ih
      refine ⟨?_, ih⟩
      rw [← before_eq]
      rfl

/-- Whether a block comment is open can be seen from the state. -/
theorem foldl_openBehind (passes : Passes cursor state tokens place final) :
    tokens.foldl openBehind (state == commentState) = (final == commentState) := by
  induction passes with
  | refl => rfl
  | lexeme foremost state_eq _ ih =>
      rw [List.foldl_cons, ← state_eq, Form.openBehind_token foremost.offered.matching]
      exact ih

/-- There are no other states than those inside and outside block comments. -/
theorem final_eq (passes : Passes cursor state tokens place final)
    (known : state = initialState ∨ state = commentState) :
    final = initialState ∨ final = commentState := by
  induction passes with
  | refl => exact known
  | @lexeme _ _ _ _ _ form _ _ _ _ _ ih =>
      apply ih
      cases form with
      | commentOpen => exact .inr rfl
      | commentBody => exact .inr rfl
      | _ => exact .inl rfl

/-- As many pulls as there are tokens give these tokens. -/
theorem take_eq (passes : Passes cursor state tokens place final)
    {session : Session Unit (Token Category)} (ready : strict.Ready session)
    (idle : session.phase = .idle) (cursor_eq : session.cursor = cursor)
    (state_eq : session.state = state) :
    (strict.take tokens.length session).result = tokens.map .ok ∧
      (strict.take tokens.length session).session =
        { session with cursor := place, state := final } := by
  induction passes generalizing session with
  | refl =>
      subst cursor_eq state_eq
      exact ⟨rfl, rfl⟩
  | @lexeme cursor place state final index form matched tokens foremost form_state _ ih =>
      subst cursor_eq state_eq
      have found := foremost.offered.matching
      have something := text_ne_nil_of_offers foremost.offered
      have emits : strict.Emits session form.category matched.text form.stateBehind :=
        ready.emits foremost something (action_eq_of_foremost foremost form_state)
      have pulls := emits.pulls
      rw [← Rule.token_eq_token found, ← Rule.behind_eq_past found] at pulls
      have pull : strict.Pulls session
          ⟨Except.map some (.ok (matched.token form.category)), _, _⟩ := pulls
      have behindReady : strict.Ready
          { session with cursor := matched.behind, state := form.stateBehind, phase := .idle } :=
        ⟨ready.clear, ready.pending_eq, nofun⟩
      obtain ⟨result_eq, session_eq⟩ := ih behindReady rfl rfl rfl
      rw [List.length_cons, Lexer.take_succ_of_pulls pull]
      refine ⟨congrArg (_ :: ·) result_eq, session_eq.trans ?_⟩
      rw [idle]

end Passes

/-- If a sweep fails, the lexemes in front of the error lead to a place where nothing matches. -/
theorem exists_passes_of_sweeps {session : Session Unit (Token Category)}
    {run : Run Unit (Token Category) (Except LexError (List (Token Category)))} {error : LexError}
    (sweeps : strict.Sweeps session run) (clear : strict.Clear session)
    (failed : run.result = .error error) :
    ∃ tokens place final char rest, Passes session.cursor session.state tokens place final ∧
      (∀ candidate, ¬ strict.table.Offers place final (fun _ => true) candidate) ∧
      place.rest = char :: rest ∧ error = .unexpected char place.position := by
  induction sweeps with
  | @step session middle event run step error_eq _ ih =>
      obtain ⟨error | others, behind, events⟩ := run
      · obtain ⟨tokens, place, final, char, rest, passes, stuck⟩ :=
          ih (step.takes (decisive_tableOf _) clear).2 failed
        cases step with
        | reject best decided rejected =>
            have accepts := (decisive_tableOf .keepTrivia _ _ _ (clear.best_iff.mp best)).2
              session.context
            rw [decided, rejected] at accepts
            contradiction
        | @accept candidate decision best decided accepted =>
            obtain ⟨index, rule, matched⟩ := candidate
            have foremost := clear.best_iff.mp best
            obtain ⟨form, _, fits⟩ := exists_form_of_offers foremost.offered
            obtain rfl : rule = form.rule .keepTrivia := fits.rule_eq
            have action_eq : form.action .keepTrivia matched session.context = _ :=
              action_eq_of_foremost foremost fits.state_eq
            obtain rfl : decision = _ := decided.symm.trans action_eq
            exact ⟨_, place, final, char, rest, .lexeme foremost fits.state_eq passes, stuck⟩
        | unmatched _ _ answered =>
            cases answered
            contradiction
      · contradiction
  | @error session middle event other step error_eq =>
      obtain rfl := Except.error.inj failed
      cases step with
      | reject _ _ _ => contradiction
      | accept _ _ _ => contradiction
      | @unmatched char cursor answer memory none_left advanced answered =>
          cases answered
          refine ⟨[], session.cursor, session.state, char, cursor.rest, .refl _ _,
            fun candidate => none_left candidate ∘ clear.offers_iff.mpr,
            (Cursor.reads_of_advance? advanced).rest_eq, (Option.some.inj error_eq).symm⟩
  | finish _ _ => contradiction

/-- Where nothing matches, the lexer is outside block comments and the next character is stray. -/
theorem stray_of_not_offers {options : Options} {place : Cursor} {state : StateId} {char : Char}
    {rest : Text} (known : state = initialState ∨ state = commentState)
    (none_left : ∀ candidate,
      ¬ (tableOf options Form.all).Offers place state (fun _ => true) candidate)
    (rest_eq : place.rest = char :: rest) : state = initialState ∧ Stray char rest := by
  have unmatched : ∀ (form : Form) (matched : Match), form.state = state →
      (form.rule options).match? place ≠ some matched := by
    rintro form matched rfl found
    obtain ⟨_, _, offered⟩ := exists_offers_of_match? found
    exact none_left _ offered
  rcases known with rfl | rfl
  · exact ⟨rfl, (Form.unmatched_iff_stray rest_eq).mp unmatched⟩
  · obtain ⟨matched, found⟩ := Form.exists_match?_of_cons options rest_eq
    exact absurd found (unmatched .commentBody matched rfl)

/-! ## Errors -/

/-- What a lexer has recognised of an input in front of a place.  It has handed out these tokens and
stands at the place, outside block comments; the tokens follow each other from the start of the
input to the place; and each block comment that they open is closed. -/
structure Recognised (lexer : Lexer Unit (Token Category)) (input : Text)
    (tokens : List (Token Category)) (place : Cursor) : Prop where
  pulled : (lexer.take tokens.length (lexer.start input ())).result = tokens.map .ok
  reached : (lexer.take tokens.length (lexer.start input ())).session.cursor = place
  outside : (lexer.take tokens.length (lexer.start input ())).session.state = initialState
  spans : Tiles 0 (tokens.map Token.span) place.offset
  texts : tokens.flatMap Token.text = place.passed.reverse
  closed : tokens.foldl openBehind false = false

/-- The tokens that lead from the start to a place outside block comments are recognised there. -/
theorem Passes.recognised {input : Text} {tokens : List (Token Category)} {place : Cursor}
    (passes : Passes (Cursor.start input) initialState tokens place initialState) :
    Recognised strict input tokens place := by
  have ready : strict.Ready (strict.start input ()) := ⟨strict.clear_start input (), rfl, nofun⟩
  obtain ⟨result_eq, session_eq⟩ := passes.take_eq ready rfl rfl rfl
  have texts : tokens.flatMap Token.text = place.passed.reverse := by
    rw [passes.reads.passed_eq]
    simp [Cursor.start]
  have offset_eq : place.offset = Text.size place.passed := by
    have reads := passes.reads
    rw [texts] at reads
    exact reads.offset_eq_size
  refine ⟨result_eq, congrArg Session.cursor session_eq, congrArg Session.state session_eq, ?_,
    texts, passes.foldl_openBehind⟩
  rw [offset_eq]
  exact passes.tiles

/-- An input is refused at a stray character behind what was recognised. -/
theorem exists_recognised_of_error {options : Options} {input : Text} {error : LexError}
    (failed : tokenize options input = .error error) :
    ∃ char before rest tokens,
      let place : Cursor := ⟨before.reverse, char :: rest, Position.start.after before⟩
      error = .unexpected char place.position ∧ input = before ++ char :: rest ∧
        Recognised strict input tokens place ∧ Stray char rest := by
  -- the options have no influence on errors
  have keptFailed : tokenize .keepTrivia input = .error error := by
    have filtered : tokenize options input = (tokenize .keepTrivia input).map _ :=
      tokenizeWith_eq_map_filter Fallback.fail options input
    rw [failed] at filtered
    cases kept : tokenize .keepTrivia input with
    | error other =>
        rw [kept] at filtered
        exact congrArg _ (Except.error.inj filtered).symm
    | ok tokens =>
        rw [kept] at filtered
        cases filtered
  rw [tokenize_of_rules_eq (rules_eq_map .keepTrivia)] at keptFailed
  have sweeps : strict.Sweeps (strict.start input ()) _ :=
    Lexer.sweeps_tokenize rfl (by simp [Lexer.start])
  obtain ⟨tokens, place, final, char, rest, passes, none_left, rest_eq, error_eq⟩ :=
    exists_passes_of_sweeps sweeps (strict.clear_start input ()) keptFailed
  obtain ⟨rfl, stray⟩ := stray_of_not_offers (passes.final_eq (.inl rfl)) none_left rest_eq
  have recognised := Passes.recognised passes
  have reads := passes.reads
  rw [recognised.texts] at reads
  have place_eq : place = ⟨place.passed.reverse.reverse, char :: rest,
      Position.start.after place.passed.reverse⟩ := by
    rw [List.reverse_reverse, ← rest_eq]
    exact congrArg (Cursor.mk _ _) reads.position_eq
  have input_eq := reads.rest_eq
  rw [rest_eq] at input_eq
  rw [place_eq] at error_eq recognised
  exact ⟨char, place.passed.reverse, rest, tokens, error_eq, input_eq, recognised, stray⟩

/-- NewtonScript is refused exactly at stray characters.  Whatever the options: if an input is
refused, then for a stray character behind what was recognised, which lies in no token and in no
block comment.  An input is not refused if each of its characters is a lexeme on its own.  And
whatever the fallback and the history of a lexer, outside block comments the fallback is asked about
the next character exactly if it is stray. -/
theorem stray_of_error (options : Options) :
    (∀ input error, tokenize options input = .error error →
      ∃ table, rules .keepTrivia = .ok table ∧
      ∃ char position before rest tokens,
        error = .unexpected char position ∧
        Text.cut? input position.offset = some (before, char :: rest) ∧
        position = Position.start.after before ∧
        Recognised ⟨table, Fallback.fail⟩ input tokens ⟨before.reverse, char :: rest, position⟩ ∧
        Stray char rest) ∧
    (∀ input, (∀ char ∈ input, isStart char = true) →
      ∃ tokens, tokenize options input = .ok tokens) ∧
    ∃ table, rules options = .ok table ∧
      ∀ (σ : Type) (fallback : Fallback σ (Token Category)) (session : Session σ (Token Category))
          (char : Char) (rest : Text),
        let lexer : Lexer σ (Token Category) := ⟨table, fallback⟩
        lexer.Visits session → session.pending = [] → session.state = initialState →
        session.cursor.rest = char :: rest → (lexer.Misses session char ↔ Stray char rest) := by
  refine ⟨?_, ?_, tableOf options Form.all, rules_eq_map options, ?_⟩
  · intro input error failed
    obtain ⟨char, before, rest, tokens, error_eq, input_eq, recognised, stray⟩ :=
      exists_recognised_of_error failed
    refine ⟨_, rules_eq_map .keepTrivia, char, Position.start.after before, before, rest, tokens,
      error_eq, Text.cut?_eq_some_iff.mpr ⟨input_eq, ?_⟩, rfl, recognised, stray⟩
    rw [Position.offset_after]
    exact (Nat.zero_add _).symm
  · intro input starts
    cases result_eq : tokenize options input with
    | ok tokens => exact ⟨tokens, rfl⟩
    | error error =>
        obtain ⟨char, before, rest, _, _, input_eq, _, stray⟩ :=
          exists_recognised_of_error result_eq
        have start := starts char (by rw [input_eq]; simp)
        exact absurd (stray.isStart_eq_false.symm.trans start) Bool.false_ne_true
  · intro σ fallback session char rest lexer visited pending_eq state_eq rest_eq
    have ready : lexer.Ready session := by
      refine visited.ready (decisive_tableOf options) pending_eq fun ended => ?_
      rw [rest_eq] at ended
      cases ended
    constructor
    · intro misses
      exact (stray_of_not_offers (.inl state_eq) (ready.not_offers_of_misses misses) rest_eq).2
    · intro stray
      apply misses_of_match? ready rest_eq
      intro kind other code
      exact (Form.unmatched_iff_stray rest_eq).mpr stray kind other (code.trans state_eq)

/-- A quote inside a block comment is no error, and one behind it that is not closed is. -/
theorem stray_of_error_quote :
    let before := "/*\"*/ ".toList
    let position := Position.start.after before
    tokenize {} (before ++ ['"', 'x']) = .error (.unexpected '"' position) ∧
      ∃ table tokens, rules .keepTrivia = .ok table ∧
        Recognised ⟨table, Fallback.fail⟩ (before ++ ['"', 'x']) tokens
          ⟨before.reverse, ['"', 'x'], position⟩ ∧
        Stray '"' ['x'] := by
  intro before position
  have reported : (match tokenize {} (before ++ ['"', 'x']) with
      | .error error => some error
      | .ok _ => none) = some (.unexpected '"' position) := by
    rw [tokenize_of_rules_eq (rules_eq_map {})]
    decide +kernel
  have failed : tokenize {} (before ++ ['"', 'x']) = .error (.unexpected '"' position) := by
    cases result_eq : tokenize {} (before ++ ['"', 'x']) with
    | ok tokens => simp [result_eq] at reported
    | error error =>
        rw [result_eq] at reported
        rw [Option.some.inj reported]
  refine ⟨failed, ?_⟩
  obtain ⟨table, built, char, place, passed, rest, tokens, error_eq, boundary, _, recognised,
    stray⟩ := (stray_of_error {}).1 _ _ failed
  obtain ⟨rfl, rfl⟩ := LexError.unexpected.inj error_eq
  have divided : Text.cut? (before ++ ['"', 'x']) position.offset = some (before, ['"', 'x']) := by
    decide
  obtain ⟨rfl, rest_eq⟩ := Prod.mk.inj (Option.some.inj (boundary.symm.trans divided))
  obtain ⟨_, rfl⟩ := List.cons.inj rest_eq
  exact ⟨table, tokens, built, recognised, stray⟩

end NewtonScript

end Munch
