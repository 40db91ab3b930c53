import Munch.Proofs.Munching
import Munch.Proofs.NewtonScript.Endings
import Munch.Proofs.NewtonScript.MaximalMunch
import Munch.Proofs.NewtonScript.Trivia

/-!
# Lexemes set apart by spaces

The tokens of an input are found again when their spellings are written with a space between any two
(`tokenize_intercalate_space`).  In front of a space or at the end, a lexeme is read as it was read
between its neighbours, since nothing longer can be read there; and a space is nothing but white
space, since the next lexeme starts with something else.

One thing can go wrong: in front of a letter outside ASCII a reserved word is read as a symbol, and
in front of a space it would not be.  But no lexeme starts with such a letter, so that an input
where this happens is refused.
-/

namespace Munch.NewtonScript

open Regex

/-! ## Tokens of forms -/

namespace Form

/-- The category of the tokens of a form. -/
def category : Form → Category
  | reservedWord => .reservedWord
  | real => .real
  | integer => .integer
  | character => .character
  | string => .string
  | symbol => .symbol
  | operator => .operator
  | delimiter => .delimiter
  | whiteSpace => .whiteSpace
  | lineComment => .comment
  | commentOpen => .comment
  | commentBody => .comment
  | commentClose => .comment

variable {options : Options} {form : Form} {matched : Match} {context : Context}

/-- An accepted lexeme that separates no others becomes a token, and the state stays. -/
theorem action_eq_of_isTrivia (plain : form.isTrivia = false)
    (accepted : (form.action options matched context).outcome.isReject = false) :
    form.action options matched context =
      ⟨.emit (matched.token form.category), context.state⟩ := by
  cases form with
  | integer =>
      change (integerAction matched context).outcome.isReject = false at accepted
      change integerAction matched context = _
      unfold integerAction at accepted ⊢
      split
      · rename_i pointed
        rw [if_pos pointed] at accepted
        contradiction
      · rfl
  | whiteSpace => contradiction
  | lineComment => contradiction
  | commentOpen => contradiction
  | commentBody => contradiction
  | commentClose => contradiction
  | _ => rfl

/-- By default, what separates others is passed over. -/
theorem tokens_action_of_isTrivia (separates : form.isTrivia = true) :
    (form.action {} matched context).outcome.tokens = [] := by
  cases form with
  | whiteSpace => rfl
  | lineComment => rfl
  | commentOpen => rfl
  | commentBody => rfl
  | commentClose => rfl
  | _ => contradiction

/-- Only reserved words depend on what follows them. -/
theorem blind_regex (other : form ≠ reservedWord) : form.regex.blind = true := by
  cases form with
  | reservedWord => contradiction
  | _ => decide

theorem Spaced.any_isWord {following : Text} (spaced : Spaced following) :
    following.head?.any Unicode.isWord = false := by
  cases following with
  | nil => rfl
  | cons char following =>
      rw [List.head?_cons, Option.any_some, spaced char rfl]
      decide

end Form

/-! ## Lexemes -/

/-- The text is found somewhere as a lexeme of a form that does not separate others, and as a symbol
only if it is not reserved. -/
structure Lexeme (form : Form) (text : Text) : Prop where
  plain : form.isTrivia = false
  found : ∃ cursor matched, (form.rule {}).match? cursor = some matched ∧ matched.text = text
  unreserved : form = .symbol → ¬ Form.Reserved text

namespace Lexeme

variable {form : Form} {text following : Text} {cursor : Cursor}

theorem ne_nil (lexeme : Lexeme form text) : text ≠ [] := by
  obtain ⟨_, _, found, rfl⟩ := lexeme.found
  exact Rule.text_ne_nil_of_match? found form.alwaysReads_regex

theorem state_eq (lexeme : Lexeme form text) : form.state = initialState := by
  rw [Form.state, Form.isComment_of_isTrivia lexeme.plain]
  rfl

/-- No lexeme starts with a blank. -/
theorem isBlank_head (lexeme : Lexeme form text) :
    ∀ char ∈ text.head?, Unicode.isBlank char = false := by
  intro char first
  obtain ⟨others, rfl⟩ := List.head?_eq_some_iff.mp first
  obtain ⟨_, _, found, text_eq⟩ := lexeme.found
  have accepted := Form.accepts_of_match? found
  rw [text_eq] at accepted
  rw [Bool.eq_false_iff]
  intro blank
  obtain rfl :=
    Form.eq_whiteSpace_of_isBlank (Form.isComment_of_isTrivia lexeme.plain) accepted blank
  exact absurd lexeme.plain (by decide)

/-- In front of a space or the end, a lexeme is found again. -/
theorem exists_match? (lexeme : Lexeme form text) (spaced : Form.Spaced following)
    (rest_eq : cursor.rest = text ++ following) :
    ∃ matched, (form.rule {}).match? cursor = some matched ∧ matched.text = text := by
  have something := lexeme.ne_nil
  obtain ⟨place, matched, found, rfl⟩ := lexeme.found
  have accepted := Form.accepts_of_match? found
  by_cases reserved : form = .reservedWord
  · -- a reserved word needs a boundary behind it, which a space is
    subst reserved
    have again : Form.reservedWord.regex.Accepts cursor.passed.head? matched.text following :=
      Form.accepts_reservedWord.mpr ⟨(Form.accepts_reservedWord.mp accepted).1, spaced.any_isWord⟩
    obtain ⟨other, otherFound⟩ := Form.exists_match?_of_accepts rest_eq again
    obtain ⟨_, other_eq, _⟩ := Rule.eq_of_match? otherFound
    exact ⟨other, otherFound, Form.eq_of_reservedWord again (Form.accepts_of_match? otherFound)
      (rest_eq.symm.trans other_eq)⟩
  · apply Rule.exists_match?_of_blind (Form.blind_regex reserved) found rest_eq
    intro longer rest text_eq alsoAccepted
    obtain ⟨left, shorter⟩ := Form.exists_append_of_spaced lexeme.plain
      (Form.isComment_of_isTrivia lexeme.plain) something spaced accepted alsoAccepted text_eq
    rw [shorter, List.length_append]
    exact Nat.le_add_right _ _

end Lexeme

/-! ## First candidates -/

section

variable {options : Options} {cursor : Cursor} {state : StateId}
  {candidate : Candidate (Token Category)} {form : Form}

/-- A candidate starts with the next character. -/
theorem exists_cons_of_offers {eligible : Nat → Bool} {char : Char} {more : Text}
    (offered : (tableOf options Form.all).Offers cursor state eligible candidate)
    (rest_eq : cursor.rest = char :: more) :
    ∃ others, candidate.matched.text = char :: others ∧
      more = others ++ candidate.matched.following := by
  obtain ⟨first, others, text_eq⟩ := List.exists_cons_of_ne_nil (text_ne_nil_of_offers offered)
  obtain ⟨_, divided, _⟩ := Rule.eq_of_match? offered.matching
  rw [rest_eq, text_eq, List.cons_append] at divided
  obtain ⟨rfl, more_eq⟩ := List.cons.inj divided
  exact ⟨others, text_eq, more_eq⟩

/-- A candidate that none is longer than comes first, unless it is a symbol that is reserved. -/
theorem foremost_of_longest
    (offered : (tableOf options Form.all).Offers cursor state (fun _ => true) candidate)
    (form_eq : Form.all[candidate.index]? = some form)
    (fits : form.Fits options cursor state candidate)
    (longest : ∀ other, (tableOf options Form.all).Offers cursor state (fun _ => true) other →
      other.size ≤ candidate.size)
    (unreserved : form = .symbol → ¬ Form.Reserved candidate.matched.text) :
    (tableOf options Form.all).Foremost cursor state candidate := by
  refine ⟨offered, longest, ?_⟩
  intro other otherOffered size_eq
  by_contra later
  obtain ⟨kind, kind_eq, otherFits⟩ := exists_form_of_offers otherOffered
  obtain ⟨rfl, rfl⟩ := reservedWord_symbol_of_size_eq otherOffered offered otherFits fits kind_eq
    form_eq size_eq (Nat.lt_of_not_le later)
  have accepted := otherFits.accepted
  rw [Rule.text_eq_of_size_eq otherOffered.matching offered.matching size_eq] at accepted
  exact unreserved rfl (Form.accepts_reservedWord.mp accepted).1

/-- Outside block comments there are no candidates for parts of them. -/
theorem Form.Fits.isComment_eq (fits : form.Fits options cursor initialState candidate) :
    form.isComment = false := by
  cases code : form.isComment with
  | false => rfl
  | true =>
      have state_eq := fits.state_eq
      rw [Form.state, code] at state_eq
      contradiction

end

/-- In front of a space or the end, a lexeme is the first candidate. -/
theorem Lexeme.exists_foremost {form : Form} {text following : Text} {cursor : Cursor}
    (lexeme : Lexeme form text) (spaced : Form.Spaced following)
    (rest_eq : cursor.rest = text ++ following) :
    ∃ candidate, (tableOf {} Form.all).Foremost cursor initialState candidate ∧
      candidate.rule = form.rule {} ∧ candidate.matched.text = text := by
  obtain ⟨matched, found, text_eq⟩ := lexeme.exists_match? spaced rest_eq
  obtain ⟨index, form_eq, offered⟩ := exists_offers_of_match? found
  have accepted := Form.accepts_of_match? found
  rw [lexeme.state_eq] at offered
  have fits : form.Fits {} cursor initialState ⟨index, form.rule {}, matched⟩ :=
    ⟨rfl, lexeme.state_eq, accepted⟩
  refine ⟨_, foremost_of_longest offered form_eq fits ?_ ?_, rfl, text_eq⟩
  · intro other otherOffered
    obtain ⟨kind, _, otherFits⟩ := exists_form_of_offers otherOffered
    obtain ⟨_, other_eq, _⟩ := Rule.eq_of_match? otherOffered.matching
    rw [text_eq] at accepted
    obtain ⟨left, shorter⟩ := Form.exists_append_of_spaced lexeme.plain otherFits.isComment_eq
      lexeme.ne_nil spaced accepted otherFits.accepted (rest_eq.symm.trans other_eq)
    change Text.size other.matched.text ≤ Text.size matched.text
    rw [text_eq, shorter, Text.size_append]
    exact Nat.le_add_right _ _
  · intro isSymbol
    change ¬ Form.Reserved matched.text
    rw [text_eq]
    exact lexeme.unreserved isSymbol

/-- Where a space stands in front of something else, all candidates read the space alone. -/
theorem text_eq_of_space {following : Text} {cursor : Cursor}
    {candidate : Candidate (Token Category)} (rest_eq : cursor.rest = ' ' :: following)
    (plain : ∀ char ∈ following.head?, Unicode.isBlank char = false)
    (offered : (tableOf {} Form.all).Offers cursor initialState (fun _ => true) candidate) :
    candidate.matched.text = [' '] := by
  obtain ⟨form, _, fits⟩ := exists_form_of_offers offered
  obtain ⟨others, text_eq, following_eq⟩ := exists_cons_of_offers offered rest_eq
  have accepted := fits.accepted
  rw [text_eq] at accepted
  obtain rfl := Form.eq_whiteSpace_of_isBlank fits.isComment_eq accepted (by decide)
  cases others with
  | nil => exact text_eq
  | cons second others =>
      have blank : Unicode.isBlank second = true := (accepts_run.mp accepted).2 second (by simp)
      have other := plain second (by simp [following_eq])
      simp [blank] at other

/-- A space in front of something else is read as white space, alone. -/
theorem exists_foremost_of_space {following : Text} {cursor : Cursor}
    (rest_eq : cursor.rest = ' ' :: following)
    (plain : ∀ char ∈ following.head?, Unicode.isBlank char = false) :
    ∃ candidate, (tableOf {} Form.all).Foremost cursor initialState candidate ∧
      candidate.rule = Form.whiteSpace.rule {} ∧ candidate.matched.text = [' '] := by
  have accepted : Form.whiteSpace.regex.Accepts cursor.passed.head? [' '] following :=
    accepts_run.mpr ⟨List.cons_ne_nil _ _, List.forall_mem_singleton.mpr (by decide)⟩
  obtain ⟨matched, found⟩ := Form.exists_match?_of_accepts rest_eq accepted
  obtain ⟨index, form_eq, offered⟩ := exists_offers_of_match? found
  have fits : Form.whiteSpace.Fits {} cursor initialState
      ⟨index, Form.whiteSpace.rule {}, matched⟩ :=
    ⟨rfl, rfl, Form.accepts_of_match? found⟩
  have alone := text_eq_of_space rest_eq plain offered
  refine ⟨_, foremost_of_longest offered form_eq fits ?_ ?_, rfl, alone⟩
  · intro other otherOffered
    rw [Candidate.size, Match.size, text_eq_of_space rest_eq plain otherOffered, ← alone]
    exact Nat.le_refl _
  · intro isSymbol
    contradiction

/-! ## Reading spaced lexemes -/

/-- Wherever the text is what is left of the input, it is read outside block comments, and its
tokens have these categories and spellings. -/
def ReadAs (text : Text) (pairs : List (Category × Text)) : Prop :=
  ∀ cursor : Cursor, cursor.rest = text →
    ∃ tokens, (tableOf {} Form.all).Munches cursor initialState tokens ∧
      (tokens.map fun token => (token.kind, token.text)) = pairs

theorem readAs_nil : ReadAs [] [] := by
  intro cursor rest_eq
  refine ⟨[], .finish ?_ rest_eq, rfl⟩
  intro candidate offered
  obtain ⟨_, divided, _⟩ := Rule.eq_of_match? offered.matching
  rw [rest_eq] at divided
  exact text_ne_nil_of_offers offered (List.append_eq_nil_iff.mp divided.symm).1

theorem Lexeme.readAs {form : Form} {text following : Text} {pairs : List (Category × Text)}
    (lexeme : Lexeme form text) (spaced : Form.Spaced following) (rest : ReadAs following pairs) :
    ReadAs (text ++ following) ((form.category, text) :: pairs) := by
  intro cursor rest_eq
  obtain ⟨candidate, foremost, rule_eq, rfl⟩ := lexeme.exists_foremost spaced rest_eq
  obtain ⟨tokens, munches, pairs_eq⟩ := rest _ (foremost.rest_behind rest_eq)
  have decided : candidate.rule.action candidate.matched ⟨initialState, cursor.offset⟩ =
      ⟨.emit (candidate.matched.token form.category), initialState⟩ := by
    have accepted := (decisive_tableOf {} _ _ _ foremost).2 ⟨initialState, cursor.offset⟩
    rw [rule_eq] at accepted ⊢
    exact Form.action_eq_of_isTrivia lexeme.plain accepted
  refine ⟨_, .step foremost decided munches, ?_⟩
  rw [Outcome.tokens, List.singleton_append, List.map_cons, pairs_eq]
  rfl

theorem readAs_space {following : Text} {pairs : List (Category × Text)}
    (plain : ∀ char ∈ following.head?, Unicode.isBlank char = false)
    (rest : ReadAs following pairs) : ReadAs (' ' :: following) pairs := by
  intro cursor rest_eq
  obtain ⟨candidate, foremost, rule_eq, text_eq⟩ := exists_foremost_of_space rest_eq plain
  have behind_eq : candidate.matched.behind.rest = following :=
    foremost.rest_behind (by rw [text_eq]; exact rest_eq)
  obtain ⟨tokens, munches, pairs_eq⟩ := rest _ behind_eq
  have decided : candidate.rule.action candidate.matched ⟨initialState, cursor.offset⟩ =
      ⟨.suppress, initialState⟩ := by
    rw [rule_eq]
    rfl
  exact ⟨_, .step foremost decided munches, pairs_eq⟩

/-- A text that is written with others behind it starts as it does alone. -/
theorem head?_intercalate_cons (separator : Text) {first : Text} (something : first ≠ [])
    (others : List Text) :
    (separator.intercalate (first :: others)).head? = first.head? := by
  cases others with
  | nil => rw [List.intercalate_singleton]
  | cons second others =>
      rw [List.intercalate_cons_cons, List.append_assoc, List.head?_append_of_ne_nil _ something]

/-- Lexemes with spaces between them are read one by one. -/
theorem readAs_intercalate {pairs : List (Category × Text)}
    (lexemes : ∀ pair ∈ pairs, ∃ form, form.category = pair.1 ∧ Lexeme form pair.2) :
    ReadAs ([' '].intercalate (pairs.map Prod.snd)) pairs := by
  induction pairs with
  | nil => exact readAs_nil
  | cons pair pairs ih =>
      have others := ih fun other member => lexemes other (List.mem_cons_of_mem pair member)
      obtain ⟨form, category_eq, lexeme⟩ := lexemes pair List.mem_cons_self
      obtain ⟨category, text⟩ := pair
      obtain rfl : form.category = category := category_eq
      cases pairs with
      | nil =>
          have read := lexeme.readAs (by simp [Form.Spaced]) others
          simpa using read
      | cons second pairs =>
          obtain ⟨_, _, next⟩ := lexemes second (by simp)
          have plain : ∀ char ∈ ([' '].intercalate ((second :: pairs).map Prod.snd)).head?,
              Unicode.isBlank char = false := by
            rw [List.map_cons, head?_intercalate_cons _ next.ne_nil]
            exact next.isBlank_head
          have read := lexeme.readAs (by simp [Form.Spaced]) (readAs_space plain others)
          rw [List.map_cons, List.map_cons, List.intercalate_cons_cons, List.append_assoc]
          exact read

/-! ## Lexemes of an input -/

section

variable {cursor : Cursor} {state : StateId} {candidate : Candidate (Token Category)}
  {tokens : List (Token Category)}

/-- Outside block comments, an input without errors goes on with a blank or a character of ASCII. -/
theorem isBlank_or_isAscii_of_munches
    (munches : (tableOf {} Form.all).Munches cursor initialState tokens) {char : Char} {more : Text}
    (rest_eq : cursor.rest = char :: more) :
    Unicode.isBlank char = true ∨ Unicode.isAscii char = true := by
  cases munches with
  | @step _ _ candidate _ _ foremost _ _ =>
      obtain ⟨form, _, fits⟩ := exists_form_of_offers foremost.offered
      obtain ⟨others, text_eq, _⟩ := exists_cons_of_offers foremost.offered rest_eq
      have accepted := fits.accepted
      rw [text_eq] at accepted
      exact Form.isBlank_or_isAscii_of_accepts fits.isComment_eq accepted
  | finish _ ended =>
      rw [ended] at rest_eq
      contradiction

/-- Where no character of words follows, a reserved word is not read as a symbol. -/
theorem not_foremost_of_reserved (form_eq : Form.all[candidate.index]? = some .symbol)
    (fits : Form.symbol.Fits {} cursor state candidate)
    (reserved : Form.Reserved candidate.matched.text)
    (stops : candidate.matched.following.head?.any Unicode.isWord = false) :
    ¬ (tableOf {} Form.all).Foremost cursor state candidate := by
  intro foremost
  have offered := foremost.offered
  obtain ⟨_, rest_eq, _⟩ := Rule.eq_of_match? offered.matching
  have accepted : Form.reservedWord.regex.Accepts cursor.passed.head? candidate.matched.text
      candidate.matched.following :=
    Form.accepts_reservedWord.mpr ⟨reserved, stops⟩
  obtain ⟨matched, found⟩ := Form.exists_match?_of_accepts rest_eq accepted
  -- the candidate for the reserved word is as long, and was registered earlier
  obtain ⟨index, index_eq, otherOffered⟩ := exists_offers_of_match? found
  have state_eq : Form.reservedWord.state = state := fits.state_eq
  rw [state_eq] at otherOffered
  have otherAccepted := Form.accepts_of_match? found
  have size_eq : Text.size matched.text = candidate.size := by
    obtain ⟨_, other_eq, _⟩ := Rule.eq_of_match? found
    rw [Form.eq_of_reservedWord accepted otherAccepted (rest_eq.symm.trans other_eq)]
    rfl
  rcases Nat.eq_or_lt_of_le (foremost.earliest _ otherOffered size_eq) with same | later
  · rw [same, index_eq] at form_eq
    cases form_eq
  · have resolved := reservedWord_symbol_of_size_eq offered otherOffered fits
      ⟨rfl, state_eq, otherAccepted⟩ form_eq index_eq size_eq.symm later
    exact absurd resolved.1 (by decide)

/-- No character of identifiers follows a reserved word that is read as a symbol. -/
theorem stops_of_match?_symbol {matched : Match}
    (found : (Form.symbol.rule {}).match? cursor = some matched)
    (reserved : Form.Reserved matched.text) :
    matched.following.head?.any Unicode.isAsciiWord = false := by
  obtain ⟨thread, thread_eq, _, following_eq, accepted⟩ := Rule.exists_find?_of_match? found
  obtain ⟨_, rest_eq, _⟩ := Rule.eq_of_match? found
  obtain ⟨first, others, text_eq⟩ := List.exists_cons_of_ne_nil
    (Rule.text_ne_nil_of_match? found (Form.alwaysReads_regex .symbol))
  have letter := reserved.isAsciiLetter_of_mem (text_eq ▸ List.mem_cons_self)
  rw [rest_eq, text_eq, List.cons_append] at thread_eq
  rw [← following_eq]
  exact Form.stops_of_find?_symbol (Form.contains_letter.mpr (.inl letter)) thread_eq

/-- In an input without errors, no reserved word is read as a symbol. -/
theorem not_reserved_of_munches
    (foremost : (tableOf {} Form.all).Foremost cursor state candidate)
    (form_eq : Form.all[candidate.index]? = some .symbol)
    (fits : Form.symbol.Fits {} cursor state candidate)
    (rest : (tableOf {} Form.all).Munches candidate.matched.behind initialState tokens) :
    ¬ Form.Reserved candidate.matched.text := by
  intro reserved
  have found := foremost.offered.matching
  rw [fits.rule_eq] at found
  have stops := stops_of_match?_symbol found reserved
  cases following_eq : candidate.matched.following with
  | nil =>
      apply not_foremost_of_reserved form_eq fits reserved _ foremost
      rw [following_eq]
      rfl
  | cons char more =>
      rw [following_eq] at stops
      cases word : Unicode.isWord char with
      | false =>
          apply not_foremost_of_reserved form_eq fits reserved _ foremost
          rw [following_eq]
          exact word
      | true =>
          -- such a character is not of ASCII, and no lexeme starts with it
          rcases isBlank_or_isAscii_of_munches rest following_eq with blank | ascii
          · rw [Unicode.isBlank_of_isWord word] at blank
            contradiction
          · rw [Unicode.isWord, if_pos ascii] at word
            rw [List.head?_cons, Option.any_some, word] at stops
            contradiction

/-- Each token of an input without errors is a lexeme of its category. -/
theorem exists_lexeme_of_munches
    (munches : (tableOf {} Form.all).Munches cursor state tokens) :
    ∀ token ∈ tokens, ∃ form, form.category = token.kind ∧ Lexeme form token.text := by
  induction munches with
  | @step cursor state candidate decision tokens foremost decided rest ih =>
      intro token member
      rcases List.mem_append.mp member with here | later
      · obtain ⟨form, form_eq, fits⟩ := exists_form_of_offers foremost.offered
        have found := foremost.offered.matching
        have accepted := (decisive_tableOf {} _ _ _ foremost).2 ⟨state, cursor.offset⟩
        rw [fits.rule_eq] at decided accepted found
        cases plain : form.isTrivia with
        | true =>
            have nothing : decision.outcome.tokens = [] :=
              decided ▸ Form.tokens_action_of_isTrivia plain
            simp [nothing] at here
        | false =>
            obtain rfl := decided.symm.trans (Form.action_eq_of_isTrivia plain accepted)
            obtain rfl := List.mem_singleton.mp here
            refine ⟨form, rfl, plain, ⟨cursor, candidate.matched, found, rfl⟩, ?_⟩
            rintro rfl
            have state_eq : initialState = state := fits.state_eq
            exact not_reserved_of_munches foremost form_eq fits (state_eq ▸ rest)
      · exact ih token later
  | finish _ _ => simp

end

/-! ## Respaced inputs -/

/-- An input has the tokens that are munched from its start. -/
theorem tokenize_eq_ok_iff {options : Options} {input : Text} {tokens : List (Token Category)} :
    tokenize options input = .ok tokens ↔
      (tableOf options Form.all).Munches (Cursor.start input) initialState tokens := by
  rw [tokenize_of_rules_eq (rules_eq_map options)]
  exact Lexer.tokenize_eq_ok_iff_munches (decisive_tableOf options)
    (fun char position _ => ⟨.unexpected char position, rfl⟩) input ()

/-- Whatever the input: if it has no errors, then its lexemes with a single space between any two
have no errors either, and their tokens have the same categories and the same spellings. -/
theorem tokenize_intercalate_space {input : Text} {tokens : List (Token Category)}
    (succeeded : tokenize {} input = .ok tokens) :
    ∃ again, tokenize {} ([' '].intercalate (tokens.map Token.text)) = .ok again ∧
      (again.map fun token => (token.kind, token.text)) =
        tokens.map fun token => (token.kind, token.text) := by
  have lexemes : ∀ pair ∈ tokens.map fun token => (token.kind, token.text),
      ∃ form, form.category = pair.1 ∧ Lexeme form pair.2 :=
    List.forall_mem_map.mpr (exists_lexeme_of_munches (tokenize_eq_ok_iff.mp succeeded))
  have read := readAs_intercalate lexemes
  rw [List.map_map] at read
  obtain ⟨again, munches, pairs_eq⟩ := read (Cursor.start _) rfl
  exact ⟨again, tokenize_eq_ok_iff.mpr munches, pairs_eq⟩

/-- Signs that would run together, a comment between two words, a point behind an integer, and
quotes and spaces inside lexemes. -/
theorem tokenize_intercalate_space_signs :
    ∃ tokens, tokenize {} "if/*é*/a<=.0x1f.5\"\\\" b\"|c d|$éend//".toList = .ok tokens ∧
      (tokens.map fun token => (token.kind, String.ofList token.text)) =
        [(.reservedWord, "if"), (.symbol, "a"), (.operator, "<="), (.operator, "."),
          (.integer, "0x1f"), (.operator, "."), (.integer, "5"), (.string, "\"\\\" b\""),
          (.symbol, "|c d|"), (.character, "$é"), (.reservedWord, "end")] ∧
      ∃ again, tokenize {} ([' '].intercalate (tokens.map Token.text)) = .ok again ∧
        (again.map fun token => (token.kind, token.text)) =
          tokens.map fun token => (token.kind, token.text) := by
  have found : (tokenize {} "if/*é*/a<=.0x1f.5\"\\\" b\"|c d|$éend//".toList).toOption.map
      (List.map fun token => (token.kind, String.ofList token.text)) =
        some [(.reservedWord, "if"), (.symbol, "a"), (.operator, "<="), (.operator, "."),
          (.integer, "0x1f"), (.operator, "."), (.integer, "5"), (.string, "\"\\\" b\""),
          (.symbol, "|c d|"), (.character, "$é"), (.reservedWord, "end")] := by
    rw [tokenize_of_rules_eq (rules_eq_map {})]
    decide +kernel
  cases succeeded : tokenize {} "if/*é*/a<=.0x1f.5\"\\\" b\"|c d|$éend//".toList with
  | error error =>
      rw [succeeded] at found
      cases found
  | ok tokens =>
      rw [succeeded] at found
      exact ⟨tokens, rfl, Option.some.inj found, tokenize_intercalate_space succeeded⟩

end Munch.NewtonScript
