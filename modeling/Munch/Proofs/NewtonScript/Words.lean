import Munch.Proofs.NewtonScript.Starts

/-!
# Reserved words and symbols

At a letter, the run of letters, digits and underscores is read as one word.  It is a reserved word
if it is listed and no character of words follows, and a symbol otherwise (`emits_word`).  That a
reserved word may be the beginning of another does not matter, since a boundary has to follow it.

Characters of words are more than those of identifiers: a listed word in front of a letter outside
ASCII is a symbol.  But no lexeme starts with such a letter.  So in an input without errors the
tokens that are spelled like identifiers can be told apart by their spelling
(`kind_eq_of_isIdentifier`).
-/

namespace Munch.NewtonScript

open Regex

instance (text : Text) : Decidable (Form.Reserved text) :=
  inferInstanceAs (Decidable (∃ spelling ∈ reservedWords, text = spelling.toList))

/-- The category of a word, given what follows it. -/
def wordCategory (word following : Text) : Category :=
  if Form.Reserved word ∧ following.head?.any Unicode.isWord = false then .reservedWord else .symbol

/-- A letter or an underscore, and then letters, digits and underscores. -/
def IsIdentifier : Text → Prop
  | [] => False
  | first :: others =>
      (Unicode.isAsciiLetter first = true ∨ first = '_') ∧
        ∀ char ∈ others, Unicode.isAsciiWord char = true

theorem IsIdentifier.exists_letter {text : Text} (identifier : IsIdentifier text) :
    ∃ first others, text = first :: others ∧ Form.letter.contains first = true := by
  cases text with
  | nil => exact identifier.elim
  | cons first others => exact ⟨first, others, rfl, Form.contains_letter.mpr identifier.1⟩

namespace Form

theorem contains_wordSign_eq : wordSign.contains = Unicode.isAsciiWord := by
  funext char
  exact Bool.eq_iff_iff.mpr contains_wordSign

variable {options : Options} {form : Form} {cursor : Cursor} {matched : Match} {char : Char}
  {more : Text}

theorem isAsciiWord_of_letter (inside : letter.contains char = true) :
    Unicode.isAsciiWord char = true := by
  rcases contains_letter.mp inside with inside | rfl
  · simp [Unicode.isAsciiWord, inside]
  · decide

/-! ## Matches -/

/-- A symbol that starts with a letter is matched as far as characters of identifiers go. -/
theorem exists_match?_symbol (options : Options) (rest_eq : cursor.rest = char :: more)
    (inside : letter.contains char = true) :
    ∃ matched, (symbol.rule options).match? cursor = some matched ∧
      matched.text = cursor.rest.takeWhile Unicode.isAsciiWord := by
  have others : (optional (run wordSign)).Prefers (some char)
      (more.takeWhile Unicode.isAsciiWord) (more.dropWhile Unicode.isAsciiWord) := by
    rw [← contains_wordSign_eq]
    exact prefers_optional_run_takeWhile wordSign more
  have prefers : symbol.regex.Prefers cursor.passed.head?
      ([char] ++ more.takeWhile Unicode.isAsciiWord) (more.dropWhile Unicode.isAsciiWord) :=
    .alt (.cat (prefers_oneOf inside) others)
  rw [rest_eq, List.takeWhile_cons_of_pos (isAsciiWord_of_letter inside)]
  apply Rule.exists_match?_of_prefers _ prefers
  rw [rest_eq, List.cons_append, List.takeWhile_append_dropWhile]

/-- A reserved word is all of the word that stands there. -/
theorem takeWhile_of_match?_reservedWord
    (found : (reservedWord.rule options).match? cursor = some matched) :
    matched.text = cursor.rest.takeWhile Unicode.isAsciiWord ∧
      matched.following = cursor.rest.dropWhile Unicode.isAsciiWord := by
  obtain ⟨_, rest_eq, _⟩ := Rule.eq_of_match? found
  obtain ⟨reserved, stops⟩ := accepts_reservedWord.mp (accepts_of_match? found)
  have word : ∀ char ∈ matched.text, Unicode.isAsciiWord char = true := fun char member => by
    simp [Unicode.isAsciiWord, reserved.isAsciiLetter_of_mem member]
  rw [rest_eq, List.takeWhile_append_of_pos word, List.dropWhile_append_of_pos word]
  cases following_eq : matched.following with
  | nil => simp
  | cons char following =>
      rw [following_eq, List.head?_cons, Option.any_some] at stops
      have outside : ¬ Unicode.isAsciiWord char = true := fun inside => by
        rw [Unicode.isWord_of_isAsciiWord inside] at stops
        cases stops
      simp [outside]

/-- At a letter, only reserved words and symbols come into question. -/
theorem eq_reservedWord_or_symbol_of_match? (code : form.state = initialState)
    (found : (form.rule options).match? cursor = some matched)
    (rest_eq : cursor.rest = char :: more) (inside : letter.contains char = true) :
    form = reservedWord ∨ form = symbol := by
  obtain ⟨others, text_eq, _⟩ := exists_cons_of_match? found rest_eq
  have appears := appearance_of_match? found code
  rw [text_eq, ofText_of_letter inside] at appears
  exact eq_of_appearance_eq_symbol appears

/-- Whichever of the two it is, it is all of the word. -/
theorem text_eq_takeWhile_of_match? (code : form.state = initialState)
    (found : (form.rule options).match? cursor = some matched)
    (rest_eq : cursor.rest = char :: more) (inside : letter.contains char = true) :
    matched.text = cursor.rest.takeWhile Unicode.isAsciiWord := by
  rcases eq_reservedWord_or_symbol_of_match? code found rest_eq inside with rfl | rfl
  · exact (takeWhile_of_match?_reservedWord found).1
  · obtain ⟨word, wordFound, text_eq⟩ := exists_match?_symbol options rest_eq inside
    cases found.symm.trans wordFound
    exact text_eq

/-- Whether a reserved word is matched depends on the word that stands there. -/
theorem match?_reservedWord_eq_none
    (unreserved : ¬ (Reserved (cursor.rest.takeWhile Unicode.isAsciiWord) ∧
      (cursor.rest.dropWhile Unicode.isAsciiWord).head?.any Unicode.isWord = false)) :
    (reservedWord.rule options).match? cursor = none := by
  rw [Option.eq_none_iff_forall_ne_some]
  intro matched found
  obtain ⟨text_eq, following_eq⟩ := takeWhile_of_match?_reservedWord found
  rw [← text_eq, ← following_eq] at unreserved
  exact unreserved (accepts_reservedWord.mp (accepts_of_match? found))

end Form

/-! ## Words handed out -/

/-- At a letter, the word that stands there is handed out. -/
theorem emits_of_letter {options : Options} {σ : Type} {fallback : Fallback σ (Token Category)}
    {session : Session σ (Token Category)} {char : Char} {more : Text}
    (ready : Lexer.Ready ⟨tableOf options Form.all, fallback⟩ session)
    (state_eq : session.state = initialState) (rest_eq : session.cursor.rest = char :: more)
    (inside : Form.letter.contains char = true) :
    Lexer.Emits ⟨tableOf options Form.all, fallback⟩ session
      (wordCategory (session.cursor.rest.takeWhile Unicode.isAsciiWord)
        (session.cursor.rest.dropWhile Unicode.isAsciiWord))
      (session.cursor.rest.takeWhile Unicode.isAsciiWord) initialState := by
  -- all matches are equally long, so it is a matter of order
  have longest : ∀ {form kind : Form} {matched other : Match}, form.state = initialState →
      (form.rule options).match? session.cursor = some matched → kind.state = form.state →
      (kind.rule options).match? session.cursor = some other → other.size ≤ matched.size := by
    intro form kind matched other code found kindCode otherFound
    rw [Match.size, Match.size, Form.text_eq_takeWhile_of_match? code found rest_eq inside,
      Form.text_eq_takeWhile_of_match? (kindCode.trans code) otherFound rest_eq inside]
  unfold wordCategory
  split
  · rename_i reserved
    obtain ⟨matched, found⟩ :
        ∃ matched, (Form.reservedWord.rule options).match? session.cursor = some matched :=
      Form.exists_match?_of_accepts List.takeWhile_append_dropWhile.symm
        (Form.accepts_reservedWord.mpr reserved)
    rw [← (Form.takeWhile_of_match?_reservedWord found).1]
    exact emits_of_match? ready found state_eq.symm (longest rfl found) (absurd · (by decide)) rfl
  · rename_i unreserved
    obtain ⟨matched, found, text_eq⟩ := Form.exists_match?_symbol options rest_eq inside
    rw [← text_eq]
    exact emits_of_match? ready found state_eq.symm (longest rfl found)
      (fun _ => Form.match?_reservedWord_eq_none unreserved) rfl

/-! ## Words among the tokens of an input -/

/-- If a lexeme is handed out, it is as a token of its category. -/
theorem Form.eq_token_of_mem_tokens {options : Options} {form : Form} {matched : Match}
    {context : Context} {token : Token Category}
    (member : token ∈ (form.action options matched context).outcome.tokens) :
    token = matched.token form.category := by
  have kept : ∀ {category keep}, token ∈ (trivia category keep matched).tokens →
      token = matched.token category := by
    intro category keep member
    cases keep with
    | false => contradiction
    | true => exact List.mem_singleton.mp member
  cases form with
  | integer =>
      change token ∈ (integerAction matched context).outcome.tokens at member
      unfold integerAction at member
      split at member
      · contradiction
      · exact List.mem_singleton.mp member
  | whiteSpace => exact kept member
  | lineComment => exact kept member
  | commentOpen => exact kept member
  | commentBody => exact kept member
  | commentClose => exact kept member
  | _ => exact List.mem_singleton.mp member

/-- Each token of an input without errors is spelled in a form of its category. -/
theorem exists_form_of_munches {options : Options} {cursor : Cursor} {state : StateId}
    {tokens : List (Token Category)}
    (munches : (tableOf options Form.all).Munches cursor state tokens) :
    ∀ token ∈ tokens, ∃ form last following, Form.category form = token.kind ∧
      form.regex.Accepts last token.text following := by
  induction munches with
  | @step cursor state candidate decision tokens foremost decided _ ih =>
      intro token member
      rcases List.mem_append.mp member with here | later
      · obtain ⟨form, _, fits⟩ := exists_form_of_offers foremost.offered
        rw [← decided, fits.rule_eq] at here
        obtain rfl := Form.eq_token_of_mem_tokens here
        exact ⟨form, _, _, rfl, fits.accepted⟩
      · exact ih token later
  | finish _ _ => simp

section

variable {options : Options} {input : Text} {tokens : List (Token Category)}
  {token : Token Category}

/-- No token that is spelled like an identifier is white space. -/
theorem kind_ne_whiteSpace_of_isIdentifier (succeeded : tokenize options input = .ok tokens)
    (member : token ∈ tokens) (identifier : IsIdentifier token.text) :
    token.kind ≠ .whiteSpace := by
  obtain ⟨form, last, following, category_eq, accepted⟩ :=
    exists_form_of_munches (tokenize_eq_ok_iff.mp succeeded) token member
  intro blank
  obtain rfl : form = .whiteSpace := by
    rw [blank] at category_eq
    cases form with
    | whiteSpace => rfl
    | _ => cases category_eq
  obtain ⟨first, others, text_eq, inside⟩ := identifier.exists_letter
  rw [text_eq] at accepted
  have blank : Unicode.isBlank first = true :=
    (accepts_run.mp accepted).2 first List.mem_cons_self
  rw [Unicode.isBlank_of_isAsciiWord (Form.isAsciiWord_of_letter inside)] at blank
  cases blank

/-- What is neither white space nor a comment is handed out by default as well. -/
theorem exists_tokenize_default (succeeded : tokenize options input = .ok tokens)
    (member : token ∈ tokens) (plain : token.kind.isTrivia = false) :
    ∃ others, tokenize {} input = .ok others ∧ token ∈ others := by
  have kept : tokenize options input =
      (tokenize .keepTrivia input).map (List.filter options.keeps) :=
    tokenizeWith_eq_map_filter Fallback.fail options input
  have default : tokenize {} input =
      (tokenize .keepTrivia input).map (List.filter (Options.keeps {})) :=
    tokenizeWith_eq_map_filter Fallback.fail {} input
  cases all_eq : tokenize .keepTrivia input with
  | error error =>
      rw [kept, all_eq] at succeeded
      cases succeeded
  | ok all =>
      rw [kept, all_eq] at succeeded
      obtain rfl : all.filter options.keeps = tokens := Except.ok.inj succeeded
      have among := (List.mem_filter.mp member).1
      refine ⟨all.filter (Options.keeps {}), by rw [default, all_eq]; rfl, ?_⟩
      apply List.mem_filter.mpr
      refine ⟨among, ?_⟩
      unfold Options.keeps
      cases kind_eq : token.kind with
      | whiteSpace => simp [kind_eq, Category.isTrivia] at plain
      | comment => simp [kind_eq, Category.isTrivia] at plain
      | _ => rfl

/-- In an input without errors, a token that is no comment and spelled like an identifier is a
reserved word if it is listed, and a symbol if not. -/
theorem kind_eq_of_isIdentifier (succeeded : tokenize options input = .ok tokens)
    (member : token ∈ tokens) (code : token.kind ≠ .comment)
    (identifier : IsIdentifier token.text) :
    token.kind = if Form.Reserved token.text then .reservedWord else .symbol := by
  have dark := kind_ne_whiteSpace_of_isIdentifier succeeded member identifier
  have plain : token.kind.isTrivia = false := by
    cases kind_eq : token.kind with
    | whiteSpace => exact absurd kind_eq dark
    | comment => exact absurd kind_eq code
    | _ => rfl
  obtain ⟨others, succeeded, member⟩ := exists_tokenize_default succeeded member plain
  obtain ⟨form, category_eq, lexeme⟩ :=
    exists_lexeme_of_munches (tokenize_eq_ok_iff.mp succeeded) token member
  obtain ⟨cursor, matched, found, text_eq⟩ := lexeme.found
  have appears := Form.appearance_of_match? found lexeme.state_eq
  rw [text_eq] at appears
  have spelled : Form.ofText token.text = .symbol := by
    obtain ⟨first, rest, spelling, inside⟩ := identifier.exists_letter
    rw [spelling]
    exact Form.ofText_of_letter inside
  rw [← category_eq]
  rcases Form.eq_of_appearance_eq_symbol (appears.trans spelled) with rfl | rfl
  · have reserved := (Form.accepts_reservedWord.mp (Form.accepts_of_match? found)).1
    rw [text_eq] at reserved
    rw [if_pos reserved]
    rfl
  · rw [if_neg (lexeme.unreserved rfl)]
    rfl

end

/-- Reserved words and symbols.  Whatever the options, the fallback and the history of a lexer: where
it looks for a token outside block comments and a letter or an underscore comes next, it hands out
the longest run of letters, digits and underscores, as a reserved word if it is listed and no
character of words follows, and as a symbol otherwise.  So in an input without errors a token that is
no comment and spelled like an identifier is a reserved word if it is listed, and a symbol if not. -/
theorem emits_word (options : Options) :
    (∃ table, rules options = .ok table ∧
      ∀ (σ : Type) (fallback : Fallback σ (Token Category)) (session : Session σ (Token Category))
          (char : Char) (more : Text),
        let lexer : Lexer σ (Token Category) := ⟨table, fallback⟩
        let word := session.cursor.rest.takeWhile Unicode.isAsciiWord
        let following := session.cursor.rest.dropWhile Unicode.isAsciiWord
        lexer.Visits session → session.pending = [] → session.state = initialState →
        session.cursor.rest = char :: more → Unicode.isAsciiLetter char = true ∨ char = '_' →
        lexer.Emits session (wordCategory word following) word initialState) ∧
      ∀ input tokens, tokenize options input = .ok tokens → ∀ token ∈ tokens,
        token.kind ≠ .comment → IsIdentifier token.text →
        token.kind = if Form.Reserved token.text then .reservedWord else .symbol := by
  refine ⟨⟨tableOf options Form.all, rules_eq_map options, ?_⟩, ?_⟩
  · intro σ fallback session char more lexer word following visited pending_eq state_eq rest_eq inside
    have ready : lexer.Ready session :=
      visited.ready (decisive_tableOf options) pending_eq (rest_eq ▸ List.cons_ne_nil _ _)
    exact emits_of_letter ready state_eq rest_eq (Form.contains_letter.mpr inside)
  · intro input tokens succeeded token member code identifier
    exact kind_eq_of_isIdentifier succeeded member code identifier

/-- In front of a letter outside ASCII, a listed word is a symbol. -/
theorem emits_word_foreign :
    (∃ table, rules {} = .ok table ∧
      let lexer : Lexer Unit (Token Category) := ⟨table, Fallback.skip⟩
      lexer.Emits (lexer.start "foré".toList ()) .symbol "for".toList initialState ∧
        lexer.Emits (lexer.start "foreach x".toList ()) .reservedWord "foreach".toList
          initialState) ∧
      ∃ token, tokenize {} "foreach".toList = .ok [token] ∧ token.text = "foreach".toList ∧
        token.kind = if Form.Reserved token.text then .reservedWord else .symbol := by
  constructor
  · obtain ⟨table, built, emits⟩ := (emits_word {}).1
    refine ⟨table, built, ?_, ?_⟩
    · exact emits Unit Fallback.skip _ 'f' _ (.between _ () []) rfl rfl rfl (by decide)
    · exact emits Unit Fallback.skip _ 'f' _ (.between _ () []) rfl rfl rfl (by decide)
  · have found : (tokenize {} "foreach".toList).toOption.map
        (List.map fun token => (token.kind, token.text)) =
          some [(.reservedWord, "foreach".toList)] := by
      rw [tokenize_of_rules_eq (rules_eq_map {})]
      decide +kernel
    cases succeeded : tokenize {} "foreach".toList with
    | error error =>
        rw [succeeded] at found
        cases found
    | ok tokens =>
        rw [succeeded] at found
        obtain ⟨token, rfl, pair_eq⟩ := List.map_eq_singleton_iff.mp (Option.some.inj found)
        obtain ⟨kind_eq, text_eq⟩ := Prod.mk.inj pair_eq
        have identifier : IsIdentifier token.text := by
          rw [text_eq]
          exact ⟨.inl (by decide), List.all_eq_true.mp (by decide)⟩
        exact ⟨token, rfl, text_eq, (emits_word {}).2 _ _ succeeded token List.mem_cons_self
          (by rw [kind_eq]; decide) identifier⟩

end Munch.NewtonScript
