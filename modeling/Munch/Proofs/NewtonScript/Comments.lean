import Mathlib.Data.List.DropRight
import Munch.Proofs.NewtonScript.Starts

/-!
# Block comments

A block comment goes on to the first `*/`, or to the end of the input.  It is handed out in parts
(`commentParts`): the opening signs, what stands in front of the last run of stars, and those stars
with the slash that may follow them (`emits_comment`).  Inside a block comment the fallback is never
asked.

The rule for the body matches round by round, and a round is a character that is no star or a run of
stars with a character that does not close the comment.  So it goes on to the last run of stars.
There only the rule for the closing sign goes on behind the stars, if a slash follows.
-/

namespace Munch.NewtonScript

open Regex

/-- The parts of a block comment: the opening signs, the text up to the last run of stars, and those
stars with the closing signs.  No part is empty. -/
def commentParts (body closing : Text) : List Text :=
  ['/', '*'] ::
    [body.rdropWhile (· == '*'), body.rtakeWhile (· == '*') ++ closing].filter (· ≠ [])

example : commentParts "a ** b*".toList "*/".toList = ["/*".toList, "a ** b".toList, "**/".toList] ∧
    commentParts "".toList "*/".toList = ["/*".toList, "*/".toList] ∧
    commentParts "**".toList [] = ["/*".toList, "**".toList] := by
  decide

namespace Form

/-! ## The rounds of a body -/

variable {last : Option Char} {stars text rest : Text} {char : Char}

/-- A round: a character that is no star, or stars and a character that does not close the
comment. -/
def commentPart : Regex :=
  alt (oneOf (.outside ['*'])) (cat (run (.single '*')) (oneOf (.outside ['*', '/'])))

theorem starred_concat (starred : ∀ sign ∈ stars, sign = '*') :
    ∀ sign ∈ stars ++ ['*'], sign = '*' := by
  simpa [or_imp, forall_and] using starred

theorem prefers_stars (something : stars ≠ []) (inside : ∀ sign ∈ stars, sign = '*')
    (stops : rest.head? ≠ some '*') : (run (.single '*')).Prefers last stars rest := by
  apply prefers_run something
  · intro sign member
    exact CharClass.contains_single.mpr (inside sign member)
  · cases rest with
    | nil => rfl
    | cons char rest =>
        have other : char ≠ '*' := fun same => stops (congrArg some same)
        exact Bool.eq_false_iff.mpr fun starred => other (CharClass.contains_single.mp starred)

theorem prefers_commentPart (inside : ∀ sign ∈ stars, sign = '*') (other : char ≠ '*')
    (opened : stars ≠ [] → char ≠ '/') : commentPart.Prefers last (stars ++ [char]) rest := by
  cases stars with
  | nil => exact .alt (prefers_oneOf (CharClass.contains_outside.mpr (by simpa using other)))
  | cons star stars =>
      have starred : star = '*' := inside star List.mem_cons_self
      have next : char ∉ ['*', '/'] := by
        simpa using ⟨other, opened (List.cons_ne_nil _ _)⟩
      refine .alt_of_refuses (.cat (prefers_stars (List.cons_ne_nil _ _) inside ?_)
        (prefers_oneOf (CharClass.contains_outside.mpr next))) (.oneOf ?_)
      · simpa using other
      · rw [starred]
        rfl

/-- In front of stars behind which the comment is closed or the input ends, there is no round. -/
theorem refuses_commentPart (inside : ∀ sign ∈ stars, sign = '*')
    (ends : ∀ char ∈ rest.head?, char = '/') (started : stars = [] → rest = []) :
    commentPart.Refuses last (stars ++ rest) := by
  refine .alt (.oneOf ?_) (.cat ?_)
  · cases stars with
    | nil =>
        rw [started rfl]
        rfl
    | cons star stars =>
        rw [inside star List.mem_cons_self]
        rfl
  · intro front back text_eq accepted
    have frontInside : ∀ sign ∈ front, sign = '*' := fun sign member =>
      CharClass.contains_single.mp ((accepts_run.mp accepted).2 sign member)
    apply Refuses.oneOf
    cases back with
    | nil => rfl
    | cons char back =>
        -- another star, or the first sign behind the stars
        by_cases starred : char = '*'
        · rw [starred]
          rfl
        · have rest_eq : rest.dropWhile (· == '*') = char :: back := by
            have behind := congrArg (List.dropWhile (· == '*')) text_eq
            rwa [List.dropWhile_append_of_pos (by simpa using inside),
              List.dropWhile_append_of_pos (by simpa using frontInside),
              List.dropWhile_cons_of_neg (by simpa using starred)] at behind
          cases rest with
          | nil => cases rest_eq
          | cons slash rest =>
              obtain rfl : slash = '/' := ends slash rfl
              obtain ⟨rfl, _⟩ := List.cons.inj rest_eq
              rfl

/-- A text without closing signs that does not end with a star is read in as many rounds as there
are. -/
theorem exhausts_commentPart (inside : ∀ sign ∈ stars, sign = '*') (something : text ≠ [])
    (ended : text.getLast? ≠ some '*') (unclosed : ¬ ['*', '/'] <:+: stars ++ text)
    (stops : ∀ last, commentPart.Refuses last rest) :
    commentPart.Exhausts last (stars ++ text) rest := by
  -- stars are put aside up to the character that makes a round of them
  induction text generalizing stars last with
  | nil => contradiction
  | cons char text ih =>
      have following : text ≠ [] → text.getLast? ≠ some '*' := by
        intro more
        rwa [List.getLast?_cons_of_ne_nil more] at ended
      by_cases starred : char = '*'
      · have more : text ≠ [] := by
          rintro rfl
          exact ended (congrArg some starred)
        rw [List.append_cons] at unclosed ⊢
        subst starred
        exact ih (starred_concat inside) more (following more) unclosed
      · have opened : stars ≠ [] → char ≠ '/' := by
          rintro starts rfl
          obtain ⟨front, star, rfl⟩ := (List.eq_nil_or_concat' stars).resolve_left starts
          obtain rfl : star = '*' := inside star (by simp)
          exact unclosed ⟨front, text, by simp⟩
        have round : commentPart.Prefers last (stars ++ [char]) (text ++ rest) :=
          prefers_commentPart inside starred opened
        have moves : stars ++ [char] ≠ [] := by simp
        by_cases single : text = []
        · subst single
          exact .once round moves (stops _)
        · rw [List.append_cons]
          have later : ¬ ['*', '/'] <:+: [] ++ text := fun closed =>
            unclosed (closed.trans ⟨stars ++ [char], [], by simp⟩)
          have others : commentPart.Exhausts (behind last (stars ++ [char])) ([] ++ text) rest :=
            ih (by simp) single (following single) later
          exact .again round moves others

/-! ## Matches -/

variable {cursor : Cursor} {front : Text} {form : Form}

/-- Inside a block comment, only its body and its closing sign come into question. -/
theorem eq_commentBody_or_commentClose (inside : form.state = commentState) :
    form = commentBody ∨ form = commentClose := by
  cases form with
  | commentBody => exact .inl rfl
  | commentClose => exact .inr rfl
  | _ => contradiction

/-- The body is matched up to the last run of stars. -/
theorem exists_match?_commentBody (options : Options) (something : front ≠ [])
    (ended : front.getLast? ≠ some '*') (unclosed : ¬ ['*', '/'] <:+: front)
    (stops : ∀ last, commentPart.Refuses last rest) (rest_eq : cursor.rest = front ++ rest) :
    ∃ matched, (commentBody.rule options).match? cursor = some matched ∧ matched.text = front := by
  have exhausts : commentPart.Exhausts cursor.passed.head? ([] ++ front) rest :=
    exhausts_commentPart (by simp) something ended unclosed stops
  exact Rule.exists_match?_of_prefers rest_eq exhausts.prefers.alt

/-- Where no round is left, the body is a run of stars. -/
theorem exists_match?_stars (options : Options) (something : stars ≠ [])
    (inside : ∀ sign ∈ stars, sign = '*') (ends : ∀ char ∈ rest.head?, char = '/')
    (rest_eq : cursor.rest = stars ++ rest) :
    ∃ matched, (commentBody.rule options).match? cursor = some matched ∧ matched.text = stars := by
  have prefers : (run (.single '*')).Prefers cursor.passed.head? stars rest :=
    prefers_stars something inside fun starred => absurd (ends '*' starred) (by decide)
  have refuses : commentPart.Refuses cursor.passed.head? (stars ++ rest) :=
    refuses_commentPart inside ends (absurd · something)
  exact Rule.exists_match?_of_prefers rest_eq (prefers.alt_of_refuses refuses.plus)

/-- Any character can be the first of a body. -/
theorem exists_match?_of_cons (options : Options) (rest_eq : cursor.rest = char :: text) :
    ∃ matched, (commentBody.rule options).match? cursor = some matched := by
  have accepted : commentBody.regex.Accepts cursor.passed.head? [char] text := by
    by_cases starred : char = '*'
    · exact .inr (accepts_run.mpr ⟨List.cons_ne_nil _ _, by simpa using starred⟩)
    · exact .inl (.once (.inl ⟨char, CharClass.contains_outside.mpr (by simpa using starred), rfl⟩))
  exact exists_match?_of_accepts rest_eq accepted

/-- The closing sign is matched with all of the stars. -/
theorem exists_match?_commentClose (options : Options) (something : stars ≠ [])
    (inside : ∀ sign ∈ stars, sign = '*') (rest_eq : cursor.rest = stars ++ ['/'] ++ rest) :
    ∃ matched, (commentClose.rule options).match? cursor = some matched ∧
      matched.text = stars ++ ['/'] := by
  refine Rule.exists_match?_of_prefers rest_eq (.cat ?_ (prefers_sign '/'))
  exact prefers_stars something inside (by simp)

end Form

/-! ## Parts handed out -/

section

variable {options : Options} {σ : Type} {fallback : Fallback σ (Token Category)}
  {session : Session σ (Token Category)} {front stars rest : Text}

/-- The opening signs are handed out. -/
theorem emits_commentOpen (ready : Lexer.Ready ⟨tableOf options Form.all, fallback⟩ session)
    (kept : options.keepComments = true) (state_eq : session.state = initialState)
    (rest_eq : session.cursor.rest = '/' :: '*' :: rest) :
    Lexer.Emits ⟨tableOf options Form.all, fallback⟩ session .comment ['/', '*'] commentState := by
  obtain ⟨matched, found, text_eq⟩ :
      ∃ matched, (Form.commentOpen.rule options).match? session.cursor = some matched ∧
        matched.text = ['/', '*'] := Rule.exists_match?_of_prefers rest_eq (prefers_word _)
  rw [← text_eq]
  refine emits_of_match? ready found state_eq.symm ?_ nofun kept
  intro kind other code otherFound
  obtain ⟨others, other_eq, more_eq⟩ := Form.exists_cons_of_match? otherFound rest_eq
  cases others with
  | nil =>
      rw [Match.size, Match.size, other_eq, text_eq]
      decide
  | cons second others =>
      -- what goes on with the star is an opening sign as well
      obtain ⟨rfl, _⟩ := List.cons.inj more_eq
      have appears := Form.appearance_of_match? otherFound code
      rw [other_eq] at appears
      obtain rfl : kind = .commentOpen := Form.eq_of_appearance_eq appears (by decide)
      cases found.symm.trans otherFound
      exact Nat.le_refl _

/-- The body is handed out up to the last run of stars. -/
theorem emits_commentBody (ready : Lexer.Ready ⟨tableOf options Form.all, fallback⟩ session)
    (kept : options.keepComments = true) (state_eq : session.state = commentState)
    (something : front ≠ []) (ended : front.getLast? ≠ some '*')
    (unclosed : ¬ ['*', '/'] <:+: front) (stops : ∀ last, Form.commentPart.Refuses last rest)
    (rest_eq : session.cursor.rest = front ++ rest) :
    Lexer.Emits ⟨tableOf options Form.all, fallback⟩ session .comment front commentState := by
  obtain ⟨matched, found, rfl⟩ :=
    Form.exists_match?_commentBody options something ended unclosed stops rest_eq
  refine emits_of_match? ready found state_eq.symm ?_ nofun kept
  intro kind other inside otherFound
  rcases Form.eq_commentBody_or_commentClose inside with rfl | rfl
  · cases found.symm.trans otherFound
    exact Nat.le_refl _
  · -- in front of the slash of a closing sign stand only stars
    obtain ⟨stars, _, other_eq, run, slash⟩ := Form.accepts_of_match? otherFound
    obtain rfl := accepts_sign.mp slash
    obtain ⟨_, comes, _⟩ := Rule.eq_of_match? otherFound
    apply Text.size_le_of_prefix
    rcases List.prefix_or_prefix_of_prefix ⟨_, comes.symm⟩ ⟨_, rest_eq.symm⟩ with
      shorter | longer
    · exact shorter
    · rw [other_eq, List.prefix_concat_iff] at longer
      rcases longer with same | ⟨left, stars_eq⟩
      · exact ⟨[], by rw [List.append_nil, other_eq, same]⟩
      · have last_eq := List.getLast?_eq_some_getLast something
        have member : matched.text.getLast something ∈ stars := by
          rw [← stars_eq]
          exact List.mem_append_left _ (List.getLast_mem something)
        rw [CharClass.contains_single.mp ((accepts_run.mp run).2 _ member)] at last_eq
        contradiction

/-- Stars at the end of the input are handed out. -/
theorem emits_stars (ready : Lexer.Ready ⟨tableOf options Form.all, fallback⟩ session)
    (kept : options.keepComments = true) (state_eq : session.state = commentState)
    (something : stars ≠ []) (starred : ∀ sign ∈ stars, sign = '*')
    (rest_eq : session.cursor.rest = stars) :
    Lexer.Emits ⟨tableOf options Form.all, fallback⟩ session .comment stars commentState := by
  rw [← List.append_nil stars] at rest_eq
  obtain ⟨matched, found, rfl⟩ :=
    Form.exists_match?_stars options something starred (by simp) rest_eq
  refine emits_of_match? ready found state_eq.symm ?_ nofun kept
  intro kind other inside otherFound
  rcases Form.eq_commentBody_or_commentClose inside with rfl | rfl
  · cases found.symm.trans otherFound
    exact Nat.le_refl _
  · -- all that is left are stars
    obtain ⟨_, comes, _⟩ := Rule.eq_of_match? otherFound
    apply Text.size_le_of_prefix
    rw [List.append_nil] at rest_eq
    exact ⟨_, comes.symm.trans rest_eq⟩

/-- The closing sign is handed out with all of the stars. -/
theorem emits_commentClose (ready : Lexer.Ready ⟨tableOf options Form.all, fallback⟩ session)
    (kept : options.keepComments = true) (state_eq : session.state = commentState)
    (something : stars ≠ []) (starred : ∀ sign ∈ stars, sign = '*')
    (rest_eq : session.cursor.rest = stars ++ ['/'] ++ rest) :
    Lexer.Emits ⟨tableOf options Form.all, fallback⟩ session .comment (stars ++ ['/'])
      initialState := by
  obtain ⟨matched, found, text_eq⟩ :=
    Form.exists_match?_commentClose options something starred rest_eq
  rw [← text_eq]
  refine emits_of_match? ready found state_eq.symm ?_ nofun kept
  intro kind other inside otherFound
  rcases Form.eq_commentBody_or_commentClose inside with rfl | rfl
  · rw [List.append_assoc] at rest_eq
    obtain ⟨body, bodyFound, body_eq⟩ :=
      Form.exists_match?_stars options something starred (by simp) rest_eq
    cases otherFound.symm.trans bodyFound
    apply Text.size_le_of_prefix
    rw [body_eq, text_eq]
    exact List.prefix_append _ _
  · cases found.symm.trans otherFound
    exact Nat.le_refl _

/-- What closes a block comment behind its last stars, if anything does. -/
def Closing (closing behind : Text) : Prop :=
  closing = ['*', '/'] ∨ closing = [] ∧ behind = []

theorem Closing.refuses {closing behind : Text} (ends : Closing closing behind)
    (starred : ∀ sign ∈ stars, sign = '*') (last : Option Char) :
    Form.commentPart.Refuses last (stars ++ closing ++ behind) := by
  rcases ends with rfl | ⟨rfl, rfl⟩
  · have refuses : Form.commentPart.Refuses last (stars ++ ['*'] ++ '/' :: behind) :=
      Form.refuses_commentPart (Form.starred_concat starred) (by simp) (by simp)
    simpa using refuses
  · rw [List.append_nil]
    exact Form.refuses_commentPart starred (by simp) (fun _ => rfl)

/-- The last stars are handed out with what closes the comment. -/
theorem Closing.emits {closing behind : Text} (ends : Closing closing behind)
    (ready : Lexer.Ready ⟨tableOf options Form.all, fallback⟩ session)
    (kept : options.keepComments = true) (state_eq : session.state = commentState)
    (something : stars ++ closing ≠ []) (starred : ∀ sign ∈ stars, sign = '*')
    (rest_eq : session.cursor.rest = stars ++ closing ++ behind) :
    Lexer.Emits ⟨tableOf options Form.all, fallback⟩ session .comment (stars ++ closing)
      (if closing = [] then commentState else initialState) := by
  rcases ends with rfl | ⟨rfl, rfl⟩
  · rw [List.append_cons] at rest_eq ⊢
    exact emits_commentClose ready kept state_eq (by simp) (Form.starred_concat starred) rest_eq
  · rw [List.append_nil] at something rest_eq ⊢
    rw [List.append_nil] at rest_eq
    exact emits_stars ready kept state_eq something starred rest_eq

/-- Inside a block comment, what is left of it is handed out in two parts at most. -/
theorem emitsAll_commentBody (ready : Lexer.Ready ⟨tableOf options Form.all, fallback⟩ session)
    (kept : options.keepComments = true) (state_eq : session.state = commentState)
    (idle : session.phase = .idle) {body closing behind : Text}
    (unclosed : ¬ ['*', '/'] <:+: body) (ends : Closing closing behind)
    (rest_eq : session.cursor.rest = body ++ closing ++ behind) :
    Lexer.EmitsAll ⟨tableOf options Form.all, fallback⟩ .comment session
      ([body.rdropWhile (· == '*'), body.rtakeWhile (· == '*') ++ closing].filter (· ≠ []))
      { session with
        cursor := session.cursor.past (body ++ closing)
        state := if closing = [] then commentState else initialState } := by
  have body_eq : body.rdropWhile (· == '*') ++ body.rtakeWhile (· == '*') = body :=
    List.rdropWhile_append_rtakeWhile
  have starred : ∀ sign ∈ body.rtakeWhile (· == '*'), sign = '*' := by
    intro sign member
    simpa using List.mem_rtakeWhile_imp member
  have ended : (body.rdropWhile (· == '*')).getLast? ≠ some '*' := by
    intro last_eq
    have something : body.rdropWhile (· == '*') ≠ [] := by
      intro nothing
      rw [nothing] at last_eq
      cases last_eq
    have other := List.rdropWhile_last_not _ _ something
    rw [List.getLast?_eq_some_getLast something] at last_eq
    simp [Option.some.inj last_eq] at other
  generalize body.rdropWhile (· == '*') = front, body.rtakeWhile (· == '*') = stars at *
  subst body_eq
  rw [List.append_assoc, List.append_assoc, ← List.append_assoc stars] at rest_eq
  have unclosedFront : ¬ ['*', '/'] <:+: front := fun closed =>
    unclosed (closed.trans ⟨[], stars, rfl⟩)
  have first := Lexer.EmitsAll.of_emits idle
    (fun something => emits_commentBody ready kept state_eq something ended unclosedFront
      (ends.refuses starred) rest_eq) (fun _ => state_eq.symm)
  let middle : Session σ (Token Category) :=
    { session with cursor := session.cursor.past front, state := commentState }
  have middleReady : Lexer.Ready ⟨tableOf options Form.all, fallback⟩ middle :=
    ⟨ready.clear, ready.pending_eq, ready.unfinished⟩
  have second := Lexer.EmitsAll.of_emits (show middle.phase = .idle from idle)
    (fun something => ends.emits middleReady kept rfl something starred (Cursor.rest_past rest_eq))
    (fun nothing => if_pos (List.append_eq_nil_iff.mp nothing).2)
  have both := first.trans second
  rw [← List.filter_append, ← Cursor.past_append, ← List.append_assoc] at both
  exact both

/-- All parts of a block comment are handed out, up to the closing signs or to the end. -/
theorem emitsAll_comment (ready : Lexer.Ready ⟨tableOf options Form.all, fallback⟩ session)
    (kept : options.keepComments = true) (state_eq : session.state = initialState)
    {body closing behind : Text} (unclosed : ¬ ['*', '/'] <:+: body)
    (ends : Closing closing behind)
    (rest_eq : session.cursor.rest = '/' :: '*' :: (body ++ closing ++ behind)) :
    Lexer.EmitsAll ⟨tableOf options Form.all, fallback⟩ .comment session (commentParts body closing)
      { session with
        cursor := session.cursor.past (['/', '*'] ++ (body ++ closing))
        state := if closing = [] then commentState else initialState
        phase := .idle } := by
  rw [Cursor.past_append]
  refine .cons (emits_commentOpen ready kept state_eq rest_eq) ?_
  have openedReady : Lexer.Ready ⟨tableOf options Form.all, fallback⟩
      { session with
        cursor := session.cursor.past ['/', '*'], state := commentState, phase := .idle } :=
    ⟨ready.clear, ready.pending_eq, nofun⟩
  exact emitsAll_commentBody openedReady kept rfl rfl unclosed ends (Cursor.rest_past rest_eq)

/-- Behind an input that has been read, a pull ends. -/
theorem pulls_of_rest_eq_nil (ready : Lexer.Ready ⟨tableOf options Form.all, fallback⟩ session)
    (ended : session.cursor.rest = []) :
    Lexer.Pulls ⟨tableOf options Form.all, fallback⟩ session
      ⟨.ok none, { session with phase := .done }, []⟩ := by
  refine .scan ready.pending_eq ready.unfinished (.finish ?_ ended)
  intro candidate offered
  obtain ⟨_, rest_eq, _⟩ := Rule.eq_of_match? offered.matching
  rw [ended] at rest_eq
  exact text_ne_nil_of_offers offered (List.append_eq_nil_iff.mp rest_eq.symm).1

/-- Inside a block comment, a pull does not start with the fallback. -/
theorem head?_events_ne_unmatched
    (clear : Lexer.Clear ⟨tableOf options Form.all, fallback⟩ session)
    (state_eq : session.state = commentState) (char : Char) (position : Position)
    (answer : Except LexError (Outcome (Token Category))) :
    (Lexer.next ⟨tableOf options Form.all, fallback⟩ session).events.head? ≠
      some (.unmatched char position answer) := by
  intro first
  obtain ⟨events, events_eq⟩ := List.head?_eq_some_iff.mp first
  have pulls := Lexer.pulls_next ⟨tableOf options Form.all, fallback⟩ session
  generalize Lexer.next ⟨tableOf options Form.all, fallback⟩ session = run at pulls events_eq
  cases pulls with
  | serve _ => cases events_eq
  | ended _ _ => cases events_eq
  | scan _ _ scans =>
      obtain ⟨_, step⟩ := scans.exists_step events_eq
      cases step with
      | unmatched none_left advanced _ =>
          obtain ⟨matched, found⟩ :=
            Form.exists_match?_of_cons options (Cursor.reads_of_advance? advanced).rest_eq
          obtain ⟨_, _, offered⟩ := exists_offers_of_match? found
          rw [show Form.commentBody.state = session.state from state_eq.symm] at offered
          exact none_left _ (clear.offers_iff.mpr offered)

end

/-- Block comments.  Whatever the fallback and the history of a lexer that hands out comments: where
the opening signs come next outside block comments, the parts of a comment are handed out, behind
any tokens that are pending.  If the comment is closed, they go up to the first closing signs, and
the lexer is outside block comments again.  If not, they go up to the end, which is reached without
an error inside the comment.  Wherever the lexer is inside a block comment, also within a pull, what
happens next is not that the fallback is asked. -/
theorem emits_comment (keepWhiteSpace : Bool) :
    ∃ table, rules ⟨keepWhiteSpace, true⟩ = .ok table ∧
      ∀ (σ : Type) (fallback : Fallback σ (Token Category)) (session : Session σ (Token Category)),
        let lexer : Lexer σ (Token Category) := ⟨table, fallback⟩
        lexer.Visits session →
        (∀ rest, session.state = initialState → session.cursor.rest = '/' :: '*' :: rest →
          (∀ body behind, rest = body ++ ['*', '/'] ++ behind → ¬ ['*', '/'] <:+: body →
            let parts := commentParts body ['*', '/']
            let run := lexer.take (session.pending.length + parts.length) session
            run.result = (session.pending ++ session.cursor.tokens Category.comment parts).map .ok ∧
              run.session.state = initialState ∧ run.session.pending = [] ∧
              run.session.cursor.offset = session.cursor.offset + 2 + Text.size body + 2 ∧
              run.session.cursor.rest = behind) ∧
          (¬ ['*', '/'] <:+: rest →
            let parts := commentParts rest []
            let run := lexer.tokenize session
            run.result = .ok (session.pending ++ session.cursor.tokens Category.comment parts) ∧
              run.session.state = commentState ∧ run.session.phase = .done)) ∧
        (session.state = commentState → ∀ char position answer,
          (lexer.next session).events.head? ≠ some (.unmatched char position answer)) := by
  refine ⟨tableOf ⟨keepWhiteSpace, true⟩ Form.all, rules_eq_map _, ?_⟩
  intro σ fallback session lexer visited
  have clear : lexer.Clear session := visited.clear (decisive_tableOf _)
  refine ⟨?_, fun state_eq => head?_events_ne_unmatched clear state_eq⟩
  intro rest state_eq rest_eq
  have ready : lexer.Ready { session with pending := [] } := by
    refine ⟨clear, rfl, fun done => ?_⟩
    have ended := visited.rest_of_done done
    rw [rest_eq] at ended
    cases ended
  constructor
  · intro body behind body_eq unclosed parts run
    rw [body_eq] at rest_eq
    have emitted := emitsAll_comment ready rfl state_eq unclosed (.inl rfl) rest_eq
    obtain ⟨result_eq, session_eq⟩ := emitted.take_eq_of_pending
    have size_eq : Text.size (['/', '*'] ++ (body ++ ['*', '/'])) = 2 + (Text.size body + 2) := by
      rw [Text.size_append, Text.size_append]
      rfl
    refine ⟨result_eq, congrArg Session.state session_eq, congrArg Session.pending session_eq, ?_, ?_⟩
    · calc
        run.session.cursor.offset
            = (session.cursor.past (['/', '*'] ++ (body ++ ['*', '/']))).offset :=
          congrArg (Cursor.offset ∘ Session.cursor) session_eq
        _ = session.cursor.offset + (2 + (Text.size body + 2)) := by
          rw [Cursor.offset_past, size_eq]
        _ = session.cursor.offset + 2 + Text.size body + 2 := by
          rw [Nat.add_assoc, Nat.add_assoc]
    · rw [session_eq]
      exact Cursor.rest_past (by simpa using rest_eq)
  · intro unclosed parts run
    have ends : Closing [] [] := .inr ⟨rfl, rfl⟩
    have emitted := emitsAll_comment ready rfl state_eq unclosed ends (by simpa using rest_eq)
    have ended : (session.cursor.past (['/', '*'] ++ (rest ++ []))).rest = [] :=
      Cursor.rest_past (by simpa using rest_eq)
    obtain ⟨result_eq, session_eq⟩ :=
      emitted.tokenize_eq (pulls_of_rest_eq_nil ⟨clear, rfl, nofun⟩ ended)
    exact ⟨result_eq, congrArg Session.state session_eq, congrArg Session.phase session_eq⟩

/-- A comment that is closed behind several stars, one that is not closed, and a place inside one. -/
theorem emits_comment_stars :
    ∃ table, rules ⟨false, true⟩ = .ok table ∧
      let lexer : Lexer Unit (Token Category) := ⟨table, Fallback.skip⟩
      let closed := lexer.start "/*a**/b".toList ()
      let unclosed := lexer.start "/*/**".toList ()
      let inside := (lexer.start "é*/".toList ()).setState commentState
      (lexer.take 3 closed).result =
          (closed.cursor.tokens Category.comment ["/*".toList, "a".toList, "**/".toList]).map .ok ∧
        (lexer.tokenize unclosed).result =
          .ok (unclosed.cursor.tokens Category.comment ["/*".toList, "/".toList, "**".toList]) ∧
        ∀ char position answer,
          (lexer.next inside).events.head? ≠ some (.unmatched char position answer) := by
  obtain ⟨table, built, comments⟩ := emits_comment false
  refine ⟨table, built, ?_, ?_, ?_⟩
  · obtain ⟨opened, _⟩ := comments Unit Fallback.skip _ (.between "/*a**/b".toList () [])
    obtain ⟨closed, _⟩ := opened "a**/b".toList rfl rfl
    exact (closed "a*".toList "b".toList rfl (by decide)).1
  · obtain ⟨opened, _⟩ := comments Unit Fallback.skip _ (.between "/*/**".toList () [])
    obtain ⟨_, unclosed⟩ := opened "/**".toList rfl rfl
    exact (unclosed (by decide)).1
  · obtain ⟨_, inside⟩ :=
      comments Unit Fallback.skip _ (.between "é*/".toList () [.setState commentState])
    exact inside rfl

end Munch.NewtonScript
