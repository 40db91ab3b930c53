import Munch.Proofs.Safety

/-!
# Tokens cut from a match

An action can hand out tokens for parts of its match, which it names by byte offsets relative to the
start of the match.  A part exists exactly if its ends are in order and are boundaries of the
matched text.  Where a match stands in its input is known from the cursor of the session that the
action was applied in, and so the place of every part is known too: `Token.Covers` says that a token
is the piece of an input between two offsets and has the place of that piece.

Parts that follow each other through the whole match therefore give tokens that follow each other in
the input, by their offsets as well as by their lines and columns.
-/

namespace Munch

/-! ## Parts of a match -/

/-- A match stands in an input: the input is the text before it, its own and that behind it, and its
place is the one behind the text before it. -/
structure Match.StandsIn (input : Text) (matched : Match) : Prop where
  input_eq : matched.preceding ++ matched.text ++ matched.following = input
  position_eq : matched.position = Position.start.after matched.preceding

/-- A token covers an input between two offsets: its lexeme is the piece of the input there, and its
place is the one behind the text before that piece. -/
structure Token.Covers {κ : Type} (input : Text) (first last : Nat) (token : Token κ) : Prop where
  span_eq : token.span = (first, last)
  lexeme_eq : Slice.ofRange? input first last = some token.lexeme
  position_eq : ∃ before behind, Text.cut? input first = some (before, behind) ∧
    token.position = Position.start.after before

namespace Match

variable {κ : Type} {input : Text} {matched : Match} {kind : κ} {first last : Nat} {token : Token κ}

/-- The token for a part has the lexeme of that part, and its place is the one behind the text that
is skipped. -/
theorem tokenAt?_eq_some_iff :
    matched.tokenAt? kind first last = some token ↔
      token.kind = kind ∧ matched.slice.sub? first last = some token.lexeme ∧
        ∃ skipped rest, Text.cut? matched.text first = some (skipped, rest) ∧
          token.position = matched.position.after skipped := by
  unfold tokenAt?
  constructor
  · intro made
    obtain ⟨lexeme, narrowed, made⟩ := Option.bind_eq_some_iff.mp made
    obtain ⟨⟨skipped, rest⟩, divided, made⟩ := Option.bind_eq_some_iff.mp made
    cases made
    exact ⟨rfl, narrowed, skipped, rest, divided, rfl⟩
  · rintro ⟨rfl, narrowed, skipped, rest, divided, position_eq⟩
    simp [narrowed, divided, ← position_eq]

/-- There is a token for a part exactly if there is such a part. -/
theorem exists_tokenAt?_iff :
    (∃ token, matched.tokenAt? kind first last = some token) ↔
      first ≤ last ∧ last ≤ matched.size ∧ matched.text.IsBoundary first ∧
        matched.text.IsBoundary last := by
  have parts : (∃ piece, matched.slice.sub? first last = some piece) ↔ _ := Slice.exists_sub?_iff
  refine Iff.trans ?_ parts
  constructor
  · rintro ⟨token, made⟩
    exact ⟨token.lexeme, (tokenAt?_eq_some_iff.mp made).2.1⟩
  · rintro ⟨piece, narrowed⟩
    obtain ⟨position, made⟩ := exists_tokenAt?_of_sub? kind narrowed
    exact ⟨_, made⟩

/-- What lies in front of a part within its match, and the text of the part. -/
theorem exists_skipped_of_tokenAt? (made : matched.tokenAt? kind first last = some token) :
    ∃ skipped left, matched.text = skipped ++ token.text ++ left ∧ Text.size skipped = first ∧
      first + Text.size token.text = last ∧ token.position = matched.position.after skipped := by
  obtain ⟨_, narrowed, before, rest, divided, position_eq⟩ := tokenAt?_eq_some_iff.mp made
  obtain ⟨skipped, left, text_eq, size_eq, total, _, _⟩ := Slice.sub?_eq_some_iff.mp narrowed
  have same : Text.cut? matched.text first = some (skipped, token.text ++ left) :=
    Text.cut?_eq_some_iff.mpr ⟨by rw [← List.append_assoc]; exact text_eq, size_eq⟩
  have before_eq : before = skipped :=
    congrArg Prod.fst (Option.some.inj (divided.symm.trans same))
  rw [before_eq] at position_eq
  exact ⟨skipped, left, text_eq, size_eq, total, position_eq⟩

theorem StandsIn.size_preceding (stands : matched.StandsIn input) :
    Text.size matched.preceding = matched.start := by
  rw [start, stands.position_eq, Position.offset_after]
  exact (Nat.zero_add _).symm

/-- The token for a part covers the input where the part stands. -/
theorem StandsIn.covers_of_tokenAt? (stands : matched.StandsIn input)
    (made : matched.tokenAt? kind first last = some token) :
    token.Covers input (matched.start + first) (matched.start + last) := by
  have start_eq : matched.slice.start = matched.start :=
    (Text.size_reverse matched.before).symm.trans stands.size_preceding
  obtain ⟨_, narrowed, _⟩ := tokenAt?_eq_some_iff.mp made
  have lexeme_eq := Slice.ofRange?_of_sub? narrowed
  rw [start_eq] at lexeme_eq
  obtain ⟨_, lexeme_start, lexeme_stop⟩ := Slice.ofRange?_eq_some_iff.mp lexeme_eq
  obtain ⟨skipped, left, text_eq, rfl, _, position_eq⟩ := exists_skipped_of_tokenAt? made
  refine ⟨Prod.ext lexeme_start lexeme_stop, ?_, ?_⟩
  · rw [← stands.input_eq]
    exact lexeme_eq
  · refine ⟨matched.preceding ++ skipped, token.text ++ left ++ matched.following, ?_, ?_⟩
    · apply Text.cut?_eq_some_iff.mpr
      constructor
      · rw [← stands.input_eq, text_eq]
        simp only [List.append_assoc]
      · rw [Text.size_append, stands.size_preceding]
    · rw [position_eq, stands.position_eq, Position.after_append]

end Match

/-! ## Parts that follow each other -/

/-- Tokens stand one behind the other: the first at a given place, and each of the others at the
place behind the text of the one before. -/
def Token.FollowFrom {κ : Type} (position : Position) : List (Token κ) → Prop
  | [] => True
  | token :: tokens => token.position = position ∧ FollowFrom (position.after token.text) tokens

namespace Match

variable {κ : Type} {input : Text} {matched : Match}

/-- The tokens for parts of a match, each given by its kind and the offset at which it ends.  A part
starts where the one before it ends. -/
def tokensFrom? (matched : Match) (first : Nat) : List (κ × Nat) → Option (List (Token κ))
  | [] => some []
  | (kind, last) :: parts => do
      let token ← matched.tokenAt? kind first last
      let tokens ← matched.tokensFrom? last parts
      pure (token :: tokens)

/-- Parts that follow each other up to the end of a match make up what is left of it. -/
theorem StandsIn.exists_tokensFrom? (stands : matched.StandsIn input) {first : Nat}
    {parts : List (κ × Nat)} {skipped rest : Text} (text_eq : matched.text = skipped ++ rest)
    (size_eq : Text.size skipped = first)
    (increasing : (first :: parts.map Prod.snd).Pairwise (· ≤ ·))
    (boundaries : ∀ part ∈ parts, matched.text.IsBoundary part.2)
    (complete : (first :: parts.map Prod.snd).getLast? = some matched.size) :
    ∃ tokens, matched.tokensFrom? first parts = some tokens ∧
      tokens.map Token.kind = parts.map Prod.fst ∧ tokens.flatMap Token.text = rest ∧
      Tiles (matched.start + first) (tokens.map Token.span) matched.stop ∧
      Token.FollowFrom (matched.position.after skipped) tokens := by
  induction parts generalizing first skipped rest with
  | nil =>
      have all_skipped : first = matched.size := Option.some.inj complete
      have nothing : rest = [] := by
        apply Text.size_eq_zero_iff.mp
        rw [size, text_eq, Text.size_append] at all_skipped
        omega
      exact ⟨[], rfl, rfl, nothing.symm, congrArg (matched.start + ·) all_skipped, trivial⟩
  | cons part parts ih =>
      obtain ⟨kind, last⟩ := part
      obtain ⟨later, increasing⟩ := List.pairwise_cons.mp increasing
      obtain ⟨boundary, boundaries⟩ := List.forall_mem_cons.mp boundaries
      have ordered : first ≤ last := later last List.mem_cons_self
      obtain ⟨token, made⟩ : ∃ token, matched.tokenAt? kind first last = some token :=
        exists_tokenAt?_iff.mpr
          ⟨ordered, boundary.le_size, ⟨skipped, rest, text_eq, size_eq⟩, boundary⟩
      obtain ⟨front, left, token_eq, front_size, total, position_eq⟩ :=
        exists_skipped_of_tokenAt? made
      -- what is skipped in front of the part is what was skipped before
      rw [List.append_assoc] at token_eq
      obtain ⟨rfl, rfl⟩ : front = skipped ∧ token.text ++ left = rest := by
        have divided := Text.cut?_eq_some_iff.mpr ⟨text_eq, size_eq⟩
        cases divided.symm.trans (Text.cut?_eq_some_iff.mpr ⟨token_eq, front_size⟩)
        exact ⟨rfl, rfl⟩
      have behind_eq : matched.text = (front ++ token.text) ++ left := by
        rw [text_eq, List.append_assoc]
      have behind_size : Text.size (front ++ token.text) = last := by
        rw [Text.size_append, front_size, total]
      obtain ⟨tokens, others_made, kinds_eq, texts_eq, tiles, follow⟩ :=
        ih behind_eq behind_size increasing boundaries (by simpa using complete)
      have covers := stands.covers_of_tokenAt? made
      have kind_eq := (tokenAt?_eq_some_iff.mp made).1
      refine ⟨token :: tokens, ?_, ?_, ?_, ?_, position_eq, ?_⟩
      · simp [tokensFrom?, made, others_made]
      · rw [List.map_cons, List.map_cons, kinds_eq, kind_eq]
      · rw [List.flatMap_cons, texts_eq]
      · rw [List.map_cons, covers.span_eq]
        exact ⟨rfl, tiles⟩
      · rw [← Position.after_append]
        exact follow

end Match

/-! ## Matches that actions are applied to -/

/-- A match at a cursor that has come from the start of an input stands in that input. -/
theorem Rule.standsIn_of_match? {τ : Type} {rule : Rule τ} {input : Text} {cursor : Cursor}
    {matched : Match} (reads : (Cursor.start input).Reads cursor.passed.reverse cursor)
    (found : rule.match? cursor = some matched) : matched.StandsIn input := by
  obtain ⟨before_eq, rest_eq, position_eq⟩ := Rule.eq_of_match? found
  constructor
  · rw [Match.preceding, before_eq, List.append_assoc, ← rest_eq]
    exact reads.rest_eq.symm
  · rw [position_eq, Match.preceding, before_eq]
    exact reads.position_eq

namespace Lexer

variable {σ τ κ : Type} {lexer : Lexer σ τ} {session : Session σ τ} {input : Text}

/-- What happens in an operation on a sound session happens in a step from a sound session. -/
theorem Sound.exists_step (sound : lexer.Sound input session) {operation : Operation}
    {event : Event τ} (happened : event ∈ (lexer.perform session operation).events) :
    ∃ place next, lexer.Step place event next ∧ lexer.Sound input place := by
  cases continued : operation.isReset with
  | true =>
      cases operation with
      | reset other => simp [Lexer.perform] at happened
      | _ => contradiction
  | false =>
      have course : lexer.Course session _ _ := (history_perform continued).course
      obtain ⟨before, behind, events_eq⟩ := List.append_of_mem happened
      rw [events_eq] at course
      obtain ⟨place, next, front, step, _⟩ := course.exists_step
      exact ⟨place, next, step, front.sound sound⟩

theorem Sound.standsIn_of_applied (sound : lexer.Sound input session) {operation : Operation}
    {index : Nat} {matched : Match} {context : Context} {decision : Decision τ}
    (happened : .applied index matched context decision ∈
      (lexer.perform session operation).events) :
    matched.StandsIn input ∧ context.offset = matched.start := by
  obtain ⟨place, next, step, placeSound⟩ := sound.exists_step happened
  cases step with
  | reject best _ _ =>
      exact ⟨Rule.standsIn_of_match? placeSound.reads best.offered.matching,
        congrArg Position.offset best.offered.position_eq.symm⟩
  | accept best _ _ =>
      exact ⟨Rule.standsIn_of_match? placeSound.reads best.offered.matching,
        congrArg Position.offset best.offered.position_eq.symm⟩

/-- Whatever is done with a session, every match that an action is applied to stands in the input,
at the offset that the action is told.  There is a token for a part of it exactly if the ends of the
part are in order and are boundaries of the match, and this token covers the input there.  Parts
that follow each other from the start of the match to its end have tokens that make up the match and
follow each other, by their offsets and by their places. -/
theorem tokenAt?_of_applied (lexer : Lexer σ τ) (input : Text) (memory : σ)
    (operations : List Operation) (operation : Operation) {index : Nat} {matched : Match}
    {context : Context} {decision : Decision τ}
    (happened : .applied index matched context decision ∈
      (lexer.perform (lexer.performAll (lexer.start input memory) operations).session
        operation).events) :
    let current := Operation.inputAfter input operations
    matched.preceding ++ matched.text ++ matched.following = current ∧
      matched.position = Position.start.after matched.preceding ∧
      Text.size matched.preceding = matched.start ∧ context.offset = matched.start ∧
      (∀ (kind : κ) first last,
        ((∃ token, matched.tokenAt? kind first last = some token) ↔
          first ≤ last ∧ last ≤ matched.size ∧ matched.text.IsBoundary first ∧
            matched.text.IsBoundary last) ∧
        ∀ token, matched.tokenAt? kind first last = some token →
          token.kind = kind ∧
            token.Covers current (matched.start + first) (matched.start + last)) ∧
      ∀ parts : List (κ × Nat),
        (0 :: parts.map Prod.snd).Pairwise (· ≤ ·) →
        (∀ part ∈ parts, matched.text.IsBoundary part.2) →
        (0 :: parts.map Prod.snd).getLast? = some matched.size →
        ∃ tokens, matched.tokensFrom? 0 parts = some tokens ∧
          tokens.map Token.kind = parts.map Prod.fst ∧
          tokens.flatMap Token.text = matched.text ∧
          Tiles matched.start (tokens.map Token.span) matched.stop ∧
          Token.FollowFrom matched.position tokens := by
  intro current
  have sound : lexer.Sound current _ := (lexer.sound_start input memory).performAll operations
  obtain ⟨stands, offset_eq⟩ := sound.standsIn_of_applied happened
  refine ⟨stands.input_eq, stands.position_eq, stands.size_preceding, offset_eq, ?_, ?_⟩
  · intro kind first last
    refine ⟨Match.exists_tokenAt?_iff, ?_⟩
    intro token made
    exact ⟨(Match.tokenAt?_eq_some_iff.mp made).1, stands.covers_of_tokenAt? made⟩
  · intro parts increasing boundaries complete
    have nothing_skipped : matched.text = [] ++ matched.text := rfl
    exact stands.exists_tokensFrom? nothing_skipped rfl increasing boundaries complete

/-- A match is handed out in three parts, which end behind its second, its fourth and its fifth
byte. -/
def inThree : Action (Token String) :=
  fun matched context =>
    ⟨.emitAll ((matched.tokensFrom? 0 [("A", 2), ("B", 4), ("C", 5)]).getD []), context.state⟩

/-- Runs of characters other than spaces are handed out in parts. -/
def runs : Lexer Unit (Token String) where
  table :=
    { rules :=
        [⟨{ source := "[^ ]+" },
            Matcher.ofExpr (.times 1 none true (.oneOf (.compl (.single ' ')))), .global,
            inThree⟩] }
  fallback := Fallback.skip

/-- Behind a new start, a run over two lines, with a character of two bytes that cannot be cut. -/
theorem tokenAt?_of_applied_runs :
    ∃ matched context decision,
      .applied 0 matched context decision ∈
        (runs.perform (runs.performAll (runs.start ['x'] ())
          [.tokenize, .reset [' ', 'a', '\n', 'é', 'b']]).session .next).events ∧
      (¬ ∃ token, matched.tokenAt? "A" 2 3 = some token) ∧
      ∃ tokens, matched.tokensFrom? 0 [("A", 2), ("B", 4), ("C", 5)] = some tokens ∧
        (tokens.map fun token => (token.text, token.span, token.position)) =
          [(['a', '\n'], (1, 3), ⟨1, 2, 1⟩), (['é'], (3, 5), ⟨2, 1, 3⟩),
            (['b'], (5, 6), ⟨2, 2, 5⟩)] ∧
        tokens.flatMap Token.text = matched.text ∧
        Tiles matched.start (tokens.map Token.span) matched.stop ∧
        Token.FollowFrom matched.position tokens := by
  let matched : Match :=
    ⟨[' '], ['a', '\n', 'é', 'b'], [], ⟨1, 2, 1⟩, [some ['a', '\n', 'é', 'b']], []⟩
  have happened : Event.applied 0 matched ⟨0, 1⟩ (inThree matched ⟨0, 1⟩) ∈
      (runs.perform (runs.performAll (runs.start ['x'] ())
        [.tokenize, .reset [' ', 'a', '\n', 'é', 'b']]).session .next).events :=
    List.mem_cons_of_mem _ List.mem_cons_self
  obtain ⟨_, _, _, _, single, chain⟩ := tokenAt?_of_applied runs ['x'] ()
    [.tokenize, .reset [' ', 'a', '\n', 'é', 'b']] .next happened
  refine ⟨matched, _, _, happened, ?_, ?_⟩
  · rw [(single "A" 2 3).1]
    decide
  · obtain ⟨tokens, made, _, texts_eq, tiles, follow⟩ :=
      chain [("A", 2), ("B", 4), ("C", 5)] (by decide) (by decide) (by decide)
    refine ⟨tokens, made, ?_, texts_eq, tiles, follow⟩
    cases made
    rfl

end Lexer

end Munch
