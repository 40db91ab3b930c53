import Munch.Proofs.Narrowing
import Munch.Proofs.Progress
import Munch.Proofs.Regex.Reading

/-!
# Every access is in bounds

Offsets into an input are usable only up to its end and between two characters, and the list of
tried rules can be asked about the rules of the table only.  `Lexer.Sound` is what a session has to
satisfy for that: its offset is such an offset, its place is the one behind the text read, and it has
a mark for each rule.  Each step keeps this, and so does every operation.

`Lexer.Safe` and `Match.Safe` list the accesses that a sound session and its matches allow, by byte
offsets into the input, and say that all of them succeed.
-/

namespace Munch

/-! ## Matches -/

/-- A text stands in an input, between two offsets. -/
def Text.HasPiece (input text : Text) : Prop :=
  ∃ first last piece, Slice.ofRange? input first last = some piece ∧ piece.text = text

/-- Everything that can be seen of the input through a match is there: the match itself, the text on
both sides, what its groups have read, and each part of it for which a token can be asked. -/
structure Match.Safe (input : Text) (matched : Match) : Prop where
  slice : Slice.ofRange? input matched.start matched.stop = some matched.slice
  preceding : Text.cut? input matched.start =
    some (matched.preceding, matched.text ++ matched.following)
  following : Text.cut? input matched.stop =
    some (matched.preceding ++ matched.text, matched.following)
  groups : ∀ index text, matched.group? index = some text → Text.HasPiece input text
  named : ∀ name text, matched.named? name = some text → Text.HasPiece input text
  parts : ∀ first last piece, matched.slice.sub? first last = some piece →
    Slice.ofRange? input (matched.start + first) (matched.start + last) = some piece ∧
      ∀ {κ : Type} (kind : κ), ∃ position,
        matched.tokenAt? kind first last = some ⟨kind, piece, position⟩

variable {τ : Type} {input : Text} {cursor : Cursor} {matched : Match}

/-- Any part of a text stands in it. -/
theorem Text.hasPiece_of_infix {text : Text} (inside : text <:+: input) :
    Text.HasPiece input text := by
  obtain ⟨before, behind, rfl⟩ := inside
  let piece : Slice := ⟨before.reverse, text, behind⟩
  have buffer_eq : piece.buffer = before ++ text ++ behind := by simp [piece, Slice.buffer]
  exact ⟨_, _, piece, Slice.ofRange?_eq_some_iff.mpr ⟨buffer_eq, rfl, rfl⟩, rfl⟩

/-- A part of a match for which a token can be asked gives one. -/
theorem Match.exists_tokenAt?_of_sub? {κ : Type} (kind : κ) {first last : Nat} {piece : Slice}
    (narrowed : matched.slice.sub? first last = some piece) :
    ∃ position, matched.tokenAt? kind first last = some ⟨kind, piece, position⟩ := by
  obtain ⟨skipped, left, text_eq, skipped_size, _⟩ := Slice.sub?_eq_some_iff.mp narrowed
  have divided : Text.cut? matched.text first = some (skipped, piece.text ++ left) := by
    apply Text.cut?_eq_some_iff.mpr
    refine ⟨?_, skipped_size⟩
    rw [← List.append_assoc]
    exact text_eq
  refine ⟨matched.position.after skipped, ?_⟩
  simp [tokenAt?, narrowed, divided]

/-- The offset of a cursor that has come from the start is the size of what it has passed. -/
theorem Cursor.Reads.offset_eq_size (reads : (Cursor.start input).Reads cursor.passed.reverse cursor) :
    cursor.offset = Text.size cursor.passed := by
  rw [reads.offset_eq, Text.size_reverse]
  exact Nat.zero_add _

/-- A match at a cursor that has come from the start of an input is safe. -/
theorem Rule.safe_of_match? {rule : Rule τ}
    (reads : (Cursor.start input).Reads cursor.passed.reverse cursor)
    (found : rule.match? cursor = some matched) : matched.Safe input := by
  obtain ⟨before_eq, rest_eq, position_eq⟩ := Rule.eq_of_match? found
  have input_eq : input = matched.preceding ++ (matched.text ++ matched.following) := by
    rw [Match.preceding, before_eq, ← rest_eq]
    exact reads.rest_eq
  have size_eq : Text.size matched.preceding = matched.start := by
    rw [Match.preceding, Text.size_reverse, Match.start, position_eq, before_eq]
    exact reads.offset_eq_size.symm
  have buffer_eq : matched.slice.buffer = input := by
    rw [input_eq]
    exact List.append_assoc _ _ _
  have start_eq : matched.slice.start = matched.start :=
    (Text.size_reverse matched.before).symm.trans size_eq
  have inside : ∀ {index text}, matched.group? index = some text → text <:+: input := by
    intro index text participates
    have part := Rule.infix_of_group? found participates
    exact part.trans ⟨_, _, buffer_eq⟩
  refine ⟨?_, ?_, ?_, ?_, ?_, ?_⟩
  · exact Slice.ofRange?_eq_some_iff.mpr ⟨buffer_eq, start_eq, congrArg (· + _) start_eq⟩
  · exact Text.cut?_eq_some_iff.mpr ⟨input_eq, size_eq⟩
  · apply Text.cut?_eq_some_iff.mpr
    constructor
    · rw [input_eq, List.append_assoc]
    · rw [Text.size_append, size_eq]
      rfl
  · intro index text participates
    exact Text.hasPiece_of_infix (inside participates)
  · intro name text participates
    obtain ⟨index, _, participates⟩ := Option.bind_eq_some_iff.mp participates
    exact Text.hasPiece_of_infix (inside participates)
  · intro first last piece narrowed
    refine ⟨?_, fun kind => Match.exists_tokenAt?_of_sub? kind narrowed⟩
    rw [← start_eq, ← buffer_eq]
    exact Slice.ofRange?_of_sub? narrowed

/-! ## Sessions -/

/-- The input that is read behind an operation, given the one that is read before it. -/
def Operation.inputFrom (input : Text) : Operation → Text
  | reset other => other
  | _ => input

/-- The input that is read behind some operations: that of the last start. -/
def Operation.inputAfter (input : Text) (operations : List Operation) : Text :=
  operations.foldl inputFrom input

namespace Lexer

variable {σ τ : Type} {lexer : Lexer σ τ} {session middle final : Session σ τ} {input : Text}
  {event : Event τ} {events : List (Event τ)}

/-- The offset of a session lies in its input, between two characters; the place of the session is
the one behind the text before the offset; and there is a mark for each rule. -/
structure Sound (lexer : Lexer σ τ) (input : Text) (session : Session σ τ) : Prop where
  inside : session.offset ≤ Text.size input
  boundary : Text.cut? input session.offset =
    some (session.cursor.passed.reverse, session.cursor.rest)
  position_eq : session.position = Position.start.after session.cursor.passed.reverse
  tried_eq : session.tried.length = lexer.table.size

/-- Every access to the input and to the marks at a session succeeds: the rest of the input is there,
each rule has a mark to be read, and the candidates have marks to be set, matches that can be looked
at, and a cursor behind them. -/
structure Safe (lexer : Lexer σ τ) (input : Text) (session : Session σ τ) : Prop where
  remaining : Slice.ofRange? input session.offset (Text.size input) = some session.remaining
  marks : ∀ index, index < lexer.table.size → ∃ mark, session.tried[index]? = some mark
  candidates : ∀ candidate ∈
      lexer.table.candidates session.cursor session.state session.isUntried,
    candidate.index < session.tried.length ∧ candidate.matched.Safe input ∧
      session.cursor.advanceBytes? candidate.size = some candidate.matched.behind

/-- A session is sound if its cursor has come from the start of the input and its marks are
complete. -/
theorem sound_of_reads {text : Text} (reads : (Cursor.start input).Reads text session.cursor)
    (tried_eq : session.tried.length = lexer.table.size) : lexer.Sound input session := by
  have input_eq : input = text ++ session.cursor.rest := reads.rest_eq
  have text_eq : session.cursor.passed.reverse = text := by
    rw [reads.passed_eq]
    simp [Cursor.start]
  have size_eq : session.offset = Text.size text := reads.offset_eq.trans (Nat.zero_add _)
  refine ⟨?_, ?_, ?_, tried_eq⟩
  · rw [size_eq, input_eq, Text.size_append]
    exact Nat.le_add_right _ _
  · rw [text_eq]
    exact Text.cut?_eq_some_iff.mpr ⟨input_eq, size_eq.symm⟩
  · rw [text_eq]
    exact reads.position_eq

theorem Sound.reads (sound : lexer.Sound input session) :
    (Cursor.start input).Reads session.cursor.passed.reverse session.cursor where
  rest_eq := (Text.cut?_eq_some_iff.mp sound.boundary).1
  passed_eq := by simp [Cursor.start]
  position_eq := sound.position_eq

/-- At a sound session every access succeeds. -/
theorem Sound.safe (sound : lexer.Sound input session) : lexer.Safe input session := by
  have input_eq : input = session.cursor.passed.reverse ++ session.cursor.rest :=
    sound.reads.rest_eq
  have size_eq : Text.size session.cursor.passed = session.offset := sound.reads.offset_eq_size.symm
  refine ⟨?_, ?_, ?_⟩
  · apply Slice.ofRange?_eq_some_iff.mpr
    refine ⟨?_, size_eq, ?_⟩
    · rw [input_eq]
      exact List.append_nil _
    · rw [input_eq, Text.size_append, Text.size_reverse]
      rfl
  · intro index inside
    rw [← sound.tried_eq] at inside
    exact ⟨_, List.getElem?_eq_getElem inside⟩
  · intro candidate member
    have offered := Table.mem_candidates_iff.mp member
    have inside := (List.getElem?_eq_some_iff.mp offered.registered).1
    refine ⟨?_, Rule.safe_of_match? sound.reads offered.matching,
      Rule.advanceBytes?_of_match? offered.matching⟩
    rw [sound.tried_eq]
    exact inside

/-! ## Steps and operations -/

/-- Each step keeps a session sound. -/
theorem Step.sound (step : lexer.Step session event middle) (sound : lexer.Sound input session) :
    lexer.Sound input middle :=
  sound_of_reads (sound.reads.trans step.reads.1) (step.length_tried.trans sound.tried_eq)

theorem Course.sound (course : lexer.Course session events final)
    (sound : lexer.Sound input session) : lexer.Sound input final := by
  induction course with
  | refl => exact sound
  | step step _ ih => exact ih (step.sound sound)
  | adjust state pending phase _ ih => exact ih (sound_of_reads sound.reads sound.tried_eq)

theorem sound_start (lexer : Lexer σ τ) (input : Text) (memory : σ) :
    lexer.Sound input (lexer.start input memory) :=
  sound_of_reads (.refl _) (List.length_map _)

/-- Every operation keeps a session sound, over the input that is read behind it. -/
theorem Sound.perform (sound : lexer.Sound input session) (operation : Operation) :
    lexer.Sound (operation.inputFrom input) (lexer.perform session operation).session := by
  cases operation with
  | reset other =>
      have tried_eq : (session.reset other).tried.length = lexer.table.size :=
        (List.length_map _).trans sound.tried_eq
      exact sound_of_reads (.refl _) tried_eq
  | _ => exact (history_perform rfl).course.sound sound

theorem Sound.performAll (sound : lexer.Sound input session) (operations : List Operation) :
    lexer.Sound (Operation.inputAfter input operations)
      (lexer.performAll session operations).session := by
  induction operations generalizing session input with
  | nil => exact sound
  | cons operation operations ih => exact ih (sound.perform operation)

theorem Course.offset_le (course : lexer.Course session events final) :
    session.offset ≤ final.offset := by
  rw [Session.offset, Session.offset, course.reads.offset_eq]
  exact Nat.le_add_right _ _

/-- Whatever is done with a session: between two operations it is sound, and every access at it
succeeds; no operation but a new start lowers the offset; and within an operation each step is taken
from a session that is sound, and at which every access succeeds, to another such session. -/
theorem sound_and_safe_performAll (lexer : Lexer σ τ) (input : Text) (memory : σ)
    (operations : List Operation) :
    let reached := (lexer.performAll (lexer.start input memory) operations).session
    let current := Operation.inputAfter input operations
    lexer.Sound current reached ∧ lexer.Safe current reached ∧
      (∀ operation, Operation.isReset operation = false →
        reached.offset ≤ (lexer.perform reached operation).session.offset) ∧
      ∀ operation before event behind,
        (lexer.perform reached operation).events = before ++ event :: behind →
        ∃ place next, lexer.Course reached before place ∧ lexer.Step place event next ∧
          lexer.Sound current place ∧ lexer.Safe current place ∧
          lexer.Sound current next ∧ lexer.Safe current next := by
  intro reached current
  have sound : lexer.Sound current reached :=
    (lexer.sound_start input memory).performAll operations
  refine ⟨sound, sound.safe, ?_, ?_⟩
  · intro operation continued
    exact (history_perform continued).course.offset_le
  · intro operation before event behind events_eq
    -- a new start has no events, and all other operations are courses from the session reached
    cases continued : operation.isReset with
    | true =>
        cases operation with
        | reset other => simp [perform] at events_eq
        | _ => contradiction
    | false =>
        have course : lexer.Course reached _ _ := (history_perform continued).course
        rw [events_eq] at course
        obtain ⟨place, next, front, step, _⟩ := course.exists_step
        have placeSound := front.sound sound
        have nextSound := step.sound placeSound
        exact ⟨place, next, front, step, placeSound, placeSound.safe, nextSound, nextSound.safe⟩

end Lexer

end Munch
