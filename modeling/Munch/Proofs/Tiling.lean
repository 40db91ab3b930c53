import Munch.Proofs.Histories

/-!
# What is read tiles the input

Each accepted match and each character handed to the fallback moves the cursor over its text, and
nothing else moves the cursor.  `Lexer.Step.reads` says this of a single step and
`Lexer.Course.reads` of any number of them, so the texts in their order make up what has been read,
without a gap and without an overlap, however the steps were divided among pulls.
-/

namespace Munch

/-- Spans that follow each other from one offset to another, each from where the one before ends. -/
def Tiles (start : Nat) : List (Nat × Nat) → (stop : Nat) → Prop
  | [], stop => start = stop
  | (first, last) :: spans, stop => first = start ∧ Tiles last spans stop

namespace Lexer

variable {σ τ : Type} {lexer : Lexer σ τ} {session middle final : Session σ τ}

/-- The texts of a course make up what is read in it. -/
theorem Course.reads {events : List (Event τ)} (course : lexer.Course session events final) :
    session.cursor.Reads (events.flatMap Event.text) final.cursor := by
  induction course with
  | refl session => exact .refl session.cursor
  | step step _ ih => exact step.reads.1.trans ih
  | adjust _ _ _ _ ih => exact ih

/-- The spans of a course follow each other. -/
theorem Course.tiles {events : List (Event τ)} (course : lexer.Course session events final) :
    Tiles session.offset (events.filterMap Event.span?) final.offset := by
  induction course with
  | refl => rfl
  | adjust _ _ _ _ ih => exact ih
  | @step session middle final event events step _ ih =>
      obtain ⟨reads, nothing | stretch_eq⟩ := step.reads
      · have stayed : middle.offset = session.offset := by
          have offset_eq := reads.offset_eq
          rwa [Event.text, nothing] at offset_eq
        rw [List.filterMap_cons_none (by simp [Event.span?, nothing]), ← stayed]
        exact ih
      · have span_eq : event.span? = some (session.offset, middle.offset) := by
          rw [Event.span?, stretch_eq]
          exact congrArg (fun offset => some (session.offset, offset)) reads.offset_eq.symm
        rw [List.filterMap_cons_some span_eq]
        exact ⟨rfl, ih⟩

/-- Each event of a course that reads something does so where the texts before it end. -/
theorem Course.stretch_eq {before behind : List (Event τ)} {event : Event τ} {position : Position}
    {text : Text} (course : lexer.Course session (before ++ event :: behind) final)
    (stretch_eq : event.stretch? = some (position, text)) :
    position = session.position.after (before.flatMap Event.text) ∧
      before.flatMap Event.text ++ text <+: session.cursor.rest := by
  obtain ⟨place, next, front, step, _⟩ := course.exists_step
  obtain ⟨reads, nothing | own⟩ := step.reads
  · rw [nothing] at stretch_eq
    contradiction
  · obtain ⟨rfl, rfl⟩ := Prod.mk.inj (Option.some.inj (own.symm.trans stretch_eq))
    refine ⟨front.reads.position_eq, next.cursor.rest, ?_⟩
    rw [List.append_assoc, ← reads.rest_eq, ← front.reads.rest_eq]

/-! ## Ended sessions -/

/-- A scan ends a session only at the end of the input. -/
theorem Scans.rest_of_done {run : Run σ τ (Except LexError (Option τ))}
    (scans : lexer.Scans session run) (done : run.session.phase = .done) :
    run.session.cursor.rest = [] := by
  induction scans with
  | quiet _ _ _ ih => exact ih done
  | token _ _ => simp at done
  | error _ _ => simp at done
  | finish _ ended => exact ended

/-- An ended session has read all of its input. -/
theorem History.rest_of_done {events : List (Event τ)}
    (history : lexer.History session events final)
    (initially : session.phase = .done → session.cursor.rest = []) (done : final.phase = .done) :
    final.cursor.rest = [] := by
  induction history with
  | refl => exact initially done
  | pull pull _ ih =>
      refine ih ?_ done
      cases pull with
      | serve _ => exact initially
      | ended _ _ => exact initially
      | scan _ _ scans => exact scans.rest_of_done
  | setState state _ ih => exact ih initially done

/-! ## Tilings -/

/-- A run from the start of an input tiles what it has read.  `spans` and `texts` are about the byte
offsets and the texts of accepted matches and of characters handed to the fallback; `accepted` and
`unmatched` place each of them in the input. -/
structure Tiling {α : Type} (input : Text) (run : Run σ τ α) : Prop where
  spans : Tiles 0 (run.events.filterMap Event.span?) run.session.offset
  texts : Text.cut? input run.session.offset =
    some (run.events.flatMap Event.text, run.session.cursor.rest)
  whole : run.session.phase = .done → run.events.flatMap Event.text = input
  accepted : ∀ before index matched context decision behind,
    run.events = before ++ .applied index matched context decision :: behind →
    decision.outcome.isReject = false →
    matched.position = Position.start.after (before.flatMap Event.text) ∧
      before.flatMap Event.text ++ matched.text <+: input
  unmatched : ∀ before char position answer behind,
    run.events = before ++ .unmatched char position answer :: behind →
    position = Position.start.after (before.flatMap Event.text) ∧
      before.flatMap Event.text ++ [char] <+: input

/-- Whatever is done with a fresh session, short of starting over, tiles its input. -/
theorem tiling_performAll {input : Text} (fresh : lexer.Fresh input session)
    {operations : List Operation}
    (continued : ∀ operation ∈ operations, operation.isReset = false) :
    Tiling input (lexer.performAll session operations) := by
  obtain ⟨memory, rfl⟩ : ∃ memory, session = lexer.start input memory := ⟨_, fresh.eq_start⟩
  have history : lexer.History (lexer.start input memory) _ _ := history_performAll continued
  have reads := history.course.reads
  have rest_eq : input = _ := reads.rest_eq
  refine ⟨history.course.tiles, ?_, ?_, ?_, ?_⟩
  · apply Text.cut?_eq_some_iff.mpr
    exact ⟨rest_eq, (reads.offset_eq.trans (Nat.zero_add _)).symm⟩
  · intro done
    have ended := history.rest_of_done (fun starting => by contradiction) done
    rw [ended, List.append_nil] at rest_eq
    exact rest_eq.symm
  · intro before index matched context decision behind events_eq accepted
    have course := history.course
    rw [events_eq] at course
    apply course.stretch_eq
    rw [Event.stretch?, accepted]
    rfl
  · intro before char position answer behind events_eq
    have course := history.course
    rw [events_eq] at course
    exact course.stretch_eq rfl

/-- Letters are tokens in state 0 and spaces are passed over.  An empty match is a token too,
anywhere but at the start of the input, and changes between states 0 and 1. -/
def letters : Lexer Unit (Token String) where
  table :=
    { rules :=
        [⟨{ source := "[a-z]" }, Matcher.ofExpr (.oneOf (.range 'a' 'z')), .ofList [0],
            Action.token "LETTER"⟩,
          ⟨{ source := "" }, Matcher.ofExpr .empty, .global,
            fun matched context =>
              ⟨if matched.before.isEmpty then .reject else .emit (matched.token "EDGE"),
                1 - context.state⟩⟩,
          ⟨{ source := " " }, Matcher.ofExpr (.oneOf (.single ' ')), .global, Action.skip⟩] }
  fallback := Fallback.skip

/-- A rejected match, characters of two bytes for the fallback, and empty matches that change the
state. -/
theorem tiling_performAll_letters :
    letters.Fresh ['é', 'a', 'é', ' ', 'b'] (letters.start ['é', 'a', 'é', ' ', 'b'] ()) ∧
      (∀ operation ∈ [.next, .setState 0, .tokenize], Operation.isReset operation = false) ∧
      (letters.performAll (letters.start ['é', 'a', 'é', ' ', 'b'] ())
        [.next, .setState 0, .tokenize]).events.map Event.span? =
          [none, some (0, 2), some (2, 3), some (3, 3), some (3, 5), some (5, 6), some (6, 6),
            some (6, 7), some (7, 7)] ∧
      Tiling ['é', 'a', 'é', ' ', 'b']
        (letters.performAll (letters.start ['é', 'a', 'é', ' ', 'b'] ())
          [.next, .setState 0, .tokenize]) :=
  ⟨.start (), by decide, by decide, tiling_performAll (.start ()) (by decide)⟩

end Lexer

end Munch
