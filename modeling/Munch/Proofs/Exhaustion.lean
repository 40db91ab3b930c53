import Munch.Proofs.Phases

/-!
# Errors and the end are a last resort

A pull reports an error or the end of the input only where no rule is left to be tried.  That a rule
was tried is more than a mark in the session: its action was applied at this place since the cursor
came here, and it was rejected or has matched nothing.

`Table.SpentSince` says this of some rules in terms of what happened.  For the marked rules it holds
along every course of steps (`Lexer.Course.spentSince`), whatever the states in which they were
tried.  Where no candidate is left, the rules without a mark do not match or do not apply in the
state that the pull has come to, so the marked rules are all that could be tried.
-/

namespace Munch

/-! ## Rules that were tried in vain -/

namespace Table

variable {τ : Type}

/-- Whether a rule is there to be tried: it applies in the state and matches at the place. -/
def Applies (table : Table τ) (place : Cursor) (state : StateId) (index : Nat) : Prop :=
  ∃ rule, table.rules[index]? = some rule ∧ rule.states.admits table.policy state = true ∧
    (rule.match? place).isSome

/-- Among the events, the action of a rule was applied to its match at a place, and it has rejected
the match or the match is empty. -/
def Spent (table : Table τ) (place : Cursor) (events : List (Event τ)) (index : Nat) : Prop :=
  ∃ rule matched context, table.rules[index]? = some rule ∧ rule.match? place = some matched ∧
    context.offset = place.offset ∧
    .applied index matched context (rule.action matched context) ∈ events ∧
    ((rule.action matched context).outcome.isReject = true ∨ matched.text = [])

/-- The events lead from the start of an input to a place, and since the cursor came there, each of
the given rules was spent. -/
def SpentSince (table : Table τ) (place : Cursor) (events : List (Event τ)) (rules : Nat → Prop) :
    Prop :=
  ∃ earlier here, events = earlier ++ here ∧
    earlier.flatMap Event.text = place.passed.reverse ∧ here.flatMap Event.text = [] ∧
    ∀ index, rules index → table.Spent place here index

variable {table : Table τ} {place : Cursor} {events : List (Event τ)} {index : Nat}

theorem Spent.of_subset {more : List (Event τ)} (spent : table.Spent place events index)
    (subset : events ⊆ more) : table.Spent place more index := by
  obtain ⟨rule, matched, context, registered, matching, offset_eq, member, vain⟩ := spent
  exact ⟨rule, matched, context, registered, matching, offset_eq, subset member, vain⟩

end Table

/-- The rules that are marked as tried. -/
def Session.Tried {σ τ : Type} (session : Session σ τ) (index : Nat) : Prop :=
  session.tried[index]? = some true

namespace Lexer

variable {σ τ : Type} {lexer : Lexer σ τ} {session middle final : Session σ τ} {event : Event τ}
  {known events : List (Event τ)}

/-! ## Marks -/

theorem Step.text_eq_nil (step : lexer.Step session event middle)
    (cursor_eq : middle.cursor = session.cursor) : event.text = [] := by
  have rest_eq := step.reads.1.rest_eq
  rw [cursor_eq] at rest_eq
  exact List.self_eq_append_left.mp rest_eq

/-- A rule that is tried without the cursor moving is spent. -/
theorem Step.spent {index : Nat} (step : lexer.Step session event middle)
    (trial_eq : event.trial? = some (index, session.offset))
    (cursor_eq : middle.cursor = session.cursor) :
    lexer.table.Spent session.cursor [event] index := by
  have nothing := step.text_eq_nil cursor_eq
  cases step with
  | @reject candidate decision best decided rejected =>
      rw [best.offered.trial?_eq] at trial_eq
      obtain ⟨rfl, _⟩ := Prod.mk.inj (Option.some.inj trial_eq)
      subst decided
      exact ⟨candidate.rule, candidate.matched, session.context, best.offered.registered,
        best.offered.matching, rfl, List.mem_singleton_self _, .inl rejected⟩
  | @accept candidate decision best decided accepted =>
      rw [best.offered.trial?_eq] at trial_eq
      obtain ⟨rfl, _⟩ := Prod.mk.inj (Option.some.inj trial_eq)
      subst decided
      simp only [Event.text, Event.stretch?, accepted] at nothing
      exact ⟨candidate.rule, candidate.matched, session.context, best.offered.registered,
        best.offered.matching, rfl, List.mem_singleton_self _, .inr nothing⟩
  | unmatched _ _ _ => contradiction

/-- A step that moves the cursor leaves no marks, and one that stays adds a mark to what was spent
here. -/
theorem Step.spentSince (step : lexer.Step session event middle)
    (spent : lexer.table.SpentSince session.cursor known session.Tried) :
    lexer.table.SpentSince middle.cursor (known ++ [event]) middle.Tried := by
  obtain ⟨earlier, here, rfl, arrived, stayed, all⟩ := spent
  rcases step.moves_or_marks with ⟨_, _, cleared⟩ | ⟨index, trial_eq, cursor_eq, marked⟩
  · refine ⟨earlier ++ here ++ [event], [], (List.append_nil _).symm, ?_, rfl, ?_⟩
    · rw [step.reads.1.passed_eq]
      simp [arrived, stayed]
    · intro index tried
      rw [Session.Tried, cleared, List.getElem?_map] at tried
      obtain ⟨_, _, mark_eq⟩ := Option.map_eq_some_iff.mp tried
      contradiction
  · have nothing := step.text_eq_nil cursor_eq
    have spent := step.spent trial_eq cursor_eq
    rw [cursor_eq]
    refine ⟨earlier, here ++ [event], List.append_assoc _ _ _, arrived, ?_, ?_⟩
    · simp [stayed, nothing]
    · intro other tried
      by_cases same : other = index
      · subst other
        exact spent.of_subset (List.subset_append_right _ _)
      · have before : session.Tried other := by
          rwa [Session.Tried, marked, List.getElem?_set_ne (Ne.symm same)] at tried
        exact (all other before).of_subset (List.subset_append_left _ _)

/-- Along a course, what is marked was spent. -/
theorem Course.spentSince (course : lexer.Course session events final)
    (spent : lexer.table.SpentSince session.cursor known session.Tried) :
    lexer.table.SpentSince final.cursor (known ++ events) final.Tried := by
  induction course generalizing known with
  | refl => rwa [List.append_nil]
  | step step _ ih =>
      have spent := ih (step.spentSince spent)
      rwa [List.append_assoc] at spent
  | adjust _ _ _ _ ih => exact ih spent

/-! ## Operations -/

/-- What has happened since the last start, behind what is known to have happened before some
operations. -/
def eventsAfter (lexer : Lexer σ τ) (session : Session σ τ) (known : List (Event τ)) :
    List Operation → List (Event τ)
  | [] => known
  | operation :: operations =>
      let run := lexer.perform session operation
      lexer.eventsAfter run.session (if operation.isReset then [] else known ++ run.events)
        operations

theorem spentSince_start (table : Table τ) (input : Text) {session : Session σ τ}
    (cleared : ∀ mark ∈ session.tried, mark = false) :
    table.SpentSince (Cursor.start input) [] session.Tried := by
  refine ⟨[], [], rfl, rfl, rfl, ?_⟩
  intro index tried
  exact absurd (cleared true (List.mem_of_getElem? tried)) (by decide)

theorem spentSince_performAll (operations : List Operation)
    (spent : lexer.table.SpentSince session.cursor known session.Tried) :
    let reached := (lexer.performAll session operations).session
    lexer.table.SpentSince reached.cursor (lexer.eventsAfter session known operations)
      reached.Tried := by
  induction operations generalizing session known with
  | nil => exact spent
  | cons operation operations ih =>
      apply ih
      cases continued : operation.isReset with
      | false => exact (history_perform continued).course.spentSince spent
      | true =>
          cases operation with
          | reset input =>
              have cleared : ∀ mark ∈ (session.reset input).tried, mark = false := by
                simp [Session.reset]
              exact spentSince_start lexer.table input cleared
          | _ => contradiction

/-! ## Pulls -/

/-- A scan with an error has come to a place where no candidate is left, and the fallback has failed
on the character there. -/
theorem Scans.exists_of_error {run : Run σ τ (Except LexError (Option τ))} {error : LexError}
    (scans : lexer.Scans session run) (failed : run.result = .error error) :
    ∃ front place char cursor memory, lexer.Course session front place ∧
      (∀ candidate, ¬ lexer.Offers place candidate) ∧
      place.cursor.advance? = some (char, cursor) ∧
      lexer.fallback char place.position place.memory = (.error error, memory) ∧
      run.events = front ++ [.unmatched char place.position (.error error)] ∧
      run.session = place.abandon cursor memory := by
  induction scans with
  | quiet step _ _ ih =>
      obtain ⟨front, place, char, cursor, memory, course, none_left, advanced, answered, events_eq,
        session_eq⟩ := ih failed
      exact ⟨_ :: front, place, char, cursor, memory, .step step course, none_left, advanced,
        answered, congrArg _ events_eq, session_eq⟩
  | token _ _ => contradiction
  | @error session middle event other step error_eq =>
      obtain rfl := Except.error.inj failed
      cases step with
      | reject _ _ _ => contradiction
      | accept _ _ _ => contradiction
      | @unmatched char cursor answer memory none_left advanced answered =>
          cases answer with
          | ok outcome => contradiction
          | error reported =>
              obtain rfl := Option.some.inj error_eq
              exact ⟨[], session, char, cursor, memory, .refl session, none_left, advanced,
                answered, rfl, rfl⟩
  | finish _ _ => contradiction

/-- A scan without a result has come to the end of the input, and no candidate is left there. -/
theorem Scans.exists_of_end {run : Run σ τ (Except LexError (Option τ))}
    (scans : lexer.Scans session run) (ended : run.result = .ok none) :
    ∃ place, lexer.Course session run.events place ∧
      (∀ candidate, ¬ lexer.Offers place candidate) ∧ place.cursor.rest = [] ∧
      run.session = { place with phase := .done } := by
  induction scans with
  | quiet step _ _ ih =>
      obtain ⟨place, course, none_left, rest_eq, session_eq⟩ := ih ended
      exact ⟨place, .step step course, none_left, rest_eq, session_eq⟩
  | token _ _ => simp at ended
  | error _ _ => contradiction
  | @finish session none_left rest_eq => exact ⟨session, .refl session, none_left, rest_eq, rfl⟩

/-- A sound session stands behind a front of its input. -/
theorem Sound.exists_cursor {input : Text} (sound : lexer.Sound input session) :
    ∃ passed rest, Text.cut? input (Position.start.after passed).offset = some (passed, rest) ∧
      session.cursor = ⟨passed.reverse, rest, Position.start.after passed⟩ := by
  refine ⟨session.cursor.passed.reverse, session.cursor.rest, ?_, ?_⟩
  · rw [← sound.position_eq]
    exact sound.boundary
  · rw [← sound.position_eq, List.reverse_reverse]
    rfl

/-- Where no candidate is left, each rule that could be tried is marked. -/
theorem Sound.tried_of_applies {input : Text} {index : Nat} (sound : lexer.Sound input session)
    (none_left : ∀ candidate, ¬ lexer.Offers session candidate)
    (applies : lexer.table.Applies session.cursor session.state index) : session.Tried index := by
  obtain ⟨rule, registered, admitted, matching⟩ := applies
  obtain ⟨matched, matching⟩ := Option.isSome_iff_exists.mp matching
  have inside := (List.getElem?_eq_some_iff.mp registered).1
  obtain ⟨mark, mark_eq⟩ := sound.safe.marks index inside
  cases mark with
  | true => exact mark_eq
  | false =>
      have untried := Session.isUntried_iff.mpr mark_eq
      exact absurd ⟨registered, admitted, untried, matching⟩ (none_left ⟨index, rule, matched⟩)

/-- Where no candidate is left, all rules that could be tried were spent. -/
theorem Sound.spentSince {input : Text} (sound : lexer.Sound input session)
    (none_left : ∀ candidate, ¬ lexer.Offers session candidate)
    (spent : lexer.table.SpentSince session.cursor events session.Tried) :
    lexer.table.SpentSince session.cursor events
      (lexer.table.Applies session.cursor session.state) := by
  obtain ⟨earlier, here, events_eq, arrived, stayed, all⟩ := spent
  refine ⟨earlier, here, events_eq, arrived, stayed, ?_⟩
  intro index applies
  exact all index (sound.tried_of_applies none_left applies)

/-- A scan fails at a place where all rules that could be tried were spent, on the character that
comes next there. -/
theorem Scans.spentSince_of_error {run : Run σ τ (Except LexError (Option τ))} {error : LexError}
    {input : Text} (scans : lexer.Scans session run) (failed : run.result = .error error)
    (sound : lexer.Sound input session)
    (spent : lexer.table.SpentSince session.cursor known session.Tried) :
    ∃ char passed rest events memory,
      let position := Position.start.after passed
      let place : Cursor := ⟨passed.reverse, char :: rest, position⟩
      Text.cut? input position.offset = some (passed, char :: rest) ∧
        (lexer.fallback char position memory).1 = .error error ∧
        run.session.cursor = ⟨char :: passed.reverse, rest, position.advance char⟩ ∧
        run.events = events ++ [.unmatched char position (.error error)] ∧
        lexer.table.SpentSince place (known ++ events)
          (lexer.table.Applies place run.session.state) := by
  obtain ⟨events, place, char, cursor, memory, course, none_left, advanced, answered, events_eq,
    session_eq⟩ := scans.exists_of_error failed
  have placeSound := course.sound sound
  have placeSpent := placeSound.spentSince none_left (course.spentSince spent)
  obtain ⟨passed, rest, boundary, cursor_eq⟩ := placeSound.exists_cursor
  have position_eq : place.position = Position.start.after passed :=
    congrArg Cursor.position cursor_eq
  rw [position_eq] at answered events_eq
  rw [cursor_eq] at advanced placeSpent
  cases rest with
  | nil => contradiction
  | cons next rest =>
      obtain ⟨rfl, rfl⟩ := Prod.mk.inj (Option.some.inj advanced)
      rw [session_eq]
      exact ⟨next, passed, rest, events, place.memory, boundary, congrArg Prod.fst answered, rfl,
        events_eq, placeSpent⟩

/-- A scan without a result has read all of the input, and all rules that could be tried at its end
were spent. -/
theorem Scans.spentSince_of_end {run : Run σ τ (Except LexError (Option τ))} {input : Text}
    (scans : lexer.Scans session run) (ended : run.result = .ok none)
    (sound : lexer.Sound input session)
    (spent : lexer.table.SpentSince session.cursor known session.Tried) :
    run.session.cursor = ⟨input.reverse, [], Position.start.after input⟩ ∧
      lexer.table.SpentSince run.session.cursor (known ++ run.events)
        (lexer.table.Applies run.session.cursor run.session.state) := by
  obtain ⟨place, course, none_left, rest_eq, session_eq⟩ := scans.exists_of_end ended
  have placeSound := course.sound sound
  obtain ⟨passed, rest, boundary, cursor_eq⟩ := placeSound.exists_cursor
  obtain ⟨input_eq, _⟩ := Text.cut?_eq_some_iff.mp boundary
  rw [cursor_eq] at rest_eq
  obtain rfl : rest = [] := rest_eq
  rw [List.append_nil] at input_eq
  rw [session_eq, input_eq]
  exact ⟨cursor_eq, placeSound.spentSince none_left (course.spentSince spent)⟩

/-- With the failing fallback, and whatever is done before: a pull with an error reports the
character behind the place where it has given up, leaves the cursor behind this character, and has
nothing pending and nothing marked; and every rule that could be tried at that place was spent since
the cursor came there.  The same goes for the end of the input, where a session comes to its end. -/
theorem spentSince_of_error_and_of_end (table : Table τ) (input : Text) (memory : σ)
    (operations : List Operation) :
    let lexer : Lexer σ τ := ⟨table, Fallback.fail⟩
    let reached := (lexer.performAll (lexer.start input memory) operations).session
    let current := Operation.inputAfter input operations
    let before := lexer.eventsAfter (lexer.start input memory) [] operations
    let pull := lexer.next reached
    (∀ error, pull.result = .error error →
      ∃ char position passed rest events,
        error = .unexpected char position ∧
        Text.cut? current position.offset = some (passed, char :: rest) ∧
        position = Position.start.after passed ∧
        pull.session.cursor = ⟨char :: passed.reverse, rest, position.advance char⟩ ∧
        pull.session.pending = [] ∧
        (∀ mark ∈ pull.session.tried, mark = false) ∧
        pull.events = events ++ [.unmatched char position (.error error)] ∧
        let place : Cursor := ⟨passed.reverse, char :: rest, position⟩
        table.SpentSince place (before ++ events) (table.Applies place pull.session.state)) ∧
    (pull.result = .ok none → reached.phase ≠ .done →
      pull.session.cursor = ⟨current.reverse, [], Position.start.after current⟩ ∧
      table.SpentSince pull.session.cursor (before ++ pull.events)
        (table.Applies pull.session.cursor pull.session.state)) := by
  intro lexer reached current before pull
  have sound : lexer.Sound current reached := (lexer.sound_start input memory).performAll operations
  have spent : table.SpentSince reached.cursor before reached.Tried := by
    have cleared : ∀ mark ∈ (lexer.start input memory).tried, mark = false := by
      simp [Lexer.start]
    exact spentSince_performAll operations (spentSince_start table input cleared)
  have pulls : lexer.Pulls reached pull := lexer.pulls_next reached
  clear_value before reached current pull
  constructor
  · intro error failed
    cases pulls with
    | serve _ => contradiction
    | ended _ _ => contradiction
    | scan pending_eq _ scans =>
        have settled := scans.settled pending_eq
        have exhausted := settled.exhausted_iff.mpr ⟨error, congrArg some failed⟩
        obtain ⟨pending_nil, unmarked⟩ := settled.exhausted exhausted
        obtain ⟨char, passed, rest, events, _, boundary, answered, cursor_eq, events_eq, allSpent⟩ :=
          scans.spentSince_of_error failed sound spent
        exact ⟨char, _, passed, rest, events, (Except.error.inj answered).symm, boundary, rfl,
          cursor_eq, pending_nil, unmarked, events_eq, allSpent⟩
  · intro ended going
    cases pulls with
    | serve _ => simp at ended
    | ended _ done => contradiction
    | scan _ _ scans => exact scans.spentSince_of_end ended sound spent

/-- The letter `a` is rejected by one rule in state 0 and by another in state 1, and an empty match
leads from the first of these states to the second. -/
def refusals : Table (Token String) where
  rules :=
    [⟨{ source := "a" }, Matcher.ofExpr (.oneOf (.single 'a')), .ofList [0],
        fun _ context => ⟨.reject, context.state⟩⟩,
      ⟨{ source := "" }, Matcher.ofExpr .empty, .ofList [0],
        fun matched _ => ⟨.emit (matched.token "EDGE"), 1⟩⟩,
      ⟨{ source := "a" }, Matcher.ofExpr (.oneOf (.single 'a')), .ofList [1],
        fun _ context => ⟨.reject, context.state⟩⟩]

/-- An error at a place where two of the rules were tried by the pull before, in another state. -/
theorem spentSince_of_error_and_of_end_refusals :
    let lexer : Lexer Unit (Token String) := ⟨refusals, Fallback.fail⟩
    let place := Cursor.start ['a']
    let pull := lexer.next (lexer.performAll (lexer.start ['a'] ()) [.next]).session
    pull.result = .error (.unexpected 'a' Position.start) ∧
      refusals.Applies place pull.session.state 2 ∧
      ∃ events, refusals.SpentSince place events (refusals.Applies place pull.session.state) := by
  intro lexer place pull
  have failed : pull.result = .error (.unexpected 'a' Position.start) := rfl
  refine ⟨failed, ⟨_, rfl, by decide, by decide⟩, ?_⟩
  obtain ⟨char, position, passed, rest, events, error_eq, boundary, _, _, _, _, _, spent⟩ :=
    (spentSince_of_error_and_of_end refusals ['a'] () [.next]).1 _ failed
  obtain ⟨rfl, rfl⟩ := LexError.unexpected.inj error_eq
  obtain ⟨rfl, rest_eq⟩ := Prod.mk.inj (Option.some.inj (boundary.symm.trans (Text.cut?_zero _)))
  obtain ⟨_, rfl⟩ := List.cons.inj rest_eq
  exact ⟨_, spent⟩

end Lexer

end Munch
