import Munch.Proofs.Protocol

/-!
# What a step does

Whatever else happens in a step, its cursor reads a text, which may be empty, and its rules are
marked or cleared.  `Lexer.Step.reads` is about the cursor: an accepted match and a character handed
to the fallback are read, a rejected match is not.  `Lexer.Step.moves_or_marks` is about progress: a
step moves the cursor and clears the marks, or it stays and marks a rule that was untried.

The number of actions is bounded by `Session.trials`, which counts a trial of each untried rule here
and of each rule at each place behind.  Every trial lowers it, and handing a character to the
fallback does not raise it.  All that is said of sequences of steps rests on these facts.
-/

namespace Munch

/-! ## Reading -/

/-- One cursor stands behind another, with a text between them. -/
structure Cursor.Reads (cursor : Cursor) (text : Text) (moved : Cursor) : Prop where
  rest_eq : cursor.rest = text ++ moved.rest
  passed_eq : moved.passed = text.reverse ++ cursor.passed
  position_eq : moved.position = cursor.position.after text

namespace Cursor.Reads

variable {cursor middle moved : Cursor} {first second : Text}

theorem refl (cursor : Cursor) : cursor.Reads [] cursor :=
  ⟨rfl, rfl, rfl⟩

theorem trans (front : cursor.Reads first middle) (back : middle.Reads second moved) :
    cursor.Reads (first ++ second) moved where
  rest_eq := by rw [front.rest_eq, back.rest_eq, List.append_assoc]
  passed_eq := by rw [back.passed_eq, front.passed_eq, List.reverse_append, List.append_assoc]
  position_eq := by rw [back.position_eq, front.position_eq, Position.after_append]

theorem offset_eq (reads : cursor.Reads first moved) :
    moved.offset = cursor.offset + Text.size first := by
  unfold Cursor.offset
  rw [reads.position_eq, Position.offset_after]

/-- Reading something moves the cursor. -/
theorem moves (reads : cursor.Reads first moved) (something : first ≠ []) :
    cursor.offset < moved.offset ∧ moved.rest.length < cursor.rest.length := by
  have size_ne : Text.size first ≠ 0 := fun size_eq => something (Text.size_eq_zero_iff.mp size_eq)
  have positive := List.length_pos_iff.mpr something
  rw [reads.offset_eq, reads.rest_eq, List.length_append]
  omega

end Cursor.Reads

/-- Reading a character. -/
theorem Cursor.reads_of_advance? {cursor moved : Cursor} {char : Char}
    (advanced : cursor.advance? = some (char, moved)) : cursor.Reads [char] moved := by
  cases rest_eq : cursor.rest with
  | nil => simp [advance?, rest_eq] at advanced
  | cons next rest =>
      simp only [advance?, rest_eq, Option.some.injEq, Prod.mk.injEq] at advanced
      obtain ⟨rfl, rfl⟩ := advanced
      exact ⟨rest_eq, rfl, rfl⟩

/-- Reading a match. -/
theorem Rule.reads_of_match? {τ : Type} {rule : Rule τ} {cursor : Cursor} {matched : Match}
    (found : rule.match? cursor = some matched) : cursor.Reads matched.text matched.behind := by
  obtain ⟨before_eq, rest_eq, position_eq⟩ := Rule.eq_of_match? found
  refine ⟨rest_eq, ?_, ?_⟩
  · rw [← before_eq]
    rfl
  · rw [← position_eq]
    rfl

/-! ## Events -/

namespace Event

variable {τ : Type}

/-- The place and the text of an accepted match, or of a character handed to the fallback. -/
def stretch? : Event τ → Option (Position × Text)
  | applied _ matched _ decision =>
      if decision.outcome.isReject then none else some (matched.position, matched.text)
  | unmatched char position _ => some (position, [char])

/-- The text that the cursor is moved over. -/
def text (event : Event τ) : Text :=
  match event.stretch? with
  | some (_, text) => text
  | none => []

/-- The byte offsets between which that text lies. -/
def span? (event : Event τ) : Option (Nat × Nat) :=
  event.stretch?.map fun (position, text) => (position.offset, position.offset + Text.size text)

/-- The number of the rule whose action was applied, and the byte offset at which. -/
def trial? : Event τ → Option (Nat × Nat)
  | applied index matched _ _ => some (index, matched.start)
  | unmatched _ _ _ => none

/-- The byte offset of the character that the fallback was asked about. -/
def miss? : Event τ → Option Nat
  | applied _ _ _ _ => none
  | unmatched _ position _ => some position.offset

end Event

namespace Session

variable {σ τ : Type}

/-- A bound on the number of actions still to be applied: one for each rule untried here, and at
each place behind one for each rule. -/
def trials (session : Session σ τ) : Nat :=
  session.cursor.rest.length * session.tried.length + session.tried.count false

/-- Besides actions, there is a look for each character that the fallback may be asked about. -/
theorem work_eq (session : Session σ τ) :
    session.work = session.trials + session.cursor.rest.length := by
  unfold work trials
  rw [Nat.mul_succ]
  exact Nat.add_right_comm _ _ _

/-- Where the cursor moves, the marks that are cleared are paid for by the place that is left. -/
theorem trials_le_of_rest_lt {session moved : Session σ τ}
    (shorter : moved.cursor.rest.length < session.cursor.rest.length)
    (cleared : moved.tried = session.tried.map fun _ => false) :
    moved.trials + session.tried.count false ≤ session.trials := by
  have rounds : (moved.cursor.rest.length + 1) * session.tried.length ≤
      session.cursor.rest.length * session.tried.length :=
    Nat.mul_le_mul_right _ shorter
  have untried : (session.tried.map fun _ => false).count false ≤ session.tried.length :=
    Nat.le_trans List.count_le_length (Nat.le_of_eq (List.length_map _))
  rw [Nat.succ_mul] at rounds
  unfold trials
  rw [cleared, List.length_map]
  omega

end Session

namespace Lexer

variable {σ τ : Type} {lexer : Lexer σ τ} {session middle : Session σ τ} {event : Event τ}

/-! ## The cursor -/

/-- A candidate matches where the session stands. -/
theorem Offers.position_eq {candidate : Candidate τ} (offered : lexer.Offers session candidate) :
    candidate.matched.position = session.position :=
  (Rule.eq_of_match? offered.matching).2.2

/-- A step reads its text, which lies where the session stands. -/
theorem Step.reads (step : lexer.Step session event middle) :
    session.cursor.Reads event.text middle.cursor ∧
      (event.stretch? = none ∨ event.stretch? = some (session.position, event.text)) := by
  cases step with
  | @reject candidate decision best _ rejected =>
      have nothing :
          Event.stretch? (.applied candidate.index candidate.matched session.context decision) =
            none := if_pos rejected
      rw [Event.text, nothing]
      exact ⟨.refl _, .inl rfl⟩
  | @accept candidate decision best _ accepted =>
      have stretch_eq :
          Event.stretch? (.applied candidate.index candidate.matched session.context decision) =
            some (session.position, candidate.matched.text) := by
        rw [Event.stretch?, accepted, best.offered.position_eq]
        rfl
      rw [Event.text, stretch_eq]
      exact ⟨Rule.reads_of_match? best.offered.matching, .inr rfl⟩
  | unmatched _ advanced _ => exact ⟨Cursor.reads_of_advance? advanced, .inr rfl⟩

/-! ## Progress -/

theorem Offers.trial?_eq {candidate : Candidate τ} (offered : lexer.Offers session candidate)
    (decision : Decision τ) :
    (Event.applied candidate.index candidate.matched session.context decision).trial? =
      some (candidate.index, session.offset) := by
  rw [Event.trial?, Match.start, offered.position_eq]
  rfl

/-- What is tried is tried here, and was untried. -/
theorem Step.untried_of_trial? {index offset : Nat} (step : lexer.Step session event middle)
    (trial_eq : event.trial? = some (index, offset)) :
    offset = session.offset ∧ session.isUntried index = true := by
  cases step with
  | reject best _ _ =>
      rw [best.offered.trial?_eq] at trial_eq
      obtain ⟨rfl, rfl⟩ := Prod.mk.inj (Option.some.inj trial_eq)
      exact ⟨rfl, best.offered.eligible⟩
  | accept best _ _ =>
      rw [best.offered.trial?_eq] at trial_eq
      obtain ⟨rfl, rfl⟩ := Prod.mk.inj (Option.some.inj trial_eq)
      exact ⟨rfl, best.offered.eligible⟩
  | unmatched _ _ _ => contradiction

/-- A step moves the cursor and clears the marks, or it stays and marks the rule that it tries. -/
theorem Step.moves_or_marks (step : lexer.Step session event middle) :
    (session.offset < middle.offset ∧
        middle.cursor.rest.length < session.cursor.rest.length ∧
        middle.tried = session.tried.map fun _ => false) ∨
      ∃ index, event.trial? = some (index, session.offset) ∧
        middle.cursor = session.cursor ∧ middle.tried = session.tried.set index true := by
  cases step with
  | @reject candidate decision best _ _ =>
      exact .inr ⟨candidate.index, best.offered.trial?_eq decision, rfl, rfl⟩
  | @accept candidate decision best _ _ =>
      by_cases nothing : candidate.matched.text = []
      · refine .inr ⟨candidate.index, best.offered.trial?_eq decision, ?_, ?_⟩
        · exact Rule.behind_of_match?_of_text_eq_nil best.offered.matching nothing
        · simp [Session.accept, Match.isEmpty, nothing]
      · obtain ⟨further, shorter⟩ := (Rule.reads_of_match? best.offered.matching).moves nothing
        refine .inl ⟨further, shorter, ?_⟩
        simp [Session.accept, Match.isEmpty, nothing]
  | unmatched _ advanced _ =>
      obtain ⟨further, shorter⟩ :=
        (Cursor.reads_of_advance? advanced).moves (List.cons_ne_nil _ _)
      exact .inl ⟨further, shorter, rfl⟩

/-- A trial is paid for, and a step without one costs nothing. -/
theorem Step.trials_le (step : lexer.Step session event middle) :
    event.trial?.toList.length + middle.trials ≤ session.trials := by
  rcases step.moves_or_marks with ⟨_, shorter, cleared⟩ | ⟨index, trial_eq, cursor_eq, marked⟩
  · have paid := Session.trials_le_of_rest_lt shorter cleared
    cases trial_eq : event.trial? with
    | none =>
        change 0 + middle.trials ≤ session.trials
        omega
    | some trial =>
        have fewer := Session.count_tried_mark (step.untried_of_trial? trial_eq).2
        change 1 + middle.trials ≤ session.trials
        omega
  · have fewer := Session.count_tried_mark (step.untried_of_trial? trial_eq).2
    rw [trial_eq]
    change 1 + middle.trials ≤ session.trials
    unfold Session.trials
    rw [cursor_eq, marked, List.length_set]
    omega

/-- Every step leaves less to do. -/
theorem Step.work_lt (step : lexer.Step session event middle) : middle.work < session.work := by
  have paid := step.trials_le
  rw [Session.work_eq, Session.work_eq]
  rcases step.moves_or_marks with ⟨_, shorter, _⟩ | ⟨index, trial_eq, cursor_eq, _⟩
  · omega
  · rw [trial_eq] at paid
    change 1 + middle.trials ≤ session.trials at paid
    rw [cursor_eq]
    omega

theorem Step.length_tried (step : lexer.Step session event middle) :
    middle.tried.length = session.tried.length := by
  rcases step.moves_or_marks with ⟨_, _, cleared⟩ | ⟨_, _, _, marked⟩
  · rw [cleared, List.length_map]
  · rw [marked, List.length_set]

/-! ## The phase -/

/-- The phase of a session has no influence on its next step. -/
theorem Step.with_phase (step : lexer.Step session event middle)
    (phase : Phase) : lexer.Step { session with phase := phase } event middle := by
  cases step with
  | reject best decided rejected =>
      exact .reject ⟨best.offered, best.longest, best.earliest⟩ decided rejected
  | accept best decided accepted =>
      exact .accept ⟨best.offered, best.longest, best.earliest⟩ decided accepted
  | unmatched none_left advanced answered => exact .unmatched none_left advanced answered

end Lexer

end Munch
