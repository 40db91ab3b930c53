import Munch.Proofs.Tiling

/-!
# Every rule is tried once at a place

A rule that has been tried at a place is not tried there again, whatever happens in between: marks
are cleared only when the cursor moves, and the cursor never comes back.
`Lexer.Course.trial_untried` says this of a course from its start, and `Lexer.Course.nodup_trials`
follows from it.

Every action applied costs one of `Session.trials`, and a new session has as many of them as there
are rules at all places of its input.
-/

namespace Munch

namespace Lexer

variable {σ τ : Type} {lexer : Lexer σ τ} {session middle final : Session σ τ}
  {event : Event τ} {events : List (Event τ)}

/-! ## No trial twice -/

theorem Step.offset_le (step : lexer.Step session event middle) :
    session.offset ≤ middle.offset := by
  rcases step.moves_or_marks with ⟨further, _, _⟩ | ⟨_, _, cursor_eq, _⟩
  · exact Nat.le_of_lt further
  · exact Nat.le_of_eq (congrArg Cursor.offset cursor_eq.symm)

/-- As long as the cursor stays, a tried rule stays tried. -/
theorem Step.isUntried_of_stays {index : Nat} (step : lexer.Step session event middle)
    (stays : middle.offset = session.offset) (untried : middle.isUntried index = true) :
    session.isUntried index = true ∧ event.trial? ≠ some (index, session.offset) := by
  rcases step.moves_or_marks with ⟨further, _, _⟩ | ⟨tried, trial_eq, _, marked⟩
  · omega
  · have kept : (session.mark tried).isUntried index = true := by
      rw [Session.isUntried_iff] at untried ⊢
      rwa [marked] at untried
    obtain ⟨untried, index_ne⟩ := Session.isUntried_mark_iff.mp kept
    refine ⟨untried, ?_⟩
    rw [trial_eq]
    rintro ⟨⟩
    contradiction

/-- The trials of a course lie ahead, and those at its first place are of untried rules. -/
theorem Course.trial_untried (course : lexer.Course session events final) {index offset : Nat}
    (member : (index, offset) ∈ events.filterMap Event.trial?) :
    session.offset ≤ offset ∧ (offset = session.offset → session.isUntried index = true) := by
  induction course with
  | refl => simp at member
  | adjust _ _ _ _ ih => exact ih member
  | @step session middle final event events step _ ih =>
      obtain ⟨found, among, trial_eq⟩ := List.mem_filterMap.mp member
      rcases List.mem_cons.mp among with rfl | later
      · obtain ⟨offset_eq, untried⟩ := step.untried_of_trial? trial_eq
        exact ⟨Nat.le_of_eq offset_eq.symm, fun _ => untried⟩
      · obtain ⟨ahead, untried⟩ := ih (List.mem_filterMap.mpr ⟨found, later, trial_eq⟩)
        refine ⟨Nat.le_trans step.offset_le ahead, fun offset_eq => ?_⟩
        have stays : middle.offset = session.offset :=
          Nat.le_antisymm (offset_eq ▸ ahead) step.offset_le
        exact (step.isUntried_of_stays stays (untried (by omega))).1

/-- No rule is tried twice at the same place. -/
theorem Course.nodup_trials (course : lexer.Course session events final) :
    (events.filterMap Event.trial?).Nodup := by
  induction course with
  | refl => exact .nil
  | adjust _ _ _ _ ih => exact ih
  | @step session middle final event events step rest ih =>
      cases trial_eq : event.trial? with
      | none => rwa [List.filterMap_cons_none trial_eq]
      | some trial =>
          obtain ⟨index, offset⟩ := trial
          rw [List.filterMap_cons_some trial_eq, List.nodup_cons]
          refine ⟨fun again => ?_, ih⟩
          obtain ⟨rfl, _⟩ := step.untried_of_trial? trial_eq
          obtain ⟨ahead, untried⟩ := rest.trial_untried again
          have stays : middle.offset = session.offset := Nat.le_antisymm ahead step.offset_le
          exact (step.isUntried_of_stays stays (untried stays.symm)).2 trial_eq

/-! ## Bounds -/

/-- No more actions are applied than there are trials left. -/
theorem Course.length_trials_le (course : lexer.Course session events final) :
    (events.filterMap Event.trial?).length + final.trials ≤ session.trials := by
  induction course with
  | refl => exact Nat.le_of_eq (Nat.zero_add _)
  | adjust _ _ _ _ ih => exact ih
  | @step session middle final event events step _ ih =>
      have paid := step.trials_le
      cases trial_eq : event.trial? with
      | none =>
          rw [trial_eq] at paid
          rw [List.filterMap_cons_none trial_eq]
          exact Nat.le_trans ih (by simpa using paid)
      | some trial =>
          rw [trial_eq] at paid
          rw [List.filterMap_cons_some trial_eq, List.length_cons]
          change 1 + middle.trials ≤ session.trials at paid
          omega

/-- A character is handed to the fallback where the session stands, and is passed. -/
theorem Step.moves_of_miss? {offset : Nat} (step : lexer.Step session event middle)
    (miss_eq : event.miss? = some offset) :
    offset = session.offset ∧ session.offset < middle.offset ∧
      middle.cursor.rest.length < session.cursor.rest.length := by
  cases step with
  | reject _ _ _ => contradiction
  | accept _ _ _ => contradiction
  | unmatched _ advanced _ =>
      obtain ⟨further, shorter⟩ :=
        (Cursor.reads_of_advance? advanced).moves (List.cons_ne_nil _ _)
      exact ⟨(Option.some.inj miss_eq).symm, further, shorter⟩

/-- The characters handed to the fallback lie ahead, each behind the one before. -/
theorem Course.misses_increase (course : lexer.Course session events final) :
    (∀ offset ∈ events.filterMap Event.miss?, session.offset ≤ offset) ∧
      (events.filterMap Event.miss?).Pairwise (· < ·) := by
  induction course with
  | refl => exact ⟨by simp, .nil⟩
  | adjust _ _ _ _ ih => exact ih
  | @step session middle final event events step _ ih =>
      obtain ⟨ahead, increasing⟩ := ih
      cases miss_eq : event.miss? with
      | none =>
          rw [List.filterMap_cons_none miss_eq]
          exact ⟨fun offset member => Nat.le_trans step.offset_le (ahead offset member), increasing⟩
      | some offset =>
          obtain ⟨rfl, further, _⟩ := step.moves_of_miss? miss_eq
          rw [List.filterMap_cons_some miss_eq]
          refine ⟨?_, List.pairwise_cons.mpr ⟨?_, increasing⟩⟩
          · intro other member
            rcases List.mem_cons.mp member with rfl | member
            · exact Nat.le_refl _
            · exact Nat.le_trans step.offset_le (ahead other member)
          · intro other member
            exact Nat.lt_of_lt_of_le further (ahead other member)

/-- No more characters are handed to the fallback than are read. -/
theorem Course.length_misses_le (course : lexer.Course session events final) :
    (events.filterMap Event.miss?).length + final.cursor.rest.length ≤
      session.cursor.rest.length := by
  induction course with
  | refl => exact Nat.le_of_eq (Nat.zero_add _)
  | adjust _ _ _ _ ih => exact ih
  | @step session middle final event events step _ ih =>
      cases miss_eq : event.miss? with
      | none =>
          have rest_length := congrArg List.length step.reads.1.rest_eq
          rw [List.length_append] at rest_length
          rw [List.filterMap_cons_none miss_eq]
          omega
      | some offset =>
          obtain ⟨_, _, shorter⟩ := step.moves_of_miss? miss_eq
          rw [List.filterMap_cons_some miss_eq, List.length_cons]
          omega

/-! ## Whole sessions -/

/-- A new session has a trial of each rule at each place of the input and behind it. -/
theorem trials_start (input : Text) (memory : σ) :
    (lexer.start input memory).trials = lexer.table.size * (input.length + 1) := by
  have untried : (lexer.table.rules.map fun _ => false).count false = lexer.table.size := by
    rw [List.map_const', List.count_replicate_self]
    rfl
  change input.length * (lexer.table.rules.map fun _ => false).length + _ = _
  rw [List.length_map, Nat.mul_succ, Nat.mul_comm]
  exact congrArg _ untried

/-- Every pull and every `Lexer.tokenize` comes to an end, from any session and without a bound: the
rules of `Lexer.Pulls` and `Lexer.Drains` know none.  And as long as a session is not started over,
no rule is tried twice at the same place, and the fallback is asked at places further and further
on. -/
theorem terminates_and_tries_once {input : Text} (fresh : lexer.Fresh input session)
    {operations : List Operation}
    (continued : ∀ operation ∈ operations, operation.isReset = false) :
    (∀ reached, lexer.Pulls reached (lexer.next reached) ∧
        lexer.Drains reached (lexer.tokenize reached)) ∧
      ((lexer.performAll session operations).events.filterMap Event.trial?).Nodup ∧
      ((lexer.performAll session operations).events.filterMap Event.trial?).length ≤
        lexer.table.size * (input.length + 1) ∧
      ((lexer.performAll session operations).events.filterMap Event.miss?).Pairwise (· < ·) ∧
      ((lexer.performAll session operations).events.filterMap Event.miss?).length ≤
        input.length := by
  obtain ⟨memory, rfl⟩ : ∃ memory, session = lexer.start input memory := ⟨_, fresh.eq_start⟩
  have course : lexer.Course (lexer.start input memory) _ _ := (history_performAll continued).course
  have trials_le := course.length_trials_le
  have misses_le : _ ≤ input.length := course.length_misses_le
  rw [trials_start] at trials_le
  refine ⟨fun reached => ⟨lexer.pulls_next reached, lexer.drains_tokenize reached⟩,
    course.nodup_trials, ?_, course.misses_increase.2, ?_⟩
  · omega
  · omega

/-- The rule for empty text is tried once at each place, and a rule that its change of state lets in
is tried behind it. -/
theorem terminates_and_tries_once_letters :
    letters.Fresh ['é', 'a', 'é', ' ', 'b'] (letters.start ['é', 'a', 'é', ' ', 'b'] ()) ∧
      (∀ operation ∈ [.next, .setState 0, .tokenize], Operation.isReset operation = false) ∧
      (letters.performAll (letters.start ['é', 'a', 'é', ' ', 'b'] ())
        [.next, .setState 0, .tokenize]).events.filterMap Event.trial? =
          [(1, 0), (0, 2), (1, 3), (2, 5), (1, 6), (0, 6), (1, 7)] ∧
      ((letters.performAll (letters.start ['é', 'a', 'é', ' ', 'b'] ())
        [.next, .setState 0, .tokenize]).events.filterMap Event.trial?).Nodup :=
  ⟨.start (), by decide, by decide, (terminates_and_tries_once (.start ()) (by decide)).2.1⟩

end Lexer

end Munch
