import Munch.Proofs.Steps
import Munch.Session.Operation

/-!
# The lexer follows the protocol

Trying a sorted list of candidates is the same as picking the best one again and again.  The list is
made for the session in front of it; `Lexer.Lists.tail` says that when its first candidate has been
rejected, the rest of it is the list for the session behind.

So the pulls of the protocol are the runs of `Lexer.next`, with the same result, the same events in
the same order and the same session behind.  The protocol has to know that an ended session is not
scanned again; the last section shows that without this the two would differ.
-/

namespace Munch

/-- A cursor that cannot read a character is at the end. -/
theorem Cursor.rest_of_advance?_eq_none {cursor : Cursor} (refused : cursor.advance? = none) :
    cursor.rest = [] := by
  cases rest_eq : cursor.rest with
  | nil => rfl
  | cons char rest => simp [advance?, rest_eq] at refused

/-- Events in front of events. -/
theorem Run.after_after {σ τ α : Type} (first second : List (Event τ)) (run : Run σ τ α) :
    (run.after second).after first = run.after (first ++ second) := by
  simp only [after, List.append_assoc]

/-- A rejecting outcome has no tokens. -/
theorem Outcome.tokens_of_isReject {τ : Type} {outcome : Outcome τ}
    (rejected : outcome.isReject = true) : outcome.tokens = [] := by
  cases outcome with
  | reject => rfl
  | _ => simp [isReject] at rejected

namespace Lexer

variable {σ τ : Type} {lexer : Lexer σ τ} {session middle : Session σ τ}

/-- The phase of a session has no influence on a scan. -/
theorem Scans.with_phase {run : Run σ τ (Except LexError (Option τ))}
    (scans : lexer.Scans session run) (phase : Phase) :
    lexer.Scans { session with phase := phase } run := by
  cases scans with
  | quiet step quiet rest => exact .quiet (step.with_phase phase) quiet rest
  | token step tokens_eq => exact .token (step.with_phase phase) tokens_eq
  | error step error_eq => exact .error (step.with_phase phase) error_eq
  | finish none_left ended =>
      exact @Scans.finish _ _ _ { session with phase := phase } none_left ended

/-! ## Lists of candidates -/

/-- The candidates of a session, the best first. -/
structure Lists (lexer : Lexer σ τ) (session : Session σ τ) (candidates : List (Candidate τ)) :
    Prop where
  ordered : candidates.Pairwise Candidate.Precedes
  mem_iff : ∀ candidate, candidate ∈ candidates ↔ lexer.Offers session candidate

/-- The table lists the candidates of a session. -/
theorem lists_candidates (lexer : Lexer σ τ) (session : Session σ τ) :
    lexer.Lists session
      (lexer.table.candidates session.cursor session.state session.isUntried) :=
  ⟨lexer.table.candidates_pairwise _ _ _, fun _ => Table.mem_candidates_iff⟩

theorem offers_mark_iff {candidate : Candidate τ} {index : Nat} :
    lexer.Offers (session.mark index) candidate ↔
      lexer.Offers session candidate ∧ candidate.index ≠ index := by
  constructor
  · rintro ⟨registered, admitted, eligible, matching⟩
    obtain ⟨eligible, index_ne⟩ := Session.isUntried_mark_iff.mp eligible
    exact ⟨⟨registered, admitted, eligible, matching⟩, index_ne⟩
  · rintro ⟨⟨registered, admitted, eligible, matching⟩, index_ne⟩
    exact ⟨registered, admitted, Session.isUntried_mark_iff.mpr ⟨eligible, index_ne⟩, matching⟩

variable {candidate : Candidate τ} {candidates : List (Candidate τ)}

/-- The first of the list is the best. -/
theorem Lists.best (listed : lexer.Lists session (candidate :: candidates)) :
    lexer.Best session candidate := by
  have first : ∀ other, lexer.Offers session other →
      other = candidate ∨ candidate.Precedes other := by
    intro other offered
    rcases List.mem_cons.mp ((listed.mem_iff other).mpr offered) with same | member
    · exact .inl same
    · exact .inr ((List.pairwise_cons.mp listed.ordered).1 other member)
  refine ⟨(listed.mem_iff candidate).mp List.mem_cons_self, ?_, ?_⟩
  · intro other offered
    rcases first other offered with rfl | shorter | ⟨size_eq, _⟩
    · exact Nat.le_refl _
    · exact Nat.le_of_lt shorter
    · exact Nat.le_of_eq size_eq
  · intro other offered size_eq
    rcases first other offered with rfl | shorter | ⟨_, later⟩
    · exact Nat.le_refl _
    · omega
    · exact Nat.le_of_lt later

/-- When the first of the list has been tried, the others are left, in the same order. -/
theorem Lists.tail (listed : lexer.Lists session (candidate :: candidates)) :
    lexer.Lists (session.mark candidate.index) candidates := by
  obtain ⟨first, ordered⟩ := List.pairwise_cons.mp listed.ordered
  refine ⟨ordered, fun other => ?_⟩
  rw [offers_mark_iff]
  constructor
  · intro member
    have offered := (listed.mem_iff other).mp (List.mem_cons_of_mem candidate member)
    refine ⟨offered, fun index_eq => ?_⟩
    have same := offered.eq_of_index_eq listed.best.offered index_eq
    subst other
    exact Candidate.Precedes.irrefl candidate (first candidate member)
  · rintro ⟨offered, index_ne⟩
    rcases List.mem_cons.mp ((listed.mem_iff other).mpr offered) with rfl | member
    · contradiction
    · exact member

theorem Lists.not_offers (listed : lexer.Lists session []) (candidate : Candidate τ) :
    ¬ lexer.Offers session candidate := by
  intro offered
  exact List.not_mem_nil ((listed.mem_iff candidate).mpr offered)

/-! ## Trials -/

/-- Rejections in a row. -/
inductive Rejects (lexer : Lexer σ τ) : Session σ τ → List (Event τ) → Session σ τ → Prop
  | refl (session : Session σ τ) : Rejects lexer session [] session
  | step {session middle : Session σ τ} {candidate : Candidate τ} {decision : Decision τ}
      {events : List (Event τ)} (best : lexer.Best session candidate)
      (decided : candidate.rule.action candidate.matched session.context = decision)
      (rejected : decision.outcome.isReject = true)
      (rest : Rejects lexer (session.mark candidate.index) events middle) :
      Rejects lexer session
        (.applied candidate.index candidate.matched session.context decision :: events) middle

theorem Rejects.work_le {events : List (Event τ)} (rejects : lexer.Rejects session events middle) :
    middle.work ≤ session.work := by
  induction rejects with
  | refl => exact Nat.le_refl _
  | step best decided rejected _ ih =>
      exact Nat.le_trans ih (Nat.le_of_lt (Step.reject best decided rejected).work_lt)

/-- A scan goes on behind rejections. -/
theorem Rejects.scans {events : List (Event τ)} {run : Run σ τ (Except LexError (Option τ))}
    (rejects : lexer.Rejects session events middle) (scans : lexer.Scans middle run) :
    lexer.Scans session (run.after events) := by
  induction rejects with
  | refl => exact scans
  | step best decided rejected _ ih =>
      have quiet := Outcome.tokens_of_isReject rejected
      exact .quiet (.reject best decided rejected) ⟨quiet, rfl⟩ (ih scans)

/-- A trial without success rejects every candidate. -/
theorem rejects_of_trial_eq_none (scanning : session.phase = .scanning)
    (listed : lexer.Lists session candidates)
    (failed : (Trial.run session.context candidates session.tried).accepted = none) :
    lexer.Rejects session (Trial.run session.context candidates session.tried).events
        { session with tried := (Trial.run session.context candidates session.tried).tried } ∧
      ∀ candidate, ¬ lexer.Offers
        { session with tried := (Trial.run session.context candidates session.tried).tried }
        candidate := by
  induction candidates generalizing session with
  | nil => exact ⟨.refl session, listed.not_offers⟩
  | cons candidate candidates ih =>
      cases rejected : (candidate.rule.action candidate.matched session.context).outcome.isReject with
      | false => simp [Trial.run, rejected] at failed
      | true =>
          simp only [Trial.run, rejected, if_true] at failed ⊢
          obtain ⟨cursor, state, pending, tried, phase, memory⟩ := session
          cases scanning
          obtain ⟨rejects, none_left⟩ := ih rfl listed.tail failed
          exact ⟨.step listed.best rfl rejected rejects, none_left⟩

/-- The session behind an accepted candidate, in the words of the protocol. -/
theorem Offers.advance_eq_accept (offered : lexer.Offers session candidate)
    (scanning : session.phase = .scanning) (decision : Decision τ) :
    { session with
      tried := session.tried.set candidate.index true
      state := decision.state }.advance candidate.size = session.accept candidate decision := by
  obtain ⟨cursor, state, pending, tried, phase, memory⟩ := session
  cases scanning
  by_cases nothing : candidate.matched.text = []
  · have stayed := Rule.behind_of_match?_of_text_eq_nil offered.matching nothing
    have size_eq : candidate.size = 0 := Text.size_eq_zero_iff.mpr nothing
    simp [Session.advance, Session.accept, size_eq, Match.isEmpty, nothing, stayed]
  · have moved := Rule.advanceBytes?_of_match? offered.matching
    have size_ne : candidate.size ≠ 0 := fun size_eq => nothing (Text.size_eq_zero_iff.mp size_eq)
    have cleared : (tried.set candidate.index true).map (fun _ => false) =
        tried.map fun _ => false := by
      simp only [List.map_const', List.length_set]
    change cursor.advanceBytes? candidate.size = _ at moved
    simp only [Session.advance, Session.accept, Session.clearTried, size_ne, moved, cleared,
      Match.isEmpty, nothing, List.isEmpty_iff, if_false, Option.getD_some]

/-- A successful trial rejects the candidates before the one that it accepts. -/
theorem rejects_of_trial_eq_some {decision : Decision τ} (scanning : session.phase = .scanning)
    (listed : lexer.Lists session candidates)
    (succeeded : (Trial.run session.context candidates session.tried).accepted =
      some (candidate, decision)) :
    ∃ events middle, lexer.Rejects session events middle ∧
      lexer.Step middle
        (.applied candidate.index candidate.matched session.context decision)
        ({ session with
          tried := (Trial.run session.context candidates session.tried).tried
          state := decision.state }.advance candidate.size) ∧
      (Trial.run session.context candidates session.tried).events =
        events ++ [.applied candidate.index candidate.matched session.context decision] := by
  induction candidates generalizing session with
  | nil => simp [Trial.run] at succeeded
  | cons first candidates ih =>
      cases rejected : (first.rule.action first.matched session.context).outcome.isReject with
      | false =>
          simp only [Trial.run, rejected, Bool.false_eq_true, if_false, Option.some.injEq,
            Prod.mk.injEq] at succeeded ⊢
          obtain ⟨rfl, rfl⟩ := succeeded
          refine ⟨[], session, .refl session, ?_, rfl⟩
          rw [listed.best.offered.advance_eq_accept scanning]
          exact .accept listed.best rfl rejected
      | true =>
          simp only [Trial.run, rejected, if_true] at succeeded ⊢
          obtain ⟨cursor, state, pending, tried, phase, memory⟩ := session
          cases scanning
          obtain ⟨events, middle, rejects, step, events_eq⟩ := ih rfl listed.tail succeeded
          refine ⟨_, middle, .step listed.best rfl rejected rejects, step, ?_⟩
          exact congrArg _ events_eq

/-! ## Scans and pulls -/

/-- A step without an error ends a scan with its first token or lets it go on. -/
theorem Step.scans {event : Event τ} (step : lexer.Step session event middle)
    (error_eq : event.error? = none)
    {goOn : Session σ τ → Run σ τ (Except LexError (Option τ))}
    (scans : lexer.Scans middle (goOn middle)) :
    lexer.Scans session ((middle.handOut event.tokens goOn).after [event]) := by
  cases tokens_eq : event.tokens with
  | nil => exact .quiet step ⟨tokens_eq, error_eq⟩ scans
  | cons token tokens => exact .token step tokens_eq

/-- Where no candidate is left, the next character is handed to the fallback. -/
theorem scans_fallBack {char : Char} {cursor : Cursor}
    (none_left : ∀ candidate, ¬ lexer.Offers session candidate)
    (advanced : session.cursor.advance? = some (char, cursor))
    {goOn : Session σ τ → Run σ τ (Except LexError (Option τ))}
    (scans : ∀ behind, behind.work < session.work → lexer.Scans behind (goOn behind)) :
    lexer.Scans session (lexer.fallBack session char cursor goOn) := by
  unfold fallBack
  cases answered : lexer.fallback char session.position session.memory with
  | mk answer memory =>
      have step := Step.unmatched none_left advanced answered
      cases answer with
      | error error => exact .error step rfl
      | ok outcome => exact step.scans rfl (scans _ step.work_lt)

/-- With enough fuel, a scan follows the protocol. -/
theorem scans_scan {fuel : Nat} (enough : session.work < fuel) :
    lexer.Scans session (lexer.scan fuel session) := by
  induction fuel generalizing session with
  | zero => contradiction
  | succ fuel ih =>
      let scanning : Session σ τ := { session with phase := .scanning }
      suffices scans : lexer.Scans scanning (lexer.scan (fuel + 1) session) from
        scans.with_phase session.phase
      have listed : lexer.Lists scanning _ := lexer.lists_candidates scanning
      have scanning_work : scanning.work < fuel + 1 := enough
      rw [scan]
      cases accepted : (lexer.trial session).accepted with
      | none =>
          let tested : Session σ τ := { scanning with tried := (lexer.trial session).tried }
          obtain ⟨rejects, none_left⟩ :
              lexer.Rejects scanning (lexer.trial session).events tested ∧
                ∀ candidate, ¬ lexer.Offers tested candidate :=
            rejects_of_trial_eq_none rfl listed accepted
          have tested_work := rejects.work_le
          apply rejects.scans
          cases advanced : session.cursor.advance? with
          | none => exact .finish none_left (Cursor.rest_of_advance?_eq_none advanced)
          | some moved =>
              exact scans_fallBack none_left advanced fun behind less => ih (by omega)
      | some result =>
          obtain ⟨candidate, decision⟩ := result
          obtain ⟨events, middle, rejects, step, events_eq⟩ :=
            rejects_of_trial_eq_some rfl listed accepted
          have less := Nat.lt_of_lt_of_le step.work_lt rejects.work_le
          have scans := rejects.scans (step.scans rfl (ih (by omega)))
          rw [Run.after_after, ← events_eq] at scans
          exact scans

/-- A pull follows the protocol. -/
theorem pulls_next (lexer : Lexer σ τ) (session : Session σ τ) :
    lexer.Pulls session (lexer.next session) := by
  unfold next
  cases pending_eq : session.pending with
  | cons token tokens => exact .serve pending_eq
  | nil =>
      have scans : lexer.Scans session (lexer.scan (session.work + 1) session) :=
        scans_scan (Nat.lt_succ_self _)
      cases phase_eq : session.phase with
      | done => exact .ended pending_eq phase_eq
      | idle => exact .scan pending_eq (by simp [phase_eq]) scans
      | scanning => exact .scan pending_eq (by simp [phase_eq]) scans
      | exhausted => exact .scan pending_eq (by simp [phase_eq]) scans

/-- The pulls of the protocol are the runs of the lexer: the result, the events in their order and
the session behind are the same, and there is always one. -/
theorem pulls_iff_next_eq (lexer : Lexer σ τ) (session : Session σ τ)
    (run : Run σ τ (Except LexError (Option τ))) :
    lexer.Pulls session run ↔ lexer.next session = run := by
  constructor
  · intro pulls
    exact (lexer.pulls_next session).deterministic pulls
  · rintro rfl
    exact lexer.pulls_next session

/-! ## Ended sessions -/

/-- A pull that scans whenever no token is pending, even where the input has ended. -/
inductive PullsAnyway (lexer : Lexer σ τ) (session : Session σ τ) :
    Run σ τ (Except LexError (Option τ)) → Prop
  | serve {token : τ} {tokens : List τ} (pending_eq : session.pending = token :: tokens) :
      PullsAnyway lexer session ⟨.ok (some token), { session with pending := tokens }, []⟩
  | scan {run : Run σ τ (Except LexError (Option τ))} (pending_eq : session.pending = [])
      (scans : lexer.Scans session run) :
      PullsAnyway lexer session run

/-- A rule for empty text that applies in state 1 only. -/
def emptyInOne : Lexer Unit (Token String) where
  table :=
    { rules := [⟨{ source := "" }, Matcher.ofExpr .empty, .ofList [1], Action.token "E"⟩] }
  fallback := Fallback.fail

/-- An ended session whose state is changed has an untried rule that matches.  A scan would apply
it, but the lexer does not scan an ended session again. -/
theorem not_pullsAnyway_next_of_ended :
    ¬ emptyInOne.PullsAnyway
      (emptyInOne.performAll (emptyInOne.start [] ()) [.next, .setState 1]).session
      (emptyInOne.next
        (emptyInOne.performAll (emptyInOne.start [] ()) [.next, .setState 1]).session) := by
  intro pulls
  cases pulls with
  | scan _ scans =>
      have same := (scans_scan (Nat.lt_succ_self _)).deterministic scans
      have found := congrArg (fun run => run.result.toOption.map Option.isSome) same
      exact absurd found (by decide)

end Lexer

end Munch
