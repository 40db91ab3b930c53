import Munch.Proofs.Safety
import Munch.Proofs.Simulation

/-!
# Tables whose first candidate is always accepted

A table is decisive if, at every place and in every state, the first of its candidates reads
something and is accepted.  Over such a table marks do not matter: a session never stays where a
rule has been tried, so between any two steps all rules are untried, and each step takes the first
candidate of its place (`Lexer.takes_performAll`).

What a client sees of such a table is then determined by its first candidates.  In particular rules
may be registered in another order, as long as rules that match equally long at some place keep
theirs (`Table.sameFirst_of_perm`).
-/

namespace Munch

/-! ## First candidates -/

namespace Table

variable {τ : Type}

/-- The candidate that comes first at a cursor: none is longer, and none that is as long was
registered earlier. -/
structure Foremost (table : Table τ) (cursor : Cursor) (state : StateId)
    (candidate : Candidate τ) : Prop where
  offered : table.Offers cursor state (fun _ => true) candidate
  longest : ∀ other, table.Offers cursor state (fun _ => true) other →
    other.size ≤ candidate.size
  earliest : ∀ other, table.Offers cursor state (fun _ => true) other →
    other.size = candidate.size → candidate.index ≤ other.index

/-- The first candidate always reads something and is accepted. -/
def Decisive (table : Table τ) : Prop :=
  ∀ cursor state candidate, table.Foremost cursor state candidate →
    candidate.matched.text ≠ [] ∧
      ∀ context, (candidate.rule.action candidate.matched context).outcome.isReject = false

variable {table : Table τ} {cursor : Cursor} {state : StateId}

/-- The foremost candidate is the first of the list. -/
theorem Foremost.head? {candidate : Candidate τ}
    (foremost : table.Foremost cursor state candidate) :
    (table.candidates cursor state fun _ => true).head? = some candidate := by
  have member := mem_candidates_iff.mpr foremost.offered
  cases candidates_eq : table.candidates cursor state fun _ => true with
  | nil => simp [candidates_eq] at member
  | cons first others =>
      have ordered := table.candidates_pairwise cursor state fun _ => true
      rw [candidates_eq] at member ordered
      have firstOffered : table.Offers cursor state (fun _ => true) first :=
        mem_candidates_iff.mp (candidates_eq ▸ List.mem_cons_self)
      rcases List.mem_cons.mp member with rfl | behind
      · rfl
      · rcases (List.pairwise_cons.mp ordered).1 candidate behind with shorter | ⟨size_eq, later⟩
        · have longest := foremost.longest first firstOffered
          omega
        · have earliest := foremost.earliest first firstOffered size_eq.symm
          omega

/-- What is left behind a candidate is what follows its text. -/
theorem Foremost.rest_behind {candidate : Candidate τ} {following : Text}
    (foremost : table.Foremost cursor state candidate)
    (rest_eq : cursor.rest = candidate.matched.text ++ following) :
    candidate.matched.behind.rest = following := by
  obtain ⟨_, divided, _⟩ := Rule.eq_of_match? foremost.offered.matching
  exact (List.append_cancel_left (rest_eq.symm.trans divided)).symm

end Table

/-! ## Clear sessions -/

/-- The event is what has to happen where `first` is the first candidate, if there is any: its
action is applied and accepts, and without a candidate the fallback is asked. -/
def Event.Takes {τ : Type} (first : Option (Candidate τ)) : Event τ → Prop
  | applied index matched context decision =>
      ∃ candidate, first = some candidate ∧ index = candidate.index ∧ matched = candidate.matched ∧
        decision = candidate.rule.action matched context ∧ decision.outcome.isReject = false
  | unmatched _ _ _ => first = none

namespace Lexer

variable {σ τ : Type} {lexer : Lexer σ τ} {session middle final : Session σ τ} {input : Text}
  {event : Event τ} {events : List (Event τ)}

/-- No rule has been tried where the session stands. -/
def Clear (lexer : Lexer σ τ) (session : Session σ τ) : Prop :=
  session.tried = lexer.table.rules.map fun _ => false

theorem Clear.cleared (clear : lexer.Clear session) :
    (session.tried.map fun _ => false) = lexer.table.rules.map fun _ => false := by
  rw [clear, List.map_map]
  rfl

theorem Clear.offers_iff (clear : lexer.Clear session) {candidate : Candidate τ} :
    lexer.Offers session candidate ↔
      lexer.table.Offers session.cursor session.state (fun _ => true) candidate := by
  constructor
  · rintro ⟨registered, admitted, _, matching⟩
    exact ⟨registered, admitted, rfl, matching⟩
  · rintro ⟨registered, admitted, _, matching⟩
    refine ⟨registered, admitted, ?_, matching⟩
    rw [Session.isUntried_iff, clear, List.getElem?_map, registered]
    rfl

/-- At a clear session the best candidate is the foremost one of the table. -/
theorem Clear.best_iff (clear : lexer.Clear session) {candidate : Candidate τ} :
    lexer.Best session candidate ↔
      lexer.table.Foremost session.cursor session.state candidate := by
  constructor
  · rintro ⟨offered, longest, earliest⟩
    exact ⟨clear.offers_iff.mp offered, fun other => longest other ∘ clear.offers_iff.mpr,
      fun other => earliest other ∘ clear.offers_iff.mpr⟩
  · rintro ⟨offered, longest, earliest⟩
    exact ⟨clear.offers_iff.mpr offered, fun other => longest other ∘ clear.offers_iff.mp,
      fun other => earliest other ∘ clear.offers_iff.mp⟩

/-- An accepted match that reads something clears all marks. -/
theorem Clear.accept (clear : lexer.Clear session) {candidate : Candidate τ}
    {decision : Decision τ} (something : candidate.matched.text ≠ []) :
    lexer.Clear (session.accept candidate decision) := by
  have tried_eq : (session.accept candidate decision).tried = session.tried.map fun _ => false := by
    simp [Session.accept, Match.isEmpty, something]
  exact tried_eq.trans clear.cleared

/-- Over a decisive table, each step from a clear session takes the first candidate and leads to a
clear session. -/
theorem Step.takes (decisive : lexer.table.Decisive) (clear : lexer.Clear session)
    (step : lexer.Step session event middle) :
    event.Takes (lexer.table.candidates session.cursor session.state fun _ => true).head? ∧
      lexer.Clear middle := by
  cases step with
  | reject best decided rejected =>
      have accepts := (decisive _ _ _ (clear.best_iff.mp best)).2 session.context
      rw [decided, rejected] at accepts
      contradiction
  | accept best decided accepted =>
      have foremost := clear.best_iff.mp best
      have something := (decisive _ _ _ foremost).1
      exact ⟨⟨_, foremost.head?, rfl, rfl, decided.symm, accepted⟩, clear.accept something⟩
  | unmatched none_left _ _ =>
      refine ⟨?_, clear.cleared⟩
      apply List.head?_eq_none_iff.mpr
      apply List.eq_nil_iff_forall_not_mem.mpr
      intro candidate member
      exact none_left candidate (clear.offers_iff.mpr (Table.mem_candidates_iff.mp member))

theorem Course.clear (decisive : lexer.table.Decisive)
    (course : lexer.Course session events final) (clear : lexer.Clear session) :
    lexer.Clear final := by
  induction course with
  | refl => exact clear
  | step step _ ih => exact ih (step.takes decisive clear).2
  | adjust _ _ _ _ ih => exact ih clear

theorem clear_start (lexer : Lexer σ τ) (input : Text) (memory : σ) :
    lexer.Clear (lexer.start input memory) :=
  rfl

theorem Clear.perform (decisive : lexer.table.Decisive) (clear : lexer.Clear session)
    (operation : Operation) : lexer.Clear (lexer.perform session operation).session := by
  cases operation with
  | reset other => exact clear.cleared
  | _ => exact (history_perform rfl).course.clear decisive clear

theorem Clear.performAll (decisive : lexer.table.Decisive) (clear : lexer.Clear session)
    (operations : List Operation) :
    lexer.Clear (lexer.performAll session operations).session := by
  induction operations generalizing session with
  | nil => exact clear
  | cons operation operations ih => exact ih (clear.perform decisive operation)

/-- The cursor of a sound session is the one at its offset. -/
theorem Sound.at?_eq (sound : lexer.Sound input session) :
    Cursor.at? input session.offset = some session.cursor := by
  apply Cursor.advanceBytes?_eq_some_iff.mpr
  obtain ⟨rest_eq, size_eq⟩ := Text.cut?_eq_some_iff.mp sound.boundary
  exact ⟨_, rest_eq, size_eq, sound.reads.passed_eq, sound.position_eq⟩

/-- Whatever is done with a session over a decisive table: each step takes the first of the
candidates at its place. -/
theorem takes_performAll (decisive : lexer.table.Decisive) (input : Text) (memory : σ)
    (operations : List Operation) (operation : Operation) {before behind : List (Event τ)}
    (events_eq : (lexer.perform
      (lexer.performAll (lexer.start input memory) operations).session operation).events =
        before ++ event :: behind) :
    ∃ place next, lexer.Course (lexer.performAll (lexer.start input memory) operations).session
        before place ∧ lexer.Step place event next ∧
      ∃ candidates, lexer.table.candidatesAt? (Operation.inputAfter input operations) place.offset
        place.state = some candidates ∧ event.Takes candidates.head? := by
  have sound := (lexer.sound_start input memory).performAll operations
  have clear := (lexer.clear_start input memory).performAll decisive operations
  -- a new start has no events
  have continued : operation.isReset = false := by
    cases operation with
    | reset other => simp [perform] at events_eq
    | _ => rfl
  have course : lexer.Course (lexer.performAll (lexer.start input memory) operations).session _ _ :=
    (history_perform continued).course
  rw [events_eq] at course
  obtain ⟨place, next, front, step, _⟩ := course.exists_step
  refine ⟨place, next, front, step, _, ?_, (step.takes decisive (front.clear decisive clear)).1⟩
  rw [Table.candidatesAt?, (front.sound sound).at?_eq]

/-! ## Equal first candidates -/

end Lexer

/-- Two tables have the same first candidates, except for the numbers of their rules. -/
structure Table.SameFirst {τ : Type} (table other : Table τ) : Prop where
  foremost : ∀ {cursor state candidate}, table.Foremost cursor state candidate →
    ∃ index, other.Foremost cursor state { candidate with index := index }
  unoffered : ∀ {cursor state},
    (∀ candidate, ¬ table.Offers cursor state (fun _ => true) candidate) →
    ∀ candidate, ¬ other.Offers cursor state (fun _ => true) candidate

/-- No rule is marked as tried in either of two tables. -/
def Table.BothClear {τ : Type} (table other : Table τ) (first second : List Bool) : Prop :=
  (first = table.rules.map fun _ => false) ∧ second = other.rules.map fun _ => false

namespace Lexer

variable {σ τ : Type} {table other : Table τ}

/-- A decisive table is followed by every table with the same first candidates. -/
theorem simulates_of_sameFirst (decisive : table.Decisive) (same : table.SameFirst other)
    (fallback : Fallback σ τ) :
    (⟨table, fallback⟩ : Lexer σ τ).Simulates (table.BothClear other) ⟨other, fallback⟩ where
  cleared := by
    rintro _ _ ⟨rfl, rfl⟩
    simp [Table.BothClear]
  step := by
    intro session middle twin event twins step
    obtain ⟨clear, twinClear⟩ := twins.marked
    change Lexer.Clear ⟨table, fallback⟩ session at clear
    change Lexer.Clear ⟨other, fallback⟩ twin at twinClear
    right
    cases step with
    | reject best decided rejected =>
        have accepts := (decisive _ _ _ (clear.best_iff.mp best)).2 session.context
        rw [decided, rejected] at accepts
        contradiction
    | @accept candidate decision best decided accepted =>
        have foremost := clear.best_iff.mp best
        have something := (decisive _ _ _ foremost).1
        obtain ⟨index, otherForemost⟩ := same.foremost foremost
        rw [← twins.cursor_eq, ← twins.state_eq] at otherForemost
        rw [← twins.context_eq] at decided
        refine ⟨_, _, .accept (twinClear.best_iff.mpr otherForemost) decided accepted, rfl, rfl, ?_⟩
        exact ⟨rfl, rfl, twins.pending_eq, twins.memory_eq, clear.accept something,
          twinClear.accept something⟩
    | unmatched none_left advanced answered =>
        have otherNone : ∀ candidate, ¬ Lexer.Offers ⟨other, fallback⟩ twin candidate := by
          intro candidate offered
          have offered := twinClear.offers_iff.mp offered
          rw [twins.cursor_eq, twins.state_eq] at offered
          exact same.unoffered (fun other => none_left other ∘ clear.offers_iff.mpr) candidate
            offered
        refine ⟨_, _, .unmatched_twin twins otherNone advanced answered, rfl, rfl, ?_⟩
        exact ⟨rfl, twins.state_eq, twins.pending_eq, rfl, clear.cleared, twinClear.cleared⟩
  finish := by
    intro session twin twins none_left _ candidate offered
    obtain ⟨clear, twinClear⟩ := twins.marked
    change Lexer.Clear ⟨table, fallback⟩ session at clear
    change Lexer.Clear ⟨other, fallback⟩ twin at twinClear
    have offered := twinClear.offers_iff.mp offered
    rw [twins.cursor_eq, twins.state_eq] at offered
    exact same.unoffered (fun other => none_left other ∘ clear.offers_iff.mpr) candidate offered

/-- Over tables with the same first candidates, of which the first is decisive, all operations give
the same answers and lead to sessions that look alike. -/
theorem performAll_of_sameFirst (decisive : table.Decisive) (same : table.SameFirst other)
    (fallback : Fallback σ τ) (input : Text) (memory : σ) (operations : List Operation) :
    let lexer : Lexer σ τ := ⟨table, fallback⟩
    let image : Lexer σ τ := ⟨other, fallback⟩
    let run := lexer.performAll (lexer.start input memory) operations
    let imageRun := image.performAll (image.start input memory) operations
    imageRun.result = run.result ∧ run.session.Alike imageRun.session := by
  intro lexer image run imageRun
  have twins : (lexer.start input memory).Twin (table.BothClear other) (image.start input memory) :=
    ⟨rfl, rfl, rfl, rfl, rfl, rfl⟩
  have follows : run.Follows (table.BothClear other) imageRun :=
    (simulates_of_sameFirst decisive same fallback).performAll twins rfl operations
  exact ⟨follows.result_eq, follows.alike⟩

end Lexer

/-! ## Rules in another order -/

namespace Table

variable {τ : Type} {table other : Table τ} {cursor : Cursor} {state : StateId}

/-- A rule that is registered in both tables is offered by both. -/
theorem Offers.with_index {candidate : Candidate τ}
    (offered : table.Offers cursor state (fun _ => true) candidate)
    (policy_eq : other.policy = table.policy) {index : Nat}
    (registered : other.rules[index]? = some candidate.rule) :
    other.Offers cursor state (fun _ => true) { candidate with index := index } :=
  ⟨registered, by simpa [policy_eq] using offered.admitted, rfl, offered.matching⟩

/-- The first candidates stay the same when rules are registered in another order, as long as any
two rules that match equally long at the same place keep theirs. -/
theorem sameFirst_of_perm (policy_eq : other.policy = table.policy)
    (permuted : other.rules.Perm table.rules) (different : table.rules.Nodup)
    (ordered : ∀ {cursor state first second}, table.Offers cursor state (fun _ => true) first →
      table.Offers cursor state (fun _ => true) second → first.size = second.size →
      first.index < second.index →
      ∀ {index later : Nat}, other.rules[index]? = some first.rule →
        other.rules[later]? = some second.rule → index < later) :
    table.SameFirst other where
  foremost := by
    intro cursor state candidate foremost
    have member : candidate.rule ∈ other.rules :=
      permuted.mem_iff.mpr (List.mem_of_getElem? foremost.offered.registered)
    obtain ⟨index, registered⟩ := List.mem_iff_getElem?.mp member
    -- what the other table offers is offered by the first one, under another number
    have back : ∀ second, other.Offers cursor state (fun _ => true) second →
        ∃ number, table.Offers cursor state (fun _ => true) { second with index := number } := by
      intro second offered
      obtain ⟨number, found⟩ := List.mem_iff_getElem?.mp
        (permuted.mem_iff.mp (List.mem_of_getElem? offered.registered))
      exact ⟨number, offered.with_index policy_eq.symm found⟩
    refine ⟨index, foremost.offered.with_index policy_eq registered, ?_, ?_⟩
    · intro second offered
      obtain ⟨number, found⟩ := back second offered
      exact foremost.longest { second with index := number } found
    · intro second offered size_eq
      obtain ⟨number, found⟩ := back second offered
      rcases Nat.eq_or_lt_of_le (foremost.earliest _ found size_eq) with same | later
      · have rule_eq : candidate.rule = second.rule := by
          have registeredHere := foremost.offered.registered
          rw [same, found.registered] at registeredHere
          exact (Option.some.inj registeredHere).symm
        have inside := (List.getElem?_eq_some_iff.mp registered).1
        have distinct := permuted.nodup_iff.mpr different
        apply Nat.le_of_eq
        apply (List.getElem?_inj inside distinct).mp
        rw [registered, rule_eq, offered.registered]
      · exact Nat.le_of_lt (ordered foremost.offered found size_eq.symm later registered
          offered.registered)
  unoffered := by
    intro cursor state none_left candidate offered
    obtain ⟨number, found⟩ := List.mem_iff_getElem?.mp
      (permuted.mem_iff.mp (List.mem_of_getElem? offered.registered))
    exact none_left _ (offered.with_index policy_eq.symm found)

end Table

end Munch
