import Munch.Proofs.Sweep

/-!
# Leaving out tokens

A lexer can be made to hand out only some of its tokens by changing its actions and its fallback: a
match whose tokens are all left out is accepted without a token.  The steps are the same for both
lexers, with the same sessions before and behind, since neither the choice of a candidate nor its
effect on cursor and state depends on tokens.  So the lexer that leaves out tokens gives what the
other gives, without them.
-/

namespace Munch

/-! ## What is left of the parts of a lexer -/

namespace Outcome

variable {τ : Type}

/-- The outcome without the tokens that are not kept. -/
def filter (keep : τ → Bool) : Outcome τ → Outcome τ
  | emit token => if keep token then emit token else suppress
  | emitAll tokens => emitAll (tokens.filter keep)
  | suppress => suppress
  | reject => reject

@[simp]
theorem tokens_filter (keep : τ → Bool) (outcome : Outcome τ) :
    (outcome.filter keep).tokens = outcome.tokens.filter keep := by
  cases outcome with
  | emit token => cases kept : keep token <;> simp [filter, tokens, kept]
  | _ => rfl

/-- What is accepted stays accepted. -/
@[simp]
theorem isReject_filter (keep : τ → Bool) (outcome : Outcome τ) :
    (outcome.filter keep).isReject = outcome.isReject := by
  cases outcome with
  | emit token => cases kept : keep token <;> simp [filter, isReject, kept]
  | _ => rfl

end Outcome

section

variable {σ τ : Type} (keep : τ → Bool)

/-- The decision without the tokens that are not kept. -/
def Decision.filter (decision : Decision τ) : Decision τ :=
  { decision with outcome := decision.outcome.filter keep }

/-- The action without the tokens that are not kept. -/
def Action.filter (action : Action τ) : Action τ :=
  fun matched context => (action matched context).filter keep

/-- The rule without the tokens that are not kept. -/
def Rule.filter (rule : Rule τ) : Rule τ :=
  { rule with action := rule.action.filter keep }

/-- The candidate with the rule that leaves out tokens. -/
def Candidate.filter (candidate : Candidate τ) : Candidate τ :=
  { candidate with rule := candidate.rule.filter keep }

/-- The table whose rules leave out tokens. -/
def Table.filter (table : Table τ) : Table τ :=
  { table with rules := table.rules.map (Rule.filter keep) }

/-- The fallback without the tokens that are not kept. -/
def Fallback.filter (fallback : Fallback σ τ) : Fallback σ τ :=
  fun char position memory =>
    ((fallback char position memory).1.map (Outcome.filter keep),
      (fallback char position memory).2)

/-- The lexer that hands out only the tokens that are kept. -/
def Lexer.filter (lexer : Lexer σ τ) : Lexer σ τ :=
  ⟨lexer.table.filter keep, lexer.fallback.filter keep⟩

/-- The event without the tokens that are not kept. -/
def Event.filter : Event τ → Event τ
  | applied index matched context decision =>
      applied index matched context (decision.filter keep)
  | unmatched char position answer => unmatched char position (answer.map (Outcome.filter keep))

/-- The run without the tokens that are not kept. -/
def Run.filter (run : Run σ τ (Except LexError (List τ))) :
    Run σ τ (Except LexError (List τ)) :=
  ⟨run.result.map (List.filter keep), run.session, run.events.map (Event.filter keep)⟩

end

/-! ## Builders -/

namespace Builder

variable {τ : Type}

/-- The builder of a table whose rules leave out tokens. -/
def filter (keep : τ → Bool) (builder : Builder τ) : Builder τ :=
  ⟨builder.table.filter keep, builder.error⟩

theorem filter_empty (keep : τ → Bool) : ({} : Builder τ).filter keep = {} :=
  rfl

/-- A rule that leaves out tokens is added to rules that do. -/
theorem filter_ruleIn (keep : τ → Bool) (builder : Builder τ) (states : StateSet)
    (pattern : Pattern) (action : Action τ) :
    (builder.ruleIn states pattern action).filter keep =
      (builder.filter keep).ruleIn states pattern (action.filter keep) := by
  obtain ⟨table, error⟩ := builder
  cases error with
  | some error => rfl
  | none =>
      cases compiled : pattern.compile? with
      | none => simp [ruleIn, filter, Table.register, Table.filter, Table.size, compiled]
      | some matcher => simp [ruleIn, filter, Table.register, Table.filter, Rule.filter, compiled]

/-- Whether a table can be built has nothing to do with its tokens. -/
theorem build_filter (keep : τ → Bool) (builder : Builder τ) :
    (builder.filter keep).build = builder.build.map (Table.filter keep) := by
  obtain ⟨table, _ | error⟩ := builder <;> rfl

end Builder

/-! ## The same steps -/

namespace Lexer

variable {σ τ : Type} {lexer : Lexer σ τ} {session middle : Session σ τ} {keep : τ → Bool}

/-- The candidates are the same but for their actions. -/
theorem offers_filter_iff {candidate : Candidate τ} :
    (lexer.filter keep).Offers session candidate ↔
      ∃ original, lexer.Offers session original ∧ original.filter keep = candidate := by
  constructor
  · rintro ⟨registered, admitted, eligible, matching⟩
    rw [show (lexer.filter keep).table.rules = lexer.table.rules.map (Rule.filter keep) from rfl,
      List.getElem?_map, Option.map_eq_some_iff] at registered
    obtain ⟨rule, registered, rule_eq⟩ := registered
    rcases candidate with ⟨index, _, matched⟩
    cases rule_eq
    exact ⟨⟨index, rule, matched⟩, ⟨registered, admitted, eligible, matching⟩, rfl⟩
  · rintro ⟨original, ⟨registered, admitted, eligible, matching⟩, rfl⟩
    refine ⟨?_, admitted, eligible, matching⟩
    change (lexer.table.rules.map (Rule.filter keep))[original.index]? = _
    rw [List.getElem?_map, registered]
    rfl

theorem Best.filter {candidate : Candidate τ} (best : lexer.Best session candidate) :
    (lexer.filter keep).Best session (candidate.filter keep) := by
  refine ⟨offers_filter_iff.mpr ⟨candidate, best.offered, rfl⟩, ?_, ?_⟩
  · intro other otherOffered
    obtain ⟨original, offered, rfl⟩ := offers_filter_iff.mp otherOffered
    exact best.longest original offered
  · intro other otherOffered
    obtain ⟨original, offered, rfl⟩ := offers_filter_iff.mp otherOffered
    exact best.earliest original offered

/-- A step is also a step of the lexer that leaves out tokens, to the same session. -/
theorem Step.filter {event : Event τ} (step : lexer.Step session event middle) :
    (lexer.filter keep).Step session (event.filter keep) middle := by
  cases step with
  | @reject candidate decision best decided rejected =>
      have filtered : (lexer.filter keep).Best session (candidate.filter keep) := best.filter
      have stays : (decision.filter keep).outcome.isReject = true := by
        rwa [Decision.filter, Outcome.isReject_filter]
      have step := Step.reject filtered (congrArg (Decision.filter keep) decided) stays
      exact step
  | @accept candidate decision best decided accepted =>
      have filtered : (lexer.filter keep).Best session (candidate.filter keep) := best.filter
      have stays : (decision.filter keep).outcome.isReject = false := by
        rwa [Decision.filter, Outcome.isReject_filter]
      have step := Step.accept filtered (congrArg (Decision.filter keep) decided) stays
      exact step
  | @unmatched char cursor answer memory none_left advanced answered =>
      have filtered : (lexer.filter keep).fallback char session.position session.memory =
          (answer.map (Outcome.filter keep), memory) := by
        change (Except.map _ (lexer.fallback char session.position session.memory).1,
          (lexer.fallback char session.position session.memory).2) = _
        rw [answered]
      refine .unmatched ?_ advanced filtered
      intro candidate offered
      obtain ⟨original, originalOffered, _⟩ := offers_filter_iff.mp offered
      exact none_left original originalOffered

end Lexer

/-! ## The same sweeps -/

namespace Event

variable {τ : Type} (keep : τ → Bool)

theorem tokens_filter (event : Event τ) :
    (event.filter keep).tokens = event.tokens.filter keep := by
  rcases event with _ | ⟨_, _, _ | _⟩
  · exact Outcome.tokens_filter keep _
  · rfl
  · exact Outcome.tokens_filter keep _

theorem error?_filter (event : Event τ) : (event.filter keep).error? = event.error? := by
  rcases event with _ | ⟨_, _, _ | _⟩ <;> rfl

end Event

namespace Lexer

variable {σ τ : Type} {lexer : Lexer σ τ} {session : Session σ τ} {keep : τ → Bool}

/-- A sweep is also a sweep of the lexer that leaves out tokens, without these. -/
theorem Sweeps.filter {run : Run σ τ (Except LexError (List τ))}
    (sweeps : lexer.Sweeps session run) :
    (lexer.filter keep).Sweeps session (run.filter keep) := by
  induction sweeps with
  | @step session middle event run step error_eq _ ih =>
      have sweeps := Sweeps.step step.filter ((event.error?_filter keep).trans error_eq) ih
      rw [Event.tokens_filter] at sweeps
      obtain ⟨_ | tokens, final, events⟩ := run
      · exact sweeps
      · simpa [Run.filter, Run.after, Run.withTokens, Run.map, Except.map] using sweeps
  | error step error_eq => exact .error step.filter ((Event.error?_filter keep _).trans error_eq)
  | finish none_left ended =>
      refine .finish ?_ ended
      intro candidate offered
      obtain ⟨original, originalOffered, _⟩ := offers_filter_iff.mp offered
      exact none_left original originalOffered

/-- A lexer that leaves out tokens starts like the other. -/
theorem start_filter (lexer : Lexer σ τ) (keep : τ → Bool) (input : Text) (memory : σ) :
    (lexer.filter keep).start input memory = lexer.start input memory := by
  simp [start, Lexer.filter, Table.filter]

/-- A lexer that leaves out tokens gives all others, in the same order, and the same errors. -/
theorem tokenize_filter (pending_eq : session.pending = []) (unfinished : session.phase ≠ .done) :
    (lexer.filter keep).tokenize session = (lexer.tokenize session).filter keep :=
  (sweeps_tokenize pending_eq unfinished).deterministic
    (sweeps_tokenize pending_eq unfinished).filter

end Lexer

end Munch
