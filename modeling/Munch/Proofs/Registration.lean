import Munch.Proofs.Building

/-!
# Registering rules and building tables

Rules get into a table in two ways.  They are registered one by one, where a malformed pattern is
refused and the table goes on as it was; or they are given to a builder, which keeps the first
refusal and adds nothing more, and whose policy can be set at any time.

`Table.registerAll` and `Builder.callAll` carry out any number of such calls.  What they come to can
be told from the entries alone: the table holds the rules of the well-formed ones in order, and the
builder fails with the first of the others.
-/

namespace Munch

/-- The rules of entries that are all well-formed. -/
theorem Entry.filterMap_rule?_of_map_eq {τ : Type} {entries : List (Entry τ)}
    {rules : List (Rule τ)} (made : entries.map rule? = rules.map some) :
    entries.filterMap rule? = rules := by
  have reduced := congrArg (List.filterMap id) made
  simpa only [List.filterMap_map, Function.id_comp, List.filterMap_some] using reduced

/-! ## Registering -/

namespace Table

variable {τ : Type} {table : Table τ} {entry : Entry τ} {entries : List (Entry τ)}

/-- Register a rule for each entry, whatever becomes of the others.  The answers come with the table
behind the last call. -/
def registerAll (table : Table τ) : List (Entry τ) → List (Except LexError Nat) × Table τ
  | [] => ([], table)
  | entry :: entries =>
      let call := table.register entry.states entry.pattern entry.action
      let others := call.2.registerAll entries
      (call.1 :: others.1, others.2)

/-- A malformed pattern is refused under the number that its rule would have had, and the table
stays as it was. -/
theorem register_of_compile?_eq_none (malformed : entry.pattern.compile? = none) :
    table.register entry.states entry.pattern entry.action =
      (.error (.malformedRule table.size entry.pattern.source), table) := by
  simp [register, malformed]

/-- A well-formed pattern puts its rule behind the others. -/
theorem register_of_rule? {rule : Rule τ} (made : entry.rule? = some rule) :
    table.register entry.states entry.pattern entry.action =
      (.ok table.size, { table with rules := table.rules ++ [rule] }) := by
  rcases rule with ⟨pattern, matcher, states, action⟩
  obtain ⟨compiled, rfl, rfl, rfl⟩ := Entry.rule?_eq_some_iff.mp made
  simp [register, compiled]

/-- Registering keeps the rules there are and adds those of the well-formed entries, in order. -/
theorem registerAll_snd (table : Table τ) (entries : List (Entry τ)) :
    (table.registerAll entries).2 =
      { table with rules := table.rules ++ entries.filterMap Entry.rule? } := by
  induction entries generalizing table with
  | nil => simp [registerAll]
  | cons entry entries ih =>
      cases made : entry.rule? with
      | none =>
          have malformed : entry.pattern.compile? = none := Option.map_eq_none_iff.mp made
          rw [registerAll, register_of_compile?_eq_none malformed, List.filterMap_cons_none made]
          exact ih table
      | some rule =>
          rw [registerAll, register_of_rule? made, List.filterMap_cons_some made]
          apply (ih _).trans
          rw [List.append_assoc]
          rfl

/-- Calls in a row are carried out in two parts, the second of them on the table behind the
first. -/
theorem registerAll_append (table : Table τ) (entries others : List (Entry τ)) :
    table.registerAll (entries ++ others) =
      ((table.registerAll entries).1 ++ ((table.registerAll entries).2.registerAll others).1,
        ((table.registerAll entries).2.registerAll others).2) := by
  induction entries generalizing table with
  | nil => rfl
  | cons entry entries ih =>
      rw [List.cons_append, registerAll, ih]
      rfl

/-- Every call is answered. -/
theorem length_registerAll_fst (table : Table τ) (entries : List (Entry τ)) :
    (table.registerAll entries).1.length = entries.length := by
  induction entries generalizing table with
  | nil => rfl
  | cons entry entries ih => exact congrArg (· + 1) (ih _)

/-- The answer to a call is the one that the table gives which the calls before it have led to. -/
theorem getElem?_registerAll_fst (table : Table τ) (before : List (Entry τ)) (entry : Entry τ)
    (behind : List (Entry τ)) :
    (table.registerAll (before ++ entry :: behind)).1[before.length]? =
      some ((table.registerAll before).2.register entry.states entry.pattern entry.action).1 := by
  have answered := length_registerAll_fst table before
  rw [registerAll_append, List.getElem?_append_right (Nat.le_of_eq answered), answered,
    Nat.sub_self]
  rfl

/-- A rule keeps its number whatever is registered behind it. -/
theorem getElem?_rules_registerAll_append {before : List (Entry τ)} {index : Nat} {rule : Rule τ}
    (registered : (table.registerAll before).2.rules[index]? = some rule)
    (behind : List (Entry τ)) :
    (table.registerAll (before ++ behind)).2.rules[index]? = some rule := by
  have inside := (List.getElem?_eq_some_iff.mp registered).1
  rw [registerAll_append, registerAll_snd, List.getElem?_append_left inside]
  exact registered

end Table

/-! ## Building -/

/-- A call on a builder.  Only a builder of tokens can be told to make tokens of the matches. -/
inductive Call : Type → Type 1
  | policy {τ : Type} (chosen : StatePolicy) : Call τ
  | rule {τ : Type} (pattern : Pattern) (action : Action τ) : Call τ
  | ruleIn {τ : Type} (states : StateSet) (pattern : Pattern) (action : Action τ) : Call τ
  | skip {τ : Type} (pattern : Pattern) : Call τ
  | skipIn {τ : Type} (states : StateSet) (pattern : Pattern) : Call τ
  | token {κ : Type} (pattern : Pattern) (kind : κ) : Call (Token κ)
  | tokenIn {κ : Type} (states : StateSet) (pattern : Pattern) (kind : κ) : Call (Token κ)

namespace Call

variable {τ : Type} {request : Call τ} {calls : List (Call τ)}

/-- What is said of the rule that is to be added, unless the call is about the policy. -/
def entry? {τ : Type} : Call τ → Option (Entry τ)
  | policy _ => none
  | rule pattern action => some ⟨.global, pattern, action⟩
  | ruleIn states pattern action => some ⟨states, pattern, action⟩
  | skip pattern => some ⟨.global, pattern, Action.skip⟩
  | skipIn states pattern => some ⟨states, pattern, Action.skip⟩
  | token pattern kind => some ⟨.global, pattern, Action.token kind⟩
  | tokenIn states pattern kind => some ⟨states, pattern, Action.token kind⟩

/-- The policy that is set, if there is one. -/
def policy? {τ : Type} : Call τ → Option StatePolicy
  | policy chosen => some chosen
  | _ => none

/-- The entries of the rules that are to be added by some calls, in order. -/
def entries (calls : List (Call τ)) : List (Entry τ) :=
  calls.filterMap entry?

/-- The policy behind some calls: the last that they set, or else the one before them. -/
def lastPolicy (initial : StatePolicy) (calls : List (Call τ)) : StatePolicy :=
  (calls.filterMap policy?).getLast?.getD initial

theorem lastPolicy_cons_of_eq_some {initial chosen : StatePolicy}
    (sets : request.policy? = some chosen) :
    lastPolicy initial (request :: calls) = lastPolicy chosen calls := by
  unfold lastPolicy
  rw [List.filterMap_cons_some sets, List.getLast?_cons, Option.getD_some]

theorem lastPolicy_cons_of_eq_none {initial : StatePolicy} (sets : request.policy? = none) :
    lastPolicy initial (request :: calls) = lastPolicy initial calls := by
  unfold lastPolicy
  rw [List.filterMap_cons_none sets]

end Call

namespace Builder

variable {τ : Type} {builder : Builder τ} {calls : List (Call τ)}

/-- Carry out a call. -/
def call {τ : Type} (builder : Builder τ) : Call τ → Builder τ
  | .policy chosen => builder.policy chosen
  | .rule pattern action => builder.rule pattern action
  | .ruleIn states pattern action => builder.ruleIn states pattern action
  | .skip pattern => builder.skip pattern
  | .skipIn states pattern => builder.skipIn states pattern
  | .token pattern kind => builder.token pattern kind
  | .tokenIn states pattern kind => builder.tokenIn states pattern kind

/-- Carry out calls one after the other. -/
def callAll (builder : Builder τ) (calls : List (Call τ)) : Builder τ :=
  calls.foldl call builder

/-- A call sets the policy or adds the rule of an entry. -/
theorem call_cases (builder : Builder τ) (request : Call τ) :
    (∃ chosen, request.entry? = none ∧ request.policy? = some chosen ∧
        builder.call request = builder.policy chosen) ∨
      ∃ entry, request.entry? = some entry ∧ request.policy? = none ∧
        builder.call request = builder.ruleIn entry.states entry.pattern entry.action := by
  cases request with
  | policy chosen => exact .inl ⟨chosen, rfl, rfl, rfl⟩
  | _ => exact .inr ⟨_, rfl, rfl, rfl⟩

/-- A builder that has failed adds no rule. -/
theorem ruleIn_of_error {error : LexError} (failed : builder.error = some error) (states : StateSet)
    (pattern : Pattern) (action : Action τ) : builder.ruleIn states pattern action = builder := by
  simp [ruleIn, failed]

/-- The first malformed pattern is the failure of the builder. -/
theorem ruleIn_of_compile?_eq_none {entry : Entry τ} (unfailed : builder.error = none)
    (malformed : entry.pattern.compile? = none) :
    builder.ruleIn entry.states entry.pattern entry.action =
      ⟨builder.table, some (.malformedRule builder.table.size entry.pattern.source)⟩ := by
  simp [ruleIn, unfailed, Table.register_of_compile?_eq_none malformed]

/-- A builder that has failed keeps its failure. -/
theorem callAll_of_error {error : LexError} (failed : builder.error = some error) :
    (builder.callAll calls).error = some error := by
  induction calls generalizing builder with
  | nil => exact failed
  | cons request calls ih =>
      apply ih
      rcases call_cases builder request with ⟨chosen, _, _, call_eq⟩ | ⟨entry, _, _, call_eq⟩
      · rw [call_eq]
        exact failed
      · rw [call_eq, ruleIn_of_error failed]
        exact failed

/-- As long as all patterns are well-formed, a builder adds their rules and takes the policy that is
set last. -/
theorem callAll_of_rule? {rules : List (Rule τ)} (unfailed : builder.error = none)
    (made : (Call.entries calls).map Entry.rule? = rules.map some) :
    builder.callAll calls =
      { table :=
          { rules := builder.table.rules ++ rules
            policy := Call.lastPolicy builder.table.policy calls }
        error := none } := by
  induction calls generalizing builder rules with
  | nil =>
      obtain ⟨⟨old, policy⟩, error⟩ := builder
      cases rules with
      | nil => simpa [callAll, Call.lastPolicy] using unfailed
      | cons rule rules => simp [Call.entries] at made
  | cons request calls ih =>
      change (builder.call request).callAll calls = _
      unfold Call.entries at made
      rcases call_cases builder request with
        ⟨chosen, no_entry, sets, call_eq⟩ | ⟨entry, has_entry, sets_nothing, call_eq⟩
      · rw [List.filterMap_cons_none no_entry] at made
        rw [call_eq, Call.lastPolicy_cons_of_eq_some sets]
        exact ih unfailed made
      · rw [List.filterMap_cons_some has_entry] at made
        cases rules with
        | nil => simp at made
        | cons rule rules =>
            obtain ⟨first, others⟩ := List.cons.inj made
            rw [call_eq, ruleIn_of_rule? unfailed first,
              Call.lastPolicy_cons_of_eq_none sets_nothing]
            apply (ih _ others).trans
            · rw [List.append_assoc]
              rfl
            · exact unfailed

/-- The first malformed pattern is what a builder fails with, under the number of the rules before
it. -/
theorem error_callAll_of_malformed {before behind : List (Entry τ)} {entry : Entry τ}
    (unfailed : builder.error = none) (split : Call.entries calls = before ++ entry :: behind)
    (formed : ∀ earlier ∈ before, earlier.pattern.compile? ≠ none)
    (malformed : entry.pattern.compile? = none) :
    (builder.callAll calls).error =
      some (.malformedRule (builder.table.size + before.length) entry.pattern.source) := by
  induction calls generalizing builder before with
  | nil => simp [Call.entries] at split
  | cons request calls ih =>
      change ((builder.call request).callAll calls).error = _
      unfold Call.entries at split
      rcases call_cases builder request with
        ⟨chosen, no_entry, _, call_eq⟩ | ⟨found, has_entry, _, call_eq⟩
      · rw [List.filterMap_cons_none no_entry] at split
        rw [call_eq]
        exact ih unfailed split formed
      · rw [List.filterMap_cons_some has_entry] at split
        rw [call_eq]
        cases before with
        | nil =>
            obtain ⟨rfl, _⟩ := List.cons.inj split
            rw [ruleIn_of_compile?_eq_none unfailed malformed]
            exact callAll_of_error rfl
        | cons earlier before =>
            obtain ⟨rfl, others⟩ := List.cons.inj split
            obtain ⟨compiles, formed⟩ := List.forall_mem_cons.mp formed
            obtain ⟨matcher, compiled⟩ := Option.ne_none_iff_exists'.mp compiles
            have made : found.rule? =
                some ⟨found.pattern, matcher, found.states, found.action⟩ := by
              simp [Entry.rule?, compiled]
            rw [ruleIn_of_rule? unfailed made]
            apply (ih _ others formed).trans
            · simp only [Table.size, List.length_append, List.length_cons, List.length_nil]
              congr 2
              omega
            · exact unfailed

/-- A builder whose patterns are all well-formed gives the table in which their rules are registered
under the policy that is set last. -/
theorem build_callAll_of_formed
    (formed : ∀ entry ∈ Call.entries calls, entry.pattern.compile? ≠ none) :
    (({} : Builder τ).callAll calls).build =
      .ok (Table.registerAll { policy := Call.lastPolicy .exact calls }
        (Call.entries calls)).2 := by
  obtain ⟨rules, made⟩ := Entry.exists_rules fun entry member =>
    Option.ne_none_iff_exists'.mp (formed entry member)
  rw [callAll_of_rule? rfl made, Table.registerAll_snd, Entry.filterMap_rule?_of_map_eq made]
  rfl

/-- A builder fails with the first malformed pattern that it is given. -/
theorem build_callAll_of_malformed {before behind : List (Entry τ)} {entry : Entry τ}
    (split : Call.entries calls = before ++ entry :: behind)
    (formed : ∀ earlier ∈ before, earlier.pattern.compile? ≠ none)
    (malformed : entry.pattern.compile? = none) :
    (({} : Builder τ).callAll calls).build =
      .error (.malformedRule before.length entry.pattern.source) := by
  have failed : (({} : Builder τ).callAll calls).error =
      some (.malformedRule (0 + before.length) entry.pattern.source) :=
    error_callAll_of_malformed rfl split formed malformed
  rw [Nat.zero_add] at failed
  rw [build, failed]

end Builder

/-- Whatever is registered: the call for a malformed pattern is answered with the number that the
rule would have had and with the pattern, and the table is as before; any other call is answered
with the number of rules before it and puts its rule under that number; and rules keep their numbers
in all that follows, so that in the end the table holds the old rules and the well-formed new ones,
in order.  A builder gives a table exactly if all its patterns are well-formed, namely the one in
which the same rules are registered under the policy set last; otherwise it fails with the first
malformed pattern and its number among the rules. -/
theorem Table.registerAll_and_build_callAll (τ : Type) :
    (∀ (table : Table τ) (before : List (Entry τ)) (entry : Entry τ) (behind : List (Entry τ)),
      let reached := (table.registerAll before).2
      let next := (table.registerAll (before ++ [entry])).2
      let final := table.registerAll (before ++ entry :: behind)
      (entry.pattern.compile? = none →
        final.1[before.length]? =
            some (.error (.malformedRule reached.size entry.pattern.source)) ∧
          next = reached) ∧
      (∀ matcher, entry.pattern.compile? = some matcher →
        let rule : Rule τ := ⟨entry.pattern, matcher, entry.states, entry.action⟩
        final.1[before.length]? = some (.ok reached.size) ∧
          next = { reached with rules := reached.rules ++ [rule] } ∧
          final.2.rules[reached.size]? = some rule) ∧
      ∀ (index : Nat) rule, reached.rules[index]? = some rule →
        final.2.rules[index]? = some rule) ∧
    (∀ (table : Table τ) (entries : List (Entry τ)),
      (table.registerAll entries).1.length = entries.length ∧
        (table.registerAll entries).2 =
          { table with rules := table.rules ++ entries.filterMap Entry.rule? }) ∧
    ∀ calls : List (Call τ),
      let entries := Call.entries calls
      let built := (({} : Builder τ).callAll calls).build
      ((∃ table, built = .ok table) ↔ ∀ entry ∈ entries, entry.pattern.compile? ≠ none) ∧
      ((∀ entry ∈ entries, entry.pattern.compile? ≠ none) →
        built = .ok (Table.registerAll { policy := Call.lastPolicy .exact calls } entries).2) ∧
      ∀ before entry behind, entries = before ++ entry :: behind →
        (∀ earlier ∈ before, earlier.pattern.compile? ≠ none) → entry.pattern.compile? = none →
        built = .error (.malformedRule before.length entry.pattern.source) := by
  refine ⟨?_, ?_, ?_⟩
  · intro table before entry behind reached next final
    have answer_eq : final.1[before.length]? =
        some (reached.register entry.states entry.pattern entry.action).1 :=
      getElem?_registerAll_fst table before entry behind
    have next_eq : next = (reached.register entry.states entry.pattern entry.action).2 :=
      congrArg Prod.snd (registerAll_append table before [entry])
    have final_eq : final = table.registerAll (before ++ [entry] ++ behind) := by simp [final]
    refine ⟨?_, ?_, ?_⟩
    · intro malformed
      rw [register_of_compile?_eq_none malformed] at answer_eq next_eq
      exact ⟨answer_eq, next_eq⟩
    · intro matcher compiled rule
      have made : entry.rule? = some rule := by simp [Entry.rule?, compiled, rule]
      rw [register_of_rule? made] at answer_eq next_eq
      refine ⟨answer_eq, next_eq, ?_⟩
      have registered : next.rules[reached.size]? = some rule := by
        rw [next_eq]
        exact List.getElem?_concat_length
      rw [final_eq]
      exact getElem?_rules_registerAll_append registered behind
    · intro index rule registered
      exact getElem?_rules_registerAll_append registered _
  · intro table entries
    exact ⟨table.length_registerAll_fst entries, table.registerAll_snd entries⟩
  · intro calls entries built
    refine ⟨⟨?_, ?_⟩, Builder.build_callAll_of_formed, ?_⟩
    · rintro ⟨table, built_eq⟩ entry member malformed
      -- the first malformed pattern would be the failure of the builder
      have some_malformed : (entries.find? fun entry => entry.pattern.compile?.isNone).isSome :=
        List.find?_isSome.mpr ⟨entry, member, Option.isNone_iff_eq_none.mpr malformed⟩
      obtain ⟨first, found⟩ := Option.isSome_iff_exists.mp some_malformed
      obtain ⟨malformed, before, behind, split, formed⟩ := List.find?_eq_some_iff_append.mp found
      have failed : built = _ := Builder.build_callAll_of_malformed split
        (by simpa [Option.isSome_iff_ne_none] using formed) (Option.isNone_iff_eq_none.mp malformed)
      rw [built_eq] at failed
      contradiction
    · intro formed
      exact ⟨_, Builder.build_callAll_of_formed formed⟩
    · intro before entry behind split formed malformed
      exact Builder.build_callAll_of_malformed split formed malformed

end Munch
