import Munch.Table

/-!
# Tables from lists of entries

A table is usually built in one go, rule by rule.  What goes into a builder is then a list of
entries, and the table holds the rules of these entries in the same order, provided that all of
their patterns are well-formed.
-/

namespace Munch

/-- What is said of a rule when it is added to a table. -/
structure Entry (τ : Type) where
  states : StateSet
  pattern : Pattern
  action : Action τ

namespace Entry

variable {τ : Type}

/-- The rule of an entry, if its pattern is well-formed. -/
def rule? (entry : Entry τ) : Option (Rule τ) :=
  entry.pattern.compile?.map fun matcher => ⟨entry.pattern, matcher, entry.states, entry.action⟩

theorem rule?_eq_some_iff {entry : Entry τ} {rule : Rule τ} :
    entry.rule? = some rule ↔ entry.pattern.compile? = some rule.matcher ∧
      rule.pattern = entry.pattern ∧ rule.states = entry.states ∧ rule.action = entry.action := by
  unfold rule?
  constructor
  · intro made
    obtain ⟨matcher, compiled, rfl⟩ := Option.map_eq_some_iff.mp made
    exact ⟨compiled, rfl, rfl, rfl⟩
  · rcases rule with ⟨pattern, matcher, states, action⟩
    rintro ⟨compiled, rfl, rfl, rfl⟩
    simp [compiled]

/-- Entries with well-formed patterns have their rules. -/
theorem exists_rules {entries : List (Entry τ)}
    (formed : ∀ entry ∈ entries, ∃ matcher, entry.pattern.compile? = some matcher) :
    ∃ rules : List (Rule τ), entries.map rule? = rules.map some := by
  induction entries with
  | nil => exact ⟨[], rfl⟩
  | cons entry entries ih =>
      obtain ⟨⟨matcher, compiled⟩, others⟩ := List.forall_mem_cons.mp formed
      obtain ⟨rules, rules_eq⟩ := ih others
      exact ⟨⟨entry.pattern, matcher, entry.states, entry.action⟩ :: rules, by
        simp [rule?, compiled, rules_eq]⟩

/-- A rule comes from its entry. -/
theorem exists_of_mem_rules {entries : List (Entry τ)} {rules : List (Rule τ)} {rule : Rule τ}
    (made : entries.map rule? = rules.map some) (member : rule ∈ rules) :
    ∃ entry ∈ entries, entry.rule? = some rule := by
  have among : some rule ∈ entries.map rule? := made ▸ List.mem_map_of_mem member
  exact List.mem_map.mp among

end Entry

namespace Builder

variable {τ : Type}

/-- Add a rule for each entry. -/
def addAll (builder : Builder τ) (entries : List (Entry τ)) : Builder τ :=
  entries.foldl (fun builder entry => builder.ruleIn entry.states entry.pattern entry.action) builder

theorem addAll_nil (builder : Builder τ) : builder.addAll [] = builder :=
  rfl

theorem addAll_cons (builder : Builder τ) (entry : Entry τ) (entries : List (Entry τ)) :
    builder.addAll (entry :: entries) =
      (builder.ruleIn entry.states entry.pattern entry.action).addAll entries :=
  rfl

/-- A well-formed entry puts its rule behind the others. -/
theorem ruleIn_of_rule? {builder : Builder τ} {entry : Entry τ} {rule : Rule τ}
    (unfailed : builder.error = none) (made : entry.rule? = some rule) :
    builder.ruleIn entry.states entry.pattern entry.action =
      { builder with
        table := { builder.table with rules := builder.table.rules ++ [rule] } } := by
  rcases rule with ⟨pattern, matcher, states, action⟩
  obtain ⟨compiled, rfl, rfl, rfl⟩ := Entry.rule?_eq_some_iff.mp made
  simp [ruleIn, Table.register, unfailed, compiled]

/-- Well-formed entries put their rules behind the others, in order. -/
theorem addAll_of_rule? {builder : Builder τ} {entries : List (Entry τ)} {rules : List (Rule τ)}
    (unfailed : builder.error = none) (made : entries.map Entry.rule? = rules.map some) :
    builder.addAll entries =
      { builder with table := { builder.table with rules := builder.table.rules ++ rules } } := by
  induction entries generalizing builder rules with
  | nil =>
      cases rules with
      | nil => simp [addAll_nil]
      | cons rule rules => simp at made
  | cons entry entries ih =>
      cases rules with
      | nil => simp at made
      | cons rule rules =>
          obtain ⟨first, others⟩ := List.cons.inj made
          rw [addAll_cons, ruleIn_of_rule? unfailed first]
          apply (ih _ others).trans
          · simp
          · exact unfailed

/-- A table of well-formed entries holds their rules in order. -/
theorem build_addAll_of_rule? {entries : List (Entry τ)} {rules : List (Rule τ)}
    (made : entries.map Entry.rule? = rules.map some) :
    (({} : Builder τ).addAll entries).build = .ok { rules := rules } := by
  rw [addAll_of_rule? rfl made]
  rfl

end Builder

end Munch
