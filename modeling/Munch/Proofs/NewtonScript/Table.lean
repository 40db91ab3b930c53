import Munch.NewtonScript.Rules
import Munch.Proofs.Building
import Munch.Proofs.Regex.Reading

/-!
# The table of NewtonScript

The rules of NewtonScript as a list of entries.  The patterns are the same under all options; they
are well-formed, and each of them reads at least one character.  Both are found out by reading them
once.
-/

namespace Munch.NewtonScript

/-- What is said of each rule, in order. -/
def entries (options : Options) : List (Entry (Token Category)) :=
  let code := StateSet.ofList [initialState]
  let comment := StateSet.ofList [commentState]
  let keep := options.keepComments
  [⟨code, Patterns.reservedWord, Action.token .reservedWord⟩,
    ⟨code, Patterns.real, Action.token .real⟩,
    ⟨code, Patterns.integer, integerAction⟩,
    ⟨code, Patterns.character, Action.token .character⟩,
    ⟨code, Patterns.string, Action.token .string⟩,
    ⟨code, Patterns.symbol, Action.token .symbol⟩,
    ⟨code, Patterns.operator, Action.token .operator⟩,
    ⟨code, Patterns.delimiter, Action.token .delimiter⟩,
    ⟨code, Patterns.whiteSpace, triviaAction .whiteSpace options.keepWhiteSpace⟩,
    ⟨code, Patterns.lineComment, triviaAction .comment keep⟩,
    ⟨code, Patterns.commentOpen, commentAction keep commentState⟩,
    ⟨comment, Patterns.commentBody, triviaAction .comment keep⟩,
    ⟨comment, Patterns.commentClose, commentAction keep initialState⟩]

theorem rules_eq_build_addAll (options : Options) :
    rules options = (({} : Builder (Token Category)).addAll (entries options)).build := by
  unfold rules entries
  repeat rw [Builder.addAll_cons]
  rw [Builder.addAll_nil]
  rfl

/-- The patterns of the rules, in order. -/
def patterns : List Pattern :=
  [Patterns.reservedWord, Patterns.real, Patterns.integer, Patterns.character, Patterns.string,
    Patterns.symbol, Patterns.operator, Patterns.delimiter, Patterns.whiteSpace,
    Patterns.lineComment, Patterns.commentOpen, Patterns.commentBody, Patterns.commentClose]

theorem map_pattern_entries (options : Options) :
    (entries options).map Entry.pattern = patterns :=
  rfl

/-- Every pattern is well-formed and reads at least one character. -/
theorem exists_matcher_of_mem_patterns {pattern : Pattern} (member : pattern ∈ patterns) :
    ∃ matcher, pattern.compile? = some matcher ∧ matcher.regex.alwaysReads = true := by
  have checked : patterns.all (fun pattern =>
      pattern.compile?.any fun matcher => matcher.regex.alwaysReads) = true := by
    decide +kernel
  exact (Option.any_eq_true _ _).mp (List.all_eq_true.mp checked pattern member)

theorem exists_matcher_of_mem_entries {options : Options} {entry : Entry (Token Category)}
    (member : entry ∈ entries options) :
    ∃ matcher, entry.pattern.compile? = some matcher ∧ matcher.regex.alwaysReads = true := by
  apply exists_matcher_of_mem_patterns
  rw [← map_pattern_entries options]
  exact List.mem_map_of_mem member

/-- The table holds the rules of the entries, in order. -/
theorem exists_rules_eq_entries (options : Options) :
    ∃ made, (entries options).map Entry.rule? = made.map some ∧
      rules options = .ok { rules := made } := by
  obtain ⟨made, made_eq⟩ := Entry.exists_rules fun entry member => by
    obtain ⟨matcher, compiled, _⟩ := exists_matcher_of_mem_entries member
    exact ⟨matcher, compiled⟩
  refine ⟨made, made_eq, ?_⟩
  rw [rules_eq_build_addAll]
  exact Builder.build_addAll_of_rule? made_eq

/-- No rule of the table matches the empty text. -/
theorem alwaysReads_of_mem_rules {options : Options} {made : List (Rule (Token Category))}
    (made_eq : (entries options).map Entry.rule? = made.map some) {rule : Rule (Token Category)}
    (member : rule ∈ made) : rule.matcher.regex.alwaysReads = true := by
  obtain ⟨entry, entryMember, rule_eq⟩ := Entry.exists_of_mem_rules made_eq member
  obtain ⟨matcher, compiled, reads⟩ := exists_matcher_of_mem_entries entryMember
  obtain ⟨matcher_eq, _⟩ := Entry.rule?_eq_some_iff.mp rule_eq
  cases compiled.symm.trans matcher_eq
  exact reads

end Munch.NewtonScript
