import Mathlib.Data.List.NodupEquivFin
import Mathlib.Data.List.Perm.Basic
import Munch.Proofs.Decision
import Munch.Proofs.NewtonScript.Spelling
import Munch.Proofs.StateSets

/-!
# Maximal munch

In NewtonScript the longest match always wins, and there is one tie only: a reserved word is as long
as the symbol it would otherwise be.  This is because lexemes of different forms are spelled
differently.

The first candidate is always accepted.  The one action that may reject is that of integers, in
front of a point; but there a real is read, and it is longer.  So the table is decisive, and its
rules may be registered in any order that keeps reserved words before symbols.
-/

namespace Munch

/-- Of two matches at the same cursor, the same number of bytes is the same text. -/
theorem Rule.text_eq_of_size_eq {τ : Type} {first second : Rule τ} {cursor : Cursor}
    {matched other : Match} (found : first.match? cursor = some matched)
    (otherFound : second.match? cursor = some other) (size_eq : matched.size = other.size) :
    matched.text = other.text := by
  obtain ⟨_, rest_eq, _⟩ := Rule.eq_of_match? found
  obtain ⟨_, otherRest_eq, _⟩ := Rule.eq_of_match? otherFound
  have divided := Text.cut?_eq_some_iff.mpr ⟨rest_eq, rfl⟩
  have otherDivided := Text.cut?_eq_some_iff.mpr ⟨otherRest_eq, size_eq.symm⟩
  exact congrArg Prod.fst (Option.some.inj (divided.symm.trans otherDivided))

namespace NewtonScript

open Regex

/-- The table of the rules of some forms. -/
def tableOf (options : Options) (forms : List Form) : Table (Token Category) :=
  { rules := forms.map (Form.rule options) }

namespace Form

theorem pattern_injective : Function.Injective pattern := by
  have checked : ∀ form ∈ all, ∀ other ∈ all, form.pattern = other.pattern → form = other := by
    decide +kernel
  intro form other same
  exact checked form form.mem_all other other.mem_all same

theorem rule_injective (options : Options) : Function.Injective (rule options) := by
  intro form other same
  exact pattern_injective (congrArg Rule.pattern same)

theorem nodup_all : all.Nodup := by
  decide

/-- A rule applies in the state of its form only. -/
theorem admits_rule_iff {options : Options} {form : Form} {state : StateId} :
    (form.rule options).states.admits .exact state = true ↔ form.state = state := by
  rw [rule, StateSet.admits_ofList_iff]
  simpa using eq_comm

theorem alwaysReads_regex (form : Form) : form.regex.alwaysReads = true := by
  cases form <;> decide +kernel

/-- Only the action of integers may reject. -/
theorem isReject_action {options : Options} {form : Form} (other : form ≠ integer)
    (matched : Match) (context : Context) :
    (form.action options matched context).outcome.isReject = false := by
  have kept : ∀ category keep, (trivia category keep matched).isReject = false := by
    intro category keep
    cases keep <;> rfl
  cases form with
  | integer => contradiction
  | whiteSpace => exact kept .whiteSpace options.keepWhiteSpace
  | lineComment => exact kept .comment options.keepComments
  | commentOpen => exact kept .comment options.keepComments
  | commentBody => exact kept .comment options.keepComments
  | commentClose => exact kept .comment options.keepComments
  | _ => rfl

end Form

/-! ## Candidates and their forms -/

section

variable {options : Options} {forms : List Form} {cursor : Cursor} {state : StateId}
  {eligible : Nat → Bool} {candidate first second : Candidate (Token Category)}

/-- A candidate at a cursor is of a form. -/
structure Form.Fits (form : Form) (options : Options) (cursor : Cursor) (state : StateId)
    (candidate : Candidate (Token Category)) : Prop where
  rule_eq : candidate.rule = form.rule options
  state_eq : form.state = state
  accepted : form.regex.Accepts cursor.passed.head? candidate.matched.text
    candidate.matched.following

theorem exists_form_of_offers
    (offered : (tableOf options forms).Offers cursor state eligible candidate) :
    ∃ form, forms[candidate.index]? = some form ∧
      form.Fits options cursor state candidate := by
  have registered := offered.registered
  rw [tableOf, List.getElem?_map, Option.map_eq_some_iff] at registered
  obtain ⟨form, form_eq, rule_eq⟩ := registered
  have admitted := offered.admitted
  have accepted := Rule.accepts_of_match? offered.matching
  rw [← rule_eq] at admitted accepted
  exact ⟨form, form_eq, rule_eq.symm, Form.admits_rule_iff.mp admitted, accepted⟩

theorem text_ne_nil_of_offers
    (offered : (tableOf options forms).Offers cursor state eligible candidate) :
    candidate.matched.text ≠ [] := by
  obtain ⟨form, _, fits⟩ := exists_form_of_offers offered
  apply Rule.text_ne_nil_of_match? offered.matching
  rw [fits.rule_eq]
  exact form.alwaysReads_regex

/-- Where the rule of a form matches, in its state, it is a candidate. -/
theorem exists_offers_of_match? {form : Form} {matched : Match}
    (found : (form.rule options).match? cursor = some matched) :
    ∃ index, Form.all[index]? = some form ∧
      (tableOf options Form.all).Offers cursor form.state (fun _ => true)
        ⟨index, form.rule options, matched⟩ := by
  obtain ⟨index, form_eq⟩ := List.mem_iff_getElem?.mp form.mem_all
  refine ⟨index, form_eq, ?_, Form.admits_rule_iff.mpr rfl, rfl, found⟩
  rw [tableOf, List.getElem?_map, form_eq]
  rfl

/-- Candidates of equal length are spelled in the same form. -/
theorem appearance_eq_of_size_eq {form kind : Form}
    (offered : (tableOf options forms).Offers cursor state eligible first)
    (otherOffered : (tableOf options forms).Offers cursor state eligible second)
    (fits : form.Fits options cursor state first)
    (otherFits : kind.Fits options cursor state second)
    (size_eq : first.size = second.size) : form.appearance = kind.appearance := by
  have text_eq : first.matched.text = second.matched.text :=
    Rule.text_eq_of_size_eq offered.matching otherOffered.matching size_eq
  have accepted := fits.accepted
  rw [text_eq] at accepted
  exact Form.appearance_eq_of_accepts (fits.state_eq.trans otherFits.state_eq.symm) accepted
    otherFits.accepted

/-- The only tie is between a reserved word and a symbol, in this order. -/
theorem reservedWord_symbol_of_size_eq {form kind : Form}
    (offered : (tableOf options Form.all).Offers cursor state eligible first)
    (otherOffered : (tableOf options Form.all).Offers cursor state eligible second)
    (fits : form.Fits options cursor state first)
    (otherFits : kind.Fits options cursor state second)
    (form_eq : Form.all[first.index]? = some form) (kind_eq : Form.all[second.index]? = some kind)
    (size_eq : first.size = second.size) (earlier : first.index < second.index) :
    form = .reservedWord ∧ kind = .symbol := by
  have apart : Form.all.Pairwise fun form kind =>
      form.appearance = kind.appearance → form = .reservedWord ∧ kind = .symbol := by
    decide
  obtain ⟨firstInside, form_eq⟩ := List.getElem?_eq_some_iff.mp form_eq
  obtain ⟨secondInside, kind_eq⟩ := List.getElem?_eq_some_iff.mp kind_eq
  have resolved := List.pairwise_iff_getElem.mp apart _ _ firstInside secondInside earlier
  rw [form_eq, kind_eq] at resolved
  exact resolved (appearance_eq_of_size_eq offered otherOffered fits otherFits size_eq)

/-- Candidates in order are shorter and shorter, except for a reserved word and a symbol. -/
theorem pairwise_candidates (options : Options) (cursor : Cursor) (state : StateId) :
    ((tableOf options Form.all).candidates cursor state fun _ => true).Pairwise
      fun first second => second.size < first.size ∨
        first.rule.pattern = Patterns.reservedWord ∧ second.rule.pattern = Patterns.symbol := by
  refine (Table.candidates_pairwise _ cursor state _).imp_of_mem ?_
  rintro first second member otherMember (shorter | ⟨size_eq, earlier⟩)
  · exact .inl shorter
  · have offered := Table.mem_candidates_iff.mp member
    have otherOffered := Table.mem_candidates_iff.mp otherMember
    obtain ⟨form, form_eq, fits⟩ := exists_form_of_offers offered
    obtain ⟨kind, kind_eq, otherFits⟩ := exists_form_of_offers otherOffered
    obtain ⟨rfl, rfl⟩ := reservedWord_symbol_of_size_eq offered otherOffered fits otherFits form_eq
      kind_eq size_eq.symm earlier
    rw [fits.rule_eq, otherFits.rule_eq]
    exact .inr ⟨rfl, rfl⟩

theorem pairwise_candidatesAt? {input : Text} {offset : Nat}
    {candidates : List (Candidate (Token Category))}
    (found : (tableOf options Form.all).candidatesAt? input offset state = some candidates) :
    candidates.Pairwise fun first second => second.size < first.size ∨
      first.rule.pattern = Patterns.reservedWord ∧ second.rule.pattern = Patterns.symbol := by
  unfold Table.candidatesAt? at found
  split at found
  · cases found
    exact pairwise_candidates options _ state
  · split at found
    · cases found
      exact .nil
    · contradiction

end

/-! ## The first candidate is accepted -/

/-- Digits in front of a point are the beginning of a real. -/
theorem Form.accepts_real_of_digits {last : Option Char} {digits rest : Text}
    (digital : (run Form.digit).Accepts last digits ('.' :: rest)) :
    Form.real.regex.Accepts last (digits ++ ['.']) rest := by
  refine ⟨digits ++ ['.'], [], by simp, ⟨digits ++ ['.'], [], by simp, ?_, ?_⟩, ?_⟩
  · exact ⟨digits, ['.'], rfl, accepts_run.mpr (accepts_run.mp digital), by simp⟩
  · simp
  · simp

/-- An integer without a mark for its base is made of digits. -/
theorem Form.accepts_digits_of_integer {last : Option Char} {text rest : Text}
    (accepted : Form.integer.regex.Accepts last text rest)
    (unmarked : "0x".toList.isPrefixOf text = false) : (run Form.digit).Accepts last text rest := by
  rcases accepted with ⟨front, digits, rfl, marked, _⟩ | plain
  · obtain rfl := accepts_word.mp marked
    simp at unmarked
  · exact plain

section

variable {options : Options} {cursor : Cursor} {state : StateId}
  {candidate : Candidate (Token Category)}

/-- Where a real is accepted, there is a candidate for it. -/
theorem exists_real_of_accepts {text rest : Text} (rest_eq : cursor.rest = text ++ rest)
    (accepted : Form.real.regex.Accepts cursor.passed.head? text rest) :
    ∃ candidate, (tableOf options Form.all).Offers cursor initialState (fun _ => true) candidate ∧
      Form.real.Fits options cursor initialState candidate := by
  obtain ⟨matched, found⟩ := Form.exists_match?_of_accepts rest_eq accepted
  obtain ⟨_, _, offered⟩ := exists_offers_of_match? found
  exact ⟨_, offered, rfl, rfl, Form.accepts_of_match? found⟩

/-- An integer in front of a point is not the first candidate: a real is longer. -/
theorem not_foremost_of_point {more : Text}
    (foremost : (tableOf options Form.all).Foremost cursor state candidate)
    (fits : Form.integer.Fits options cursor state candidate)
    (unmarked : "0x".toList.isPrefixOf candidate.matched.text = false)
    (pointed : candidate.matched.following = '.' :: more) : False := by
  obtain ⟨_, rest_eq, _⟩ := Rule.eq_of_match? foremost.offered.matching
  have accepted := fits.accepted
  rw [pointed] at rest_eq accepted
  have free : '.' ∉ candidate.matched.text := not_mem_of_accepts (by decide) accepted
  have digital := Form.accepts_digits_of_integer accepted unmarked
  have rest_eq' : cursor.rest = (candidate.matched.text ++ ['.']) ++ more := by
    rw [rest_eq, List.append_assoc]
    rfl
  obtain ⟨longer, offered, longerFits⟩ :=
    exists_real_of_accepts rest_eq' (Form.accepts_real_of_digits digital)
  obtain ⟨_, longerRest, _⟩ := Rule.eq_of_match? offered.matching
  obtain ⟨first, others, behind, text_eq, _⟩ := Form.exists_digits_of_real longerFits.accepted
  have point : '.' ∈ longer.matched.text := by simp [text_eq]
  have state_eq : initialState = state := fits.state_eq
  rw [state_eq] at offered
  -- the text of the real goes on behind that of the integer, which has no point
  rcases List.append_eq_append_iff.mp (rest_eq.symm.trans longerRest) with
    ⟨tail, longer_eq, tail_eq⟩ | ⟨tail, integer_eq, _⟩
  · have tail_ne : tail ≠ [] := by
      rintro rfl
      rw [longer_eq, List.append_nil] at point
      exact free point
    have bounded := foremost.longest longer offered
    have positive : Text.size tail ≠ 0 := fun nothing => tail_ne (Text.size_eq_zero_iff.mp nothing)
    rw [Candidate.size, Candidate.size, Match.size, Match.size, longer_eq, Text.size_append]
      at bounded
    omega
  · apply free
    rw [integer_eq]
    exact List.mem_append_left tail point

end

/-- The first candidate always reads something and is accepted. -/
theorem decisive_tableOf (options : Options) : (tableOf options Form.all).Decisive := by
  intro cursor state candidate foremost
  obtain ⟨form, _, fits⟩ := exists_form_of_offers foremost.offered
  constructor
  · exact text_ne_nil_of_offers foremost.offered
  · intro context
    rw [fits.rule_eq]
    by_cases integral : form = .integer
    · subst integral
      change (integerAction candidate.matched context).outcome.isReject = false
      unfold integerAction
      split
      · rename_i pointed
        obtain ⟨unmarked, pointed⟩ := Bool.and_eq_true_iff.mp pointed
        obtain ⟨more, pointed⟩ := List.isPrefixOf_iff_prefix.mp pointed
        exact absurd (not_foremost_of_point foremost fits (by simpa using unmarked) pointed.symm)
          id
      · rfl
    · exact Form.isReject_action integral candidate.matched context

/-! ## Rules in another order -/

/-- Rules in an order that keeps reserved words before symbols have the same first candidates. -/
theorem sameFirst_tableOf (options : Options) {forms : List Form} (permuted : forms.Perm Form.all)
    (ordered : List.Sublist [.reservedWord, .symbol] forms) :
    (tableOf options Form.all).SameFirst (tableOf options forms) := by
  have rulesPermuted : (tableOf options forms).rules.Perm (tableOf options Form.all).rules :=
    permuted.map _
  have rulesDiffer : (tableOf options Form.all).rules.Nodup :=
    Form.nodup_all.map (Form.rule_injective options)
  refine Table.sameFirst_of_perm rfl rulesPermuted rulesDiffer ?_
  intro cursor state first second offered otherOffered size_eq earlier index later found otherFound
  obtain ⟨form, form_eq, fits⟩ := exists_form_of_offers offered
  obtain ⟨kind, kind_eq, otherFits⟩ := exists_form_of_offers otherOffered
  obtain ⟨rfl, rfl⟩ := reservedWord_symbol_of_size_eq offered otherOffered fits otherFits form_eq
    kind_eq size_eq earlier
  obtain ⟨place, increasing⟩ := List.sublist_iff_exists_orderEmbedding_getElem?_eq.mp ordered
  have different : forms.Nodup := permuted.nodup_iff.mpr Form.nodup_all
  -- a form has one place in the list
  have unique : ∀ {form : Form} {number spot : Nat},
      (tableOf options forms).rules[number]? = some (form.rule options) →
        some form = forms[spot]? → number = spot := by
    intro form number spot found here
    rw [tableOf, List.getElem?_map, Option.map_eq_some_iff] at found
    obtain ⟨other, other_eq, rule_eq⟩ := found
    obtain rfl := Form.rule_injective options rule_eq
    have inside := (List.getElem?_eq_some_iff.mp other_eq).1
    exact (List.getElem?_inj inside different).mp (other_eq.trans here)
  rw [fits.rule_eq] at found
  rw [otherFits.rule_eq] at otherFound
  rw [unique found (increasing 0), unique otherFound (increasing 1)]
  exact place.lt_iff_lt.mpr Nat.zero_lt_one

/-- Entries in another order are those of forms in another order. -/
theorem exists_forms_of_perm {options : Options} {reordered : List (Entry (Token Category))}
    (permuted : reordered.Perm (entries options))
    (ordered : List.Sublist [Patterns.reservedWord, Patterns.symbol]
      (reordered.map Entry.pattern)) :
    ∃ forms, reordered = forms.map (Form.entry options) ∧ forms.Perm Form.all ∧
      List.Sublist [.reservedWord, .symbol] forms := by
  obtain ⟨forms, rfl, formsPermuted⟩ : Relation.Comp (· = List.map (Form.entry options) ·) List.Perm
      reordered Form.all := by
    rw [List.eq_map_comp_perm]
    exact permuted
  refine ⟨forms, rfl, formsPermuted, ?_⟩
  rw [List.map_map] at ordered
  obtain ⟨kept, within, kept_eq⟩ := List.sublist_map_iff.mp ordered
  have same : [Form.reservedWord, Form.symbol] = kept :=
    (List.map_inj_right fun _ _ => @Form.pattern_injective _ _).mp kept_eq
  rw [same]
  exact within

/-- NewtonScript is read by maximal munch with a single tie.  Whatever the options, at every place
and in every state two candidates have different lengths, unless they are a reserved word and,
behind it, a symbol.  Whatever is done with a lexer, each step takes the first of the candidates at
its place, so that no match is ever rejected.  And rules in any other order that keeps reserved
words before symbols give the same answers. -/
theorem maximal_munch (options : Options) :
    ∃ table, rules options = .ok table ∧
      (∀ input offset state candidates, table.candidatesAt? input offset state = some candidates →
        candidates.Pairwise fun first second => second.size < first.size ∨
          first.rule.pattern = Patterns.reservedWord ∧ second.rule.pattern = Patterns.symbol) ∧
      (∀ (σ : Type) (fallback : Fallback σ (Token Category)) input memory operations operation
          before event behind,
        let lexer : Lexer σ (Token Category) := ⟨table, fallback⟩
        let reached := (lexer.performAll (lexer.start input memory) operations).session
        (lexer.perform reached operation).events = before ++ event :: behind →
        ∃ place next, lexer.Course reached before place ∧ lexer.Step place event next ∧
          ∃ candidates, table.candidatesAt? (Operation.inputAfter input operations) place.offset
            place.state = some candidates ∧ event.Takes candidates.head?) ∧
      ∀ reordered, reordered.Perm (entries options) →
        List.Sublist [Patterns.reservedWord, Patterns.symbol] (reordered.map Entry.pattern) →
        ∃ other, (({} : Builder (Token Category)).addAll reordered).build = .ok other ∧
          ∀ (σ : Type) (fallback : Fallback σ (Token Category)) input memory operations,
            let lexer : Lexer σ (Token Category) := ⟨table, fallback⟩
            let image : Lexer σ (Token Category) := ⟨other, fallback⟩
            let run := lexer.performAll (lexer.start input memory) operations
            let imageRun := image.performAll (image.start input memory) operations
            imageRun.result = run.result ∧ run.session.Alike imageRun.session := by
  refine ⟨tableOf options Form.all, rules_eq_map options, ?_, ?_, ?_⟩
  · intro input offset state candidates found
    exact pairwise_candidatesAt? found
  · intro σ fallback input memory operations operation before event behind lexer reached events_eq
    exact Lexer.takes_performAll (decisive_tableOf options) input memory operations operation
      events_eq
  · intro reordered permuted ordered
    obtain ⟨forms, rfl, permuted, ordered⟩ := exists_forms_of_perm permuted ordered
    refine ⟨tableOf options forms, ?_, ?_⟩
    · exact Builder.build_addAll_of_rule? (Form.map_rule?_entry options forms)
    · intro σ fallback input memory operations
      exact Lexer.performAll_of_sameFirst (decisive_tableOf options)
        (sameFirst_tableOf options permuted ordered) fallback input memory operations

end NewtonScript

end Munch
