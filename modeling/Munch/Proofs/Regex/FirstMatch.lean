import Munch.Proofs.Regex.Preference
import Munch.Proofs.Regex.Shapes

/-!
# The match that is found

Of the texts that an expression accepts at a place, a rule matches the one that comes first in order
of preference.  `Regex.Prefers` says which one this is, and `Regex.Refuses` that there is none.  Both
are derived along the expression: one part after the other, the first of two alternatives if it
accepts anything, and as many rounds of a greedy repetition as there are (`Regex.Exhausts`).
-/

namespace Munch

namespace Text

/-- What is left of a text stops where it was to stop. -/
theorem any_head?_dropWhile (text : Text) (goesOn : Char → Bool) :
    (text.dropWhile goesOn).head?.any goesOn = false := by
  have stops := List.head?_dropWhile_not goesOn text
  cases head_eq : (text.dropWhile goesOn).head? with
  | none => rfl
  | some char => simpa [head_eq] using stops

theorem any_head?_of_takeWhile_eq_nil {text : Text} {goesOn : Char → Bool}
    (nothing : text.takeWhile goesOn = []) : text.head?.any goesOn = false := by
  rw [← any_head?_dropWhile text goesOn, ← List.nil_append (text.dropWhile goesOn), ← nothing,
    List.takeWhile_append_dropWhile]

end Text

namespace Regex

/-- The expression accepts no beginning of the text. -/
def Refuses (regex : Regex) (last : Option Char) (text : Text) : Prop :=
  ∀ front back, text = front ++ back → ¬ regex.Accepts last front back

/-- In front of `rest`, the expression matches the text rather than anything else. -/
def Prefers (regex : Regex) (last : Option Char) (text rest : Text) : Prop :=
  ∀ entry : Thread, entry.last = last → entry.rest = text ++ rest →
    ∃ thread, (regex.ends entry).head? = some thread ∧ entry.Passes text thread

/-- Greedy rounds, each with the preferred match of the body, up to a place where the body accepts
nothing. -/
inductive Exhausts (body : Regex) : Option Char → Text → Text → Prop
  | once {last : Option Char} {text rest : Text} (only : body.Prefers last text rest)
      (something : text ≠ []) (stops : body.Refuses (behind last text) rest) :
      Exhausts body last text rest
  | again {last : Option Char} {front back rest : Text}
      (first : body.Prefers last front (back ++ rest)) (something : front ≠ [])
      (others : Exhausts body (behind last front) back rest) :
      Exhausts body last (front ++ back) rest

variable {regex first second body : Regex} {last : Option Char} {text rest front back : Text}

/-! ## Nothing to match -/

theorem ends_eq_nil_of_refuses {entry : Thread} (refuses : regex.Refuses entry.last entry.rest) :
    regex.ends entry = [] := by
  rw [List.eq_nil_iff_forall_not_mem]
  intro thread member
  obtain ⟨text, passes, accepted⟩ := reaches_of_mem_ends member
  exact refuses text thread.rest passes.rest_eq accepted

namespace Refuses

theorem oneOf {set : CharClass} (outside : text.head?.any set.contains = false) :
    (oneOf set).Refuses last text := by
  rintro _ back rfl ⟨char, inside, rfl⟩
  simp [inside] at outside

/-- A repetition is refused if its first round is. -/
theorem plus {greedy : Bool} (refuses : body.Refuses last text) :
    (plus greedy body).Refuses last text := by
  intro front back text_eq rounds
  cases rounds with
  | once only => exact refuses front back text_eq only
  | @again _ first others _ firstAccepted _ =>
      rw [List.append_assoc] at text_eq
      exact refuses first (others ++ back) text_eq firstAccepted

theorem run {set : CharClass} (outside : text.head?.any set.contains = false) :
    (run set).Refuses last text :=
  (Refuses.oneOf outside).plus

/-- Two parts in a row are refused if the second is behind each text of the first. -/
theorem cat (refuses : ∀ front back, text = front ++ back → first.Accepts last front back →
    second.Refuses (behind last front) back) : (cat first second).Refuses last text := by
  rintro _ rest rfl ⟨front, back, rfl, firstAccepted, secondAccepted⟩
  exact refuses front (back ++ rest) (List.append_assoc _ _ _) firstAccepted back rest rfl
    secondAccepted

/-- Two parts in a row are refused if the first is. -/
theorem cat_left (refuses : first.Refuses last text) : (Regex.cat first second).Refuses last text :=
  Refuses.cat fun front back text_eq accepted => absurd accepted (refuses front back text_eq)

theorem alt (refuses : first.Refuses last text) (otherRefuses : second.Refuses last text) :
    (alt first second).Refuses last text := by
  rintro front back text_eq (accepted | accepted)
  · exact refuses front back text_eq accepted
  · exact otherRefuses front back text_eq accepted

end Refuses

/-! ## Preferred matches -/

theorem Thread.Passes.rest_of_append {entry thread : Thread} (passes : entry.Passes text thread)
    (rest_eq : entry.rest = text ++ rest) : thread.rest = rest :=
  List.append_cancel_left (passes.rest_eq.symm.trans rest_eq)

theorem Thread.Passes.moved {entry thread : Thread} (passes : entry.Passes text thread)
    (something : text ≠ []) : thread.taken ≠ entry.taken := by
  have positive := List.length_pos_iff.mpr something
  rw [passes.taken_eq]
  omega

/-- What alone is accepted is preferred. -/
theorem prefers_of_unique (free : regex.unguarded = true) (accepted : regex.Accepts last text rest)
    (unique : ∀ front back, text ++ rest = front ++ back → regex.Accepts last front back →
      front = text) : regex.Prefers last text rest := by
  rintro entry rfl rest_eq
  obtain ⟨_, member, _⟩ := exists_mem_ends_of_accepts free rest_eq accepted
  obtain ⟨thread, others, ends_eq⟩ := List.exists_cons_of_ne_nil (List.ne_nil_of_mem member)
  have among : thread ∈ regex.ends entry := ends_eq ▸ List.mem_cons_self
  obtain ⟨other, passes, otherAccepted⟩ := reaches_of_mem_ends among
  obtain rfl := unique other thread.rest (rest_eq.symm.trans passes.rest_eq) otherAccepted
  exact ⟨thread, by rw [ends_eq, List.head?_cons], passes⟩

theorem prefers_oneOf {set : CharClass} {char : Char} (inside : set.contains char = true) :
    (oneOf set).Prefers last [char] rest := by
  have accepted : (oneOf set).Accepts last [char] rest := ⟨char, inside, rfl⟩
  apply prefers_of_unique rfl accepted
  rintro _ back rest_eq ⟨other, _, rfl⟩
  obtain ⟨rfl, _⟩ := List.cons.inj rest_eq
  rfl

theorem prefers_sign (char : Char) : (sign char).Prefers last [char] rest :=
  prefers_oneOf (CharClass.contains_single.mpr rfl)

theorem unguarded_word (spelling : Text) : (word spelling).unguarded = true := by
  have folded : ∀ (spelling : Text) (regex : Regex), regex.unguarded = true →
      (spelling.foldl (fun regex char => cat regex (sign char)) regex).unguarded = true := by
    intro spelling
    induction spelling with
    | nil => exact fun _ free => free
    | cons char spelling ih =>
        intro regex free
        exact ih _ (by simp [unguarded, free, sign])
  cases spelling with
  | nil => rfl
  | cons char spelling => exact folded spelling (sign char) rfl

theorem prefers_word (spelling : Text) : (word spelling).Prefers last spelling rest :=
  prefers_of_unique (unguarded_word spelling) (accepts_word.mpr rfl)
    fun _ _ _ accepted => accepts_word.mp accepted

namespace Prefers

/-- One part is matched, and then the other. -/
theorem cat (prefers : first.Prefers last front (back ++ rest))
    (others : second.Prefers (behind last front) back rest) :
    (cat first second).Prefers last (front ++ back) rest := by
  rintro entry rfl rest_eq
  rw [List.append_assoc] at rest_eq
  obtain ⟨middle, middle_eq, passes⟩ := prefers entry rfl rest_eq
  obtain ⟨thread, thread_eq, morePasses⟩ :=
    others middle passes.last_eq (passes.rest_of_append rest_eq)
  obtain ⟨further, ends_eq⟩ := List.head?_eq_some_iff.mp middle_eq
  refine ⟨thread, ?_, passes.trans morePasses⟩
  rw [ends, Thread.head?_distinct, ends_eq, List.flatMap_cons, List.head?_append, thread_eq]
  rfl

/-- The first of two alternatives is matched if it can be. -/
theorem alt (prefers : first.Prefers last text rest) : (alt first second).Prefers last text rest := by
  intro entry last_eq rest_eq
  obtain ⟨thread, thread_eq, passes⟩ := prefers entry last_eq rest_eq
  refine ⟨thread, ?_, passes⟩
  rw [ends, Thread.head?_distinct, List.head?_append, thread_eq]
  rfl

/-- The second of two alternatives is matched if the first cannot be. -/
theorem alt_of_refuses (prefers : second.Prefers last text rest)
    (refuses : first.Refuses last (text ++ rest)) : (Regex.alt first second).Prefers last text rest := by
  rintro entry rfl rest_eq
  obtain ⟨thread, thread_eq, passes⟩ := prefers entry rfl rest_eq
  rw [← rest_eq] at refuses
  refine ⟨thread, ?_, passes⟩
  rw [ends, Thread.head?_distinct, ends_eq_nil_of_refuses refuses, List.nil_append, thread_eq]

theorem optional (prefers : body.Prefers last text rest) :
    (optional body).Prefers last text rest :=
  prefers.alt

end Prefers

theorem Refuses.optional (refuses : body.Refuses last rest) :
    (Regex.optional body).Prefers last [] rest := by
  refine Prefers.alt_of_refuses ?_ refuses
  intro entry _ _
  exact ⟨entry, rfl, .refl entry⟩

/-! ## Greedy repetitions -/

namespace Thread

variable {greedy : Bool} {round : Thread → List Thread} {fuel : Nat} {entry thread : Thread}
  {found : List Thread}

/-- Visiting threads puts what is found on top, if rounds do. -/
theorem suffix_foldl_visit (inner : ∀ thread found, found <:+ rounds greedy round fuel thread found)
    (threads found : List Thread) :
    found <:+ threads.foldl (visit greedy round fuel entry) found := by
  induction threads generalizing found with
  | nil => exact List.suffix_rfl
  | cons head threads ih =>
      refine List.IsSuffix.trans ?_ (ih (visit greedy round fuel entry found head))
      unfold visit
      split
      · exact List.suffix_rfl
      · split
        · exact List.suffix_cons _ _
        · split
          · exact (inner head found).trans (List.suffix_cons _ _)
          · exact (List.suffix_cons head found).trans (inner head _)

theorem suffix_rounds (fuel : Nat) (entry : Thread) (found : List Thread) :
    found <:+ rounds greedy round fuel entry found := by
  induction fuel generalizing entry found with
  | zero => exact List.suffix_rfl
  | succ fuel ih => exact suffix_foldl_visit ih (round entry) found

/-- Where no round is possible, nothing is found. -/
theorem rounds_of_eq_nil (nowhere : round entry = []) :
    rounds greedy round fuel entry found = found := by
  cases fuel with
  | zero => rfl
  | succ fuel =>
      rw [rounds_succ, nowhere]
      rfl

/-- The preferred way through some greedy rounds starts with the preferred first round. -/
theorem getLast?_rounds (moved : thread.taken ≠ entry.taken)
    (first : (round entry).head? = some thread) :
    (rounds true round (fuel + 1) entry []).getLast? =
      (rounds true round fuel thread []).getLast?.or (some thread) := by
  obtain ⟨others, round_eq⟩ := List.head?_eq_some_iff.mp first
  have visit_eq : visit true round fuel entry [] thread =
      thread :: rounds true round fuel thread [] := by
    simp [visit, reached, moved]
  rw [rounds_succ, round_eq, List.foldl_cons, visit_eq]
  have kept : thread :: rounds true round fuel thread [] <:+
      others.foldl (visit true round fuel entry) (thread :: rounds true round fuel thread []) :=
    suffix_foldl_visit (suffix_rounds fuel) others _
  obtain ⟨front, found_eq⟩ := kept
  rw [← found_eq, List.getLast?_append_of_ne_nil _ (List.cons_ne_nil _ _), List.getLast?_cons]
  cases (rounds true round fuel thread []).getLast? <;> rfl

end Thread

/-- A greedy repetition is matched for as many rounds as there are. -/
theorem Exhausts.prefers (exhausts : Exhausts body last text rest) :
    (plus true body).Prefers last text rest := by
  -- the fuel of inner rounds is more than they need, so it is left open
  have found : ∀ {entry : Thread} {fuel : Nat}, entry.last = last → entry.rest = text ++ rest →
      entry.rest.length < fuel → ∃ thread,
        (Thread.rounds true body.ends fuel entry []).getLast? = some thread ∧
          entry.Passes text thread := by
    induction exhausts with
    | once only something stops =>
        intro entry fuel last_eq rest_eq enough
        obtain ⟨thread, first, passes⟩ := only entry last_eq rest_eq
        obtain ⟨fuel, rfl⟩ := Nat.exists_eq_succ_of_ne_zero (Nat.ne_zero_of_lt enough)
        have refuses : body.Refuses thread.last thread.rest := by
          rw [passes.last_eq, last_eq, passes.rest_of_append rest_eq]
          exact stops
        refine ⟨thread, ?_, passes⟩
        rw [Thread.getLast?_rounds (passes.moved something) first,
          Thread.rounds_of_eq_nil (ends_eq_nil_of_refuses refuses)]
        rfl
    | @again last front back rest first something _ ih =>
        intro entry fuel last_eq rest_eq enough
        rw [List.append_assoc] at rest_eq
        obtain ⟨middle, middle_eq, passes⟩ := first entry last_eq rest_eq
        obtain ⟨fuel, rfl⟩ := Nat.exists_eq_succ_of_ne_zero (Nat.ne_zero_of_lt enough)
        have shorter := Thread.Precedes.rest_length_lt ⟨front, passes⟩ (passes.moved something)
        obtain ⟨thread, thread_eq, morePasses⟩ := ih (passes.last_eq.trans (last_eq ▸ rfl))
          (passes.rest_of_append rest_eq) (Nat.lt_of_lt_of_le shorter (Nat.le_of_lt_succ enough))
        refine ⟨thread, ?_, passes.trans morePasses⟩
        rw [Thread.getLast?_rounds (passes.moved something) middle_eq, thread_eq]
        rfl
  intro entry last_eq rest_eq
  obtain ⟨thread, thread_eq, passes⟩ := found last_eq rest_eq (Nat.lt_succ_self _)
  exact ⟨thread, by rw [ends, List.head?_reverse, thread_eq], passes⟩

/-- Characters of a set are matched as far as there are any. -/
theorem prefers_run {set : CharClass} (something : text ≠ [])
    (inside : ∀ char ∈ text, set.contains char = true)
    (stops : rest.head?.any set.contains = false) : (run set).Prefers last text rest := by
  apply Exhausts.prefers
  induction text generalizing last with
  | nil => contradiction
  | cons char text ih =>
      obtain ⟨headInside, inside⟩ := List.forall_mem_cons.mp inside
      by_cases single : text = []
      · subst single
        exact .once (prefers_oneOf headInside) something (.oneOf stops)
      · exact Exhausts.again (prefers_oneOf headInside) (List.cons_ne_nil _ _) (ih single inside)

/-- The longest beginning over a set is matched. -/
theorem prefers_run_takeWhile {set : CharClass} (something : text.takeWhile set.contains ≠ []) :
    (run set).Prefers last (text.takeWhile set.contains) (text.dropWhile set.contains) :=
  prefers_run something (List.all_eq_true.mp List.all_takeWhile)
    (Text.any_head?_dropWhile text set.contains)

/-- So it is if it may be empty. -/
theorem prefers_optional_run_takeWhile (set : CharClass) (text : Text) :
    (optional (run set)).Prefers last (text.takeWhile set.contains)
      (text.dropWhile set.contains) := by
  by_cases nothing : text.takeWhile set.contains = []
  · rw [nothing]
    exact (Refuses.run (Text.any_head?_dropWhile text set.contains)).optional
  · exact (prefers_run_takeWhile nothing).optional

end Regex

/-! ## Rules -/

namespace Rule

variable {τ : Type} {rule : Rule τ} {cursor : Cursor} {text rest : Text}

/-- A rule matches the text that its expression prefers. -/
theorem exists_match?_of_prefers (rest_eq : cursor.rest = text ++ rest)
    (prefers : rule.matcher.regex.Prefers cursor.passed.head? text rest) :
    ∃ matched, rule.match? cursor = some matched ∧ matched.text = text := by
  obtain ⟨thread, thread_eq, passes⟩ :=
    prefers (Regex.Thread.start cursor.passed.head? cursor.rest) rfl rest_eq
  obtain ⟨matched, found, text_eq⟩ := Rule.exists_match?_of_find? thread_eq
  have taken_eq : thread.taken = text.length := passes.taken_eq.trans (Nat.zero_add _)
  exact ⟨matched, found, by rw [text_eq, taken_eq, rest_eq, List.take_left]⟩

end Rule

end Munch
