import Mathlib.Data.List.Forall2
import Munch.Proofs.Regex.Completeness

/-!
# Which match is preferred

Two facts about the order in which matches are listed.  A greedy repetition of a set of characters
is preferred at full length, so what follows it is outside the set.

And an expression that never looks around does not depend on what follows a text as long as it stays
within that text: the matches up to the end of the text are the same, in the same order, whatever
comes behind (`Regex.forall₂_within_ends`).  So a match keeps being preferred when the text behind
it is exchanged, unless the new text allows a longer one (`Rule.exists_match?_of_blind`).
-/

namespace Munch

namespace Regex

namespace Thread

/-! ## The first of several threads -/

theorem getLast?_foldl_add (threads found : List Thread) :
    (threads.foldl add found).getLast? = found.getLast?.or threads.head? := by
  induction threads generalizing found with
  | nil => simp
  | cons head threads ih =>
      rw [List.foldl_cons, ih, add]
      split
      · rename_i taken
        obtain ⟨other, among, _⟩ := reached_iff.mp taken
        cases last_eq : found.getLast? with
        | none => simp [List.getLast?_eq_none_iff.mp last_eq] at among
        | some last => rfl
      · rw [List.getLast?_cons]
        cases found.getLast? <;> simp

/-- What is preferred is not lost. -/
theorem head?_distinct (threads : List Thread) : (distinct threads).head? = threads.head? := by
  rw [distinct, List.head?_reverse, getLast?_foldl_add]
  rfl

/-! ## Greedy runs -/

/-- The longest run over a set of characters ends where the next one is outside the set. -/
theorem stops_of_rounds {set : CharClass} {fuel : Nat} {entry : Thread}
    (enough : entry.rest.length < fuel) :
    ((rounds true (read set) fuel entry []).getLast?.getD entry).rest.head?.any set.contains =
      false := by
  induction fuel generalizing entry with
  | zero => contradiction
  | succ fuel ih =>
      rw [rounds_succ, read]
      split
      · rename_i rest_eq
        simp [rest_eq]
      · rename_i next rest rest_eq
        split
        · have shorter : rest.length < fuel := by
            rw [rest_eq, List.length_cons] at enough
            omega
          rw [List.foldl_cons, List.foldl_nil, visit]
          rw [if_neg (by simp [reached]), if_neg (by simp), if_pos rfl, List.getLast?_cons]
          exact ih shorter
        · rename_i outside
          simp [rest_eq, outside]

/-! ## Threads within a bound -/

/-- The threads that have not read more than `bound` characters. -/
def within (bound : Nat) (threads : List Thread) : List Thread :=
  threads.filter fun thread => thread.taken ≤ bound

section

variable {bound : Nat} {thread : Thread} {threads : List Thread}

theorem within_cons_of_le (inside : thread.taken ≤ bound) :
    within bound (thread :: threads) = thread :: within bound threads :=
  List.filter_cons_of_pos (by simpa using inside)

theorem within_cons_of_lt (outside : bound < thread.taken) :
    within bound (thread :: threads) = within bound threads :=
  List.filter_cons_of_neg (by simpa using outside)

theorem mem_within : thread ∈ within bound threads ↔ thread ∈ threads ∧ thread.taken ≤ bound := by
  simp [within]

theorem reached_within (inside : thread.taken ≤ bound) :
    reached (within bound threads) thread = reached threads thread := by
  rw [Bool.eq_iff_iff, reached_iff, reached_iff]
  constructor
  · rintro ⟨other, among, taken_eq⟩
    exact ⟨other, (mem_within.mp among).1, taken_eq⟩
  · rintro ⟨other, among, taken_eq⟩
    exact ⟨other, mem_within.mpr ⟨among, taken_eq ▸ inside⟩, taken_eq⟩

/-- Whether a place is taken depends on the threads at that place only. -/
theorem within_distinct (bound : Nat) (threads : List Thread) :
    within bound (distinct threads) = distinct (within bound threads) := by
  have kept : ∀ threads found, within bound (List.foldl add found threads) =
      List.foldl add (within bound found) (within bound threads) := by
    intro threads
    induction threads with
    | nil => exact fun _ => rfl
    | cons head threads ih =>
        intro found
        rw [List.foldl_cons, ih]
        rcases Nat.lt_or_ge bound head.taken with outside | inside
        · rw [within_cons_of_lt outside, add]
          split
          · rfl
          · rw [within_cons_of_lt outside]
        · rw [within_cons_of_le inside, List.foldl_cons, add, add, reached_within inside]
          split
          · rfl
          · rw [within_cons_of_le inside]
  rw [distinct, within, List.filter_reverse]
  exact congrArg List.reverse (kept threads [])

/-- What a thread outside leads to is outside. -/
theorem within_flatMap {step : Thread → List Thread}
    (outside : ∀ {thread}, bound < thread.taken → within bound (step thread) = [])
    (threads : List Thread) :
    within bound (threads.flatMap step) =
      (within bound threads).flatMap fun thread => within bound (step thread) := by
  induction threads with
  | nil => rfl
  | cons head threads ih =>
      rw [List.flatMap_cons, within, List.filter_append]
      change within bound (step head) ++ within bound (threads.flatMap step) = _
      rw [ih]
      rcases Nat.lt_or_ge bound head.taken with beyond | inside
      · rw [within_cons_of_lt beyond, outside beyond, List.nil_append]
      · rw [within_cons_of_le inside, List.flatMap_cons]

/-- Rounds outside the bound leave no trace within it. -/
theorem within_rounds {greedy : Bool} {round : Thread → List Thread}
    (outside : ∀ {thread}, bound < thread.taken → within bound (round thread) = [])
    (fuel : Nat) (entry : Thread) (found : List Thread) :
    within bound (rounds greedy round fuel entry found) =
      rounds greedy (fun thread => within bound (round thread)) fuel entry
        (within bound found) := by
  induction fuel generalizing entry found with
  | zero => rfl
  | succ fuel ih =>
      rw [rounds_succ, rounds_succ]
      generalize round entry = threads
      induction threads generalizing found with
      | nil => rfl
      | cons head threads inner =>
          rw [List.foldl_cons, inner]
          rcases Nat.lt_or_ge bound head.taken with beyond | inside
          · -- from a thread outside, no round leads back
            have stays : ∀ found,
                rounds greedy (fun thread => within bound (round thread)) fuel head found =
                  found := by
              intro found
              cases fuel with
              | zero => rfl
              | succ fuel =>
                  rw [rounds_succ, outside beyond]
                  rfl
            have unchanged : within bound (visit greedy round fuel entry found head) =
                within bound found := by
              unfold visit
              split
              · rfl
              · split
                · rw [within_cons_of_lt beyond]
                · split
                  · rw [within_cons_of_lt beyond, ih, stays]
                  · rw [ih, stays, within_cons_of_lt beyond]
            rw [within_cons_of_lt beyond, unchanged]
          · have followed : within bound (visit greedy round fuel entry found head) =
                visit greedy (fun thread => within bound (round thread)) fuel entry
                  (within bound found) head := by
              unfold visit
              rw [reached_within inside]
              split
              · rfl
              · split
                · rw [within_cons_of_le inside]
                · split
                  · rw [within_cons_of_le inside, ih]
                  · rw [ih, within_cons_of_le inside]
            rw [within_cons_of_le inside, List.foldl_cons, followed]

end

/-! ## Threads over two texts -/

/-- Threads at the same place of a text that ends at `bound` and goes on in two ways. -/
structure Alike (first second : Text) (bound : Nat) (thread other : Thread) : Prop where
  taken_eq : other.taken = thread.taken
  rest : ∃ text, thread.taken + text.length = bound ∧ thread.rest = text ++ first ∧
    other.rest = text ++ second

section

variable {first second : Text} {bound : Nat}

theorem reached_of_forall₂ {threads others : List Thread} {thread other : Thread}
    (alike : List.Forall₂ (Alike first second bound) threads others)
    (taken_eq : other.taken = thread.taken) :
    reached others other = reached threads thread := by
  induction alike with
  | nil => rfl
  | cons head _ ih =>
      simp only [reached, List.any_cons] at ih ⊢
      rw [head.taken_eq, taken_eq, ← taken_eq, ih, taken_eq]

theorem forall₂_distinct {threads others : List Thread}
    (alike : List.Forall₂ (Alike first second bound) threads others) :
    List.Forall₂ (Alike first second bound) (distinct threads) (distinct others) := by
  have kept : ∀ {found others'}, List.Forall₂ (Alike first second bound) found others' →
      List.Forall₂ (Alike first second bound) (threads.foldl add found)
        (others.foldl add others') := by
    induction alike with
    | nil => exact id
    | cons head _ ih =>
        intro found others' foundAlike
        apply ih
        unfold add
        rw [reached_of_forall₂ foundAlike head.taken_eq]
        split
        · exact foundAlike
        · exact .cons head foundAlike
  exact List.rel_reverse (kept .nil)

/-- Rounds that go alike lead to the same places. -/
theorem forall₂_rounds {greedy : Bool} {round otherRound : Thread → List Thread}
    (precedes : ∀ {entry thread}, thread ∈ round entry → entry.Precedes thread)
    (otherPrecedes : ∀ {entry thread}, thread ∈ otherRound entry → entry.Precedes thread)
    (single : ∀ {thread other}, Alike first second bound thread other →
      List.Forall₂ (Alike first second bound) (round thread) (otherRound other))
    {fuel otherFuel : Nat} {entry other : Thread} {found others : List Thread}
    (enough : entry.rest.length < fuel) (otherEnough : other.rest.length < otherFuel)
    (alike : Alike first second bound entry other)
    (foundAlike : List.Forall₂ (Alike first second bound) found others) :
    List.Forall₂ (Alike first second bound) (rounds greedy round fuel entry found)
      (rounds greedy otherRound otherFuel other others) := by
  induction fuel generalizing otherFuel entry other found others with
  | zero => contradiction
  | succ fuel ih =>
      cases otherFuel with
      | zero => contradiction
      | succ otherFuel =>
          rw [rounds_succ, rounds_succ]
          have threads := single alike
          have ahead : ∀ thread ∈ round entry, entry.Precedes thread := fun _ => precedes
          have otherAhead : ∀ thread ∈ otherRound other, other.Precedes thread := fun _ =>
            otherPrecedes
          generalize round entry = here at threads ahead
          generalize otherRound other = there at threads otherAhead
          induction threads generalizing found others with
          | nil => exact foundAlike
          | @cons head otherHead _ _ headAlike _ inner =>
              obtain ⟨headAhead, ahead⟩ := List.forall_mem_cons.mp ahead
              obtain ⟨otherHeadAhead, otherAhead⟩ := List.forall_mem_cons.mp otherAhead
              refine inner ?_ ahead otherAhead
              unfold visit
              rw [reached_of_forall₂ foundAlike headAlike.taken_eq, headAlike.taken_eq,
                alike.taken_eq]
              split
              · exact foundAlike
              · split
                · exact .cons headAlike foundAlike
                · rename_i moved
                  have shorter := headAhead.rest_length_lt moved
                  have otherShorter := otherHeadAhead.rest_length_lt
                    (by rwa [headAlike.taken_eq, alike.taken_eq])
                  split
                  · exact .cons headAlike
                      (ih (by omega) (by omega) headAlike foundAlike)
                  · exact ih (by omega) (by omega) headAlike (.cons headAlike foundAlike)

end

end Thread

/-! ## Expressions that do not look around -/

/-- Whether the expression never looks at the character before or behind a place, and has no guard.
-/
def blind : Regex → Bool
  | look _ => false
  | guard _ => false
  | group _ body => body.blind
  | cat first second => first.blind && second.blind
  | alt first second => first.blind && second.blind
  | plus _ body => body.blind
  | _ => true

theorem within_ends_of_lt {regex : Regex} {bound : Nat} {thread : Thread}
    (outside : bound < thread.taken) : Thread.within bound (regex.ends thread) = [] := by
  rw [List.eq_nil_iff_forall_not_mem]
  intro later member
  obtain ⟨among, inside⟩ := Thread.mem_within.mp member
  have further := (precedes_of_mem_ends among).taken_le
  omega

/-- The matches within a text do not depend on what follows it. -/
theorem forall₂_within_ends {regex : Regex} (unseeing : regex.blind = true) {first second : Text}
    {bound : Nat} {thread other : Thread} (alike : Thread.Alike first second bound thread other) :
    List.Forall₂ (Thread.Alike first second bound) (Thread.within bound (regex.ends thread))
      (Thread.within bound (regex.ends other)) := by
  induction regex generalizing thread other with
  | empty =>
      obtain ⟨text, bound_eq, _⟩ := alike.rest
      have inside : thread.taken ≤ bound := by omega
      rw [ends, ends, Thread.within_cons_of_le inside,
        Thread.within_cons_of_le (alike.taken_eq ▸ inside)]
      exact .cons alike .nil
  | oneOf set =>
      obtain ⟨text, bound_eq, rest_eq, otherRest_eq⟩ := alike.rest
      cases text with
      | nil =>
          -- what is read here lies outside
          have outside : ∀ {thread : Thread}, thread.taken = bound →
              Thread.within bound ((oneOf set).ends thread) = [] := by
            intro thread taken_eq
            rw [ends, Thread.read]
            split
            · rfl
            · split
              · exact Thread.within_cons_of_lt (by simp [taken_eq])
              · rfl
          rw [outside bound_eq, outside (alike.taken_eq.trans bound_eq)]
          exact .nil
      | cons char text =>
          simp only [ends, Thread.read, rest_eq, otherRest_eq, List.cons_append]
          rw [List.length_cons] at bound_eq
          split
          · rw [alike.taken_eq, Thread.within_cons_of_le (by simp; omega),
              Thread.within_cons_of_le (by simp; omega)]
            exact .cons ⟨rfl, text, by simp; omega, rfl, rfl⟩ .nil
          · exact .nil
  | look condition => contradiction
  | guard id => contradiction
  | group index body ih =>
      have recorded : ∀ thread : Thread, Thread.within bound ((group index body).ends thread) =
          (Thread.within bound (body.ends thread)).map (Thread.record index thread) := by
        intro thread
        rw [ends, Thread.within, List.filter_map]
        rfl
      rw [recorded, recorded, List.forall₂_map_left_iff, List.forall₂_map_right_iff]
      exact (ih unseeing alike).imp fun _ _ inner => ⟨inner.taken_eq, inner.rest⟩
  | cat left right leftIh rightIh =>
      obtain ⟨leftBlind, rightBlind⟩ := Bool.and_eq_true_iff.mp unseeing
      rw [ends, ends, Thread.within_distinct, Thread.within_distinct,
        Thread.within_flatMap within_ends_of_lt, Thread.within_flatMap within_ends_of_lt]
      exact Thread.forall₂_distinct
        (List.rel_flatMap (leftIh leftBlind alike) fun _ _ inner => rightIh rightBlind inner)
  | alt left right leftIh rightIh =>
      obtain ⟨leftBlind, rightBlind⟩ := Bool.and_eq_true_iff.mp unseeing
      rw [ends, ends, Thread.within_distinct, Thread.within_distinct, Thread.within,
        Thread.within, List.filter_append, List.filter_append]
      exact Thread.forall₂_distinct
        (List.rel_append (leftIh leftBlind alike) (rightIh rightBlind alike))
  | plus greedy body ih =>
      have precedes : ∀ {entry thread : Thread}, thread ∈ Thread.within bound (body.ends entry) →
          entry.Precedes thread := fun member =>
        precedes_of_mem_ends (Thread.mem_within.mp member).1
      rw [ends, ends, Thread.within, Thread.within, List.filter_reverse, List.filter_reverse]
      apply List.rel_reverse
      change List.Forall₂ _ (Thread.within bound _) (Thread.within bound _)
      rw [Thread.within_rounds within_ends_of_lt, Thread.within_rounds within_ends_of_lt]
      exact Thread.forall₂_rounds precedes precedes (ih unseeing) (Nat.lt_succ_self _)
        (Nat.lt_succ_self _) alike .nil

/-- A preferred match stays preferred when the text behind it is exchanged, unless there are longer
ones then. -/
theorem exists_find?_of_blind {regex : Regex} (unseeing : regex.blind = true)
    {last other : Option Char} {text first second : Text} {thread : Thread}
    (found : regex.find? last (text ++ first) = some thread) (taken_eq : thread.taken = text.length)
    (longest : ∀ longer rest, text ++ second = longer ++ rest → regex.Accepts other longer rest →
      longer.length ≤ text.length) :
    ∃ again, regex.find? other (text ++ second) = some again ∧ again.taken = text.length := by
  have alike : Thread.Alike first second text.length (Thread.start last (text ++ first))
      (Thread.start other (text ++ second)) :=
    ⟨rfl, text, Nat.zero_add _, rfl, rfl⟩
  -- no match over the second text is longer, so all are within
  have all : Thread.within text.length (regex.ends (Thread.start other (text ++ second))) =
      regex.ends (Thread.start other (text ++ second)) := by
    apply List.filter_eq_self.mpr
    intro later member
    obtain ⟨longer, passes, accepted⟩ := reaches_of_mem_ends member
    have length_le := longest longer later.rest passes.rest_eq accepted
    have later_eq : later.taken = longer.length := passes.taken_eq.trans (Nat.zero_add _)
    simpa [later_eq] using length_le
  have same := forall₂_within_ends unseeing alike
  rw [all] at same
  obtain ⟨others, ends_eq⟩ := List.head?_eq_some_iff.mp found
  rw [ends_eq, Thread.within_cons_of_le (Nat.le_of_eq taken_eq)] at same
  cases againEnds : regex.ends (Thread.start other (text ++ second)) with
  | nil =>
      rw [againEnds] at same
      cases same
  | cons again further =>
      rw [againEnds] at same
      obtain ⟨headAlike, _⟩ := List.forall₂_cons.mp same
      refine ⟨again, ?_, headAlike.taken_eq.trans taken_eq⟩
      rw [find?, againEnds]
      rfl

end Regex

/-- A match is found again where the same text stands, unless a longer one is accepted there. -/
theorem Rule.exists_match?_of_blind {τ : Type} {rule : Rule τ} {cursor other : Cursor}
    {matched : Match} (unseeing : rule.matcher.regex.blind = true)
    (found : rule.match? cursor = some matched) {following : Text}
    (rest_eq : other.rest = matched.text ++ following)
    (longest : ∀ longer rest, matched.text ++ following = longer ++ rest →
      rule.matcher.regex.Accepts other.passed.head? longer rest →
      longer.length ≤ matched.text.length) :
    ∃ again, rule.match? other = some again ∧ again.text = matched.text := by
  obtain ⟨thread, thread_eq, passes, _⟩ := Rule.exists_find?_of_match? found
  have taken_eq : thread.taken = matched.text.length := passes.taken_eq.trans (Nat.zero_add _)
  have cursor_eq : cursor.rest = matched.text ++ thread.rest := passes.rest_eq
  rw [cursor_eq] at thread_eq
  obtain ⟨again, again_eq, againTaken⟩ :=
    Regex.exists_find?_of_blind unseeing thread_eq taken_eq longest
  rw [← rest_eq] at again_eq
  obtain ⟨found, found_eq, text_eq⟩ := Rule.exists_match?_of_find? again_eq
  refine ⟨found, found_eq, ?_⟩
  rw [text_eq, againTaken, rest_eq, List.take_left]

end Munch
