import Munch.Proofs.Regex.Acceptance

/-!
# Whatever is accepted is found

If no guard stands in an expression, each text that it accepts is matched, although it may not be
the match preferred (`Regex.exists_mem_ends_of_accepts`).  So a rule matches wherever its expression
accepts something.

For a repetition this rests on the order in which `Regex.Thread.rounds` visits places.  A place is
left out only if it was found before, and then everything behind it has been explored.
-/

namespace Munch

namespace Regex

namespace Thread

/-! ## Threads that are kept -/

theorem reached_iff {threads : List Thread} {thread : Thread} :
    reached threads thread = true ↔ ∃ other ∈ threads, other.taken = thread.taken := by
  simp [reached]

/-- Every place that some thread has reached is kept. -/
theorem exists_mem_distinct {threads : List Thread} {thread : Thread} (member : thread ∈ threads) :
    ∃ kept ∈ distinct threads, kept.taken = thread.taken := by
  -- as in `mem_of_mem_distinct`, over any list of threads found so far
  have kept : ∀ threads found, (∃ other ∈ found, other.taken = thread.taken) ∨ thread ∈ threads →
      ∃ other ∈ List.foldl add found threads, other.taken = thread.taken := by
    intro threads
    induction threads with
    | nil => exact fun found among => among.resolve_right List.not_mem_nil
    | cons head threads ih =>
        intro found among
        apply ih
        unfold add
        split
        · rename_i taken
          rcases among with among | among
          · exact .inl among
          · rcases List.mem_cons.mp among with rfl | later
            · exact .inl (reached_iff.mp taken)
            · exact .inr later
        · rcases among with ⟨other, among, taken_eq⟩ | among
          · exact .inl ⟨other, List.mem_cons_of_mem head among, taken_eq⟩
          · rcases List.mem_cons.mp among with rfl | later
            · exact .inl ⟨thread, List.mem_cons_self, rfl⟩
            · exact .inr later
  obtain ⟨other, among, taken_eq⟩ := kept threads [] (.inr member)
  exact ⟨other, List.mem_reverse.mpr among, taken_eq⟩

/-- What becomes of one of the threads of a round. -/
def visit (greedy : Bool) (round : Thread → List Thread) (fuel : Nat) (entry : Thread)
    (found : List Thread) (thread : Thread) : List Thread :=
  if reached found thread then found
  else if thread.taken = entry.taken then thread :: found
  else if greedy then thread :: rounds greedy round fuel thread found
  else rounds greedy round fuel thread (thread :: found)

theorem rounds_succ (greedy : Bool) (round : Thread → List Thread) (fuel : Nat) (entry : Thread)
    (found : List Thread) :
    rounds greedy round (fuel + 1) entry found =
      (round entry).foldl (visit greedy round fuel entry) found :=
  rfl

/-! ## Rounds leave out no place -/

/-- The threads of a round are those that stand behind an accepted text, one for each at least. -/
structure Finds (accepts : Option Char → Text → Text → Prop) (round : Thread → List Thread) :
    Prop where
  precedes : ∀ {entry thread}, thread ∈ round entry → entry.Precedes thread
  complete : ∀ {entry text rest}, entry.rest = text ++ rest → accepts entry.last text rest →
    ∃ thread ∈ round entry, entry.Passes text thread

/-- Whatever rounds accept from a thread on has been found. -/
def Explored (accepts : Option Char → Text → Text → Prop) (found : List Thread)
    (thread : Thread) : Prop :=
  ∀ text rest, thread.rest = text ++ rest → Rounds accepts thread.last text rest →
    ∃ other ∈ found, other.taken = thread.taken + text.length

/-- The threads found lie on one text, and those behind `entry` have been explored. -/
structure Covers (accepts : Option Char → Text → Text → Prop) (origin entry : Thread)
    (found : List Thread) : Prop where
  precedes : ∀ thread ∈ found, origin.Precedes thread
  explored : ∀ thread ∈ found, entry.taken < thread.taken → Explored accepts found thread

/-- Rounds from a thread keep what was found and explore what lies behind it. -/
def RoundsExplore (accepts : Option Char → Text → Text → Prop) (greedy : Bool)
    (round : Thread → List Thread) (fuel : Nat) (origin entry : Thread) : Prop :=
  ∀ found, Covers accepts origin entry found →
    found ⊆ rounds greedy round fuel entry found ∧
      Covers accepts origin entry (rounds greedy round fuel entry found) ∧
      Explored accepts (rounds greedy round fuel entry found) entry

section

variable {accepts : Option Char → Text → Text → Prop} {origin entry thread other : Thread}
  {found more : List Thread}

theorem Explored.mono (explored : Explored accepts found thread) (within : found ⊆ more) :
    Explored accepts more thread := by
  intro text rest rest_eq accepted
  obtain ⟨reached, among, taken_eq⟩ := explored text rest rest_eq accepted
  exact ⟨reached, within among, taken_eq⟩

/-- Where a thread stands is all that matters. -/
theorem Explored.of_taken_eq (explored : Explored accepts found thread)
    (precedes : origin.Precedes thread) (otherPrecedes : origin.Precedes other)
    (taken_eq : other.taken = thread.taken) : Explored accepts found other := by
  obtain ⟨rest_eq, last_eq⟩ := precedes.unique otherPrecedes taken_eq
  unfold Explored
  rw [rest_eq, last_eq, taken_eq]
  exact explored

/-- A thread that is not behind `entry` needs no exploration. -/
theorem Covers.cons (covers : Covers accepts origin entry found)
    (precedes : origin.Precedes thread) (stays : thread.taken ≤ entry.taken) :
    Covers accepts origin entry (thread :: found) where
  precedes := List.forall_mem_cons.mpr ⟨precedes, covers.precedes⟩
  explored := by
    intro other among behind
    rcases List.mem_cons.mp among with rfl | among
    · omega
    · exact (covers.explored other among behind).mono (List.subset_cons_self _ _)

theorem Covers.of_le (covers : Covers accepts origin entry found)
    (further : entry.taken ≤ thread.taken) : Covers accepts origin thread found where
  precedes := covers.precedes
  explored other among behind :=
    covers.explored other among (Nat.lt_of_le_of_lt further behind)

/-- What is behind `entry` was explored before, lies behind `thread`, or is where `thread` is. -/
theorem Covers.of_explored {result : List Thread} (covers : Covers accepts origin entry found)
    (precedes : origin.Precedes thread) (within : thread :: found ⊆ result)
    (fresh : ∀ other ∈ result, other ∈ thread :: found ∨ thread.Precedes other)
    (resultCovers : Covers accepts origin thread result)
    (explored : Explored accepts result thread) : Covers accepts origin entry result where
  precedes := resultCovers.precedes
  explored := by
    intro other among behind
    rcases fresh other among with old | new
    · rcases List.mem_cons.mp old with rfl | old
      · exact explored
      · exact (covers.explored other old behind).mono
          (List.Subset.trans (List.subset_cons_self _ _) within)
    · rcases Nat.eq_or_lt_of_le new.taken_le with same | later
      · exact explored.of_taken_eq precedes (resultCovers.precedes other among) same.symm
      · exact resultCovers.explored other among later

variable {round : Thread → List Thread} {greedy : Bool} {fuel : Nat}

/-- Visiting a thread explores what lies behind it, if rounds from there do. -/
theorem Covers.visit (finds : Finds accepts round)
    (inner : thread.taken ≠ entry.taken → RoundsExplore accepts greedy round fuel origin thread)
    (originPrecedes : origin.Precedes entry) (precedes : entry.Precedes thread)
    (covers : Covers accepts origin entry found) :
    found ⊆ visit greedy round fuel entry found thread ∧
      Covers accepts origin entry (visit greedy round fuel entry found thread) ∧
      ∃ kept ∈ visit greedy round fuel entry found thread, kept.taken = thread.taken := by
  have threadPrecedes := originPrecedes.trans precedes
  have further := covers.of_le precedes.taken_le
  unfold Thread.visit
  split
  · rename_i taken
    exact ⟨List.Subset.refl _, covers, reached_iff.mp taken⟩
  · split
    · rename_i stays
      exact ⟨List.subset_cons_self _ _, covers.cons threadPrecedes (Nat.le_of_eq stays), thread,
        List.mem_cons_self, rfl⟩
    · rename_i moved
      split
      · obtain ⟨kept, resultCovers, explored⟩ := inner moved found further
        refine ⟨List.Subset.trans kept (List.subset_cons_self _ _), ?_, thread,
          List.mem_cons_self, rfl⟩
        refine covers.of_explored threadPrecedes (List.cons_subset_cons thread kept) ?_
          (resultCovers.cons threadPrecedes (Nat.le_refl _))
          (explored.mono (List.subset_cons_self thread _))
        intro other among
        rcases List.mem_cons.mp among with rfl | among
        · exact .inl List.mem_cons_self
        · rcases related_of_mem_rounds finds.precedes Precedes.trans among with old | new
          · exact .inl (List.mem_cons_of_mem thread old)
          · exact .inr new
      · obtain ⟨kept, resultCovers, explored⟩ :=
          inner moved (thread :: found) (further.cons threadPrecedes (Nat.le_refl _))
        refine ⟨List.Subset.trans (List.subset_cons_self _ _) kept, ?_, thread,
          kept List.mem_cons_self, rfl⟩
        refine covers.of_explored threadPrecedes kept ?_ resultCovers explored
        intro other among
        exact related_of_mem_rounds finds.precedes Precedes.trans among

/-- Visiting several threads finds all their places. -/
theorem Covers.foldl_visit (finds : Finds accepts round) (originPrecedes : origin.Precedes entry)
    {threads : List Thread} (precedes : ∀ thread ∈ threads, entry.Precedes thread)
    (inner : ∀ thread ∈ threads, thread.taken ≠ entry.taken →
      RoundsExplore accepts greedy round fuel origin thread)
    (covers : Covers accepts origin entry found) :
    found ⊆ threads.foldl (Thread.visit greedy round fuel entry) found ∧
      Covers accepts origin entry (threads.foldl (Thread.visit greedy round fuel entry) found) ∧
      ∀ thread ∈ threads, ∃ kept ∈ threads.foldl (Thread.visit greedy round fuel entry) found,
        kept.taken = thread.taken := by
  induction threads generalizing found with
  | nil => exact ⟨List.Subset.refl _, covers, by simp⟩
  | cons head threads ih =>
      obtain ⟨headPrecedes, precedes⟩ := List.forall_mem_cons.mp precedes
      obtain ⟨headInner, inner⟩ := List.forall_mem_cons.mp inner
      obtain ⟨kept, covers, headFound⟩ := covers.visit finds headInner originPrecedes headPrecedes
      obtain ⟨keptToo, covers, othersFound⟩ := ih precedes inner covers
      refine ⟨List.Subset.trans kept keptToo, covers, ?_⟩
      refine List.forall_mem_cons.mpr ⟨?_, othersFound⟩
      obtain ⟨other, among, taken_eq⟩ := headFound
      exact ⟨other, keptToo among, taken_eq⟩

/-- What is found explores `entry` if all places of a first round are found. -/
theorem Covers.explored_entry (finds : Finds accepts round) (originPrecedes : origin.Precedes entry)
    (covers : Covers accepts origin entry found)
    (first : ∀ thread ∈ round entry, ∃ kept ∈ found, kept.taken = thread.taken) :
    Explored accepts found entry := by
  intro text rest rest_eq accepted
  generalize last_eq : entry.last = last at accepted
  induction accepted with
  | once only =>
      obtain ⟨thread, among, passes⟩ := finds.complete rest_eq (last_eq ▸ only)
      obtain ⟨kept, found, taken_eq⟩ := first thread among
      exact ⟨kept, found, taken_eq.trans passes.taken_eq⟩
  | @again last text back rest single others ih =>
      rw [List.append_assoc] at rest_eq
      obtain ⟨thread, among, passes⟩ := finds.complete rest_eq (last_eq ▸ single)
      obtain ⟨kept, found, taken_eq⟩ := first thread among
      -- a round that reads nothing leads nowhere, so the others start at `entry` themselves
      by_cases nothing : text = []
      · subst nothing
        exact ih rest_eq last_eq
      · obtain ⟨keptRest, keptLast⟩ :=
          (originPrecedes.trans ⟨text, passes⟩).unique (covers.precedes kept found) taken_eq
        have moved : entry.taken < kept.taken := by
          have positive := List.length_pos_iff.mpr nothing
          rw [taken_eq, passes.taken_eq]
          omega
        have threadRest : thread.rest = back ++ rest :=
          (List.append_cancel_left (rest_eq.symm.trans passes.rest_eq)).symm
        have others : Rounds accepts kept.last back rest := by
          rw [keptLast, passes.last_eq, last_eq]
          exact others
        obtain ⟨other, among, other_eq⟩ :=
          covers.explored kept found moved back rest (keptRest.trans threadRest) others
        refine ⟨other, among, ?_⟩
        rw [other_eq, taken_eq, passes.taken_eq, List.length_append, Nat.add_assoc]

/-- Rounds explore what lies behind their entry. -/
theorem roundsExplore (finds : Finds accepts round) (originPrecedes : origin.Precedes entry)
    (enough : entry.rest.length < fuel) :
    RoundsExplore accepts greedy round fuel origin entry := by
  induction fuel generalizing entry with
  | zero => contradiction
  | succ fuel ih =>
      intro found covers
      rw [rounds_succ]
      have precedes : ∀ thread ∈ round entry, entry.Precedes thread := fun _ => finds.precedes
      have inner : ∀ thread ∈ round entry, thread.taken ≠ entry.taken →
          RoundsExplore accepts greedy round fuel origin thread := by
        intro thread among moved
        have shorter := (precedes thread among).rest_length_lt moved
        exact ih (originPrecedes.trans (precedes thread among)) (by omega)
      obtain ⟨kept, covers, first⟩ := covers.foldl_visit finds originPrecedes precedes inner
      exact ⟨kept, covers, covers.explored_entry finds originPrecedes first⟩

end

end Thread

/-! ## Expressions -/

/-- Whether no guard stands in the expression. -/
def unguarded : Regex → Bool
  | guard _ => false
  | group _ body => body.unguarded
  | cat first second => first.unguarded && second.unguarded
  | alt first second => first.unguarded && second.unguarded
  | plus _ body => body.unguarded
  | _ => true

theorem passes_of_taken_eq {regex : Regex} {entry thread kept : Thread} {text : Text}
    (passes : entry.Passes text thread) (member : kept ∈ regex.ends entry)
    (taken_eq : kept.taken = thread.taken) : entry.Passes text kept := by
  obtain ⟨_, keptPasses, _⟩ := reaches_of_mem_ends member
  obtain ⟨rfl, _, _⟩ := passes.unique keptPasses taken_eq
  exact keptPasses

/-- Without guards, every accepted text is matched. -/
theorem exists_mem_ends_of_accepts {regex : Regex} (free : regex.unguarded = true) {entry : Thread}
    {text rest : Text} (rest_eq : entry.rest = text ++ rest)
    (accepted : regex.Accepts entry.last text rest) :
    ∃ thread ∈ regex.ends entry, entry.Passes text thread := by
  induction regex generalizing entry text rest with
  | empty =>
      cases accepted
      exact ⟨entry, List.mem_singleton_self entry, .refl entry⟩
  | oneOf set =>
      obtain ⟨char, inside, rfl⟩ := accepted
      refine ⟨⟨some char, rest, entry.taken + 1, entry.groups, []⟩, ?_, rest_eq, rfl, rfl⟩
      simp [ends, Thread.read, rest_eq, inside]
  | look condition =>
      obtain ⟨holds, rfl⟩ := accepted
      have holdsHere : condition.holds entry.last entry.rest.head? = true := by
        rw [rest_eq]
        exact holds
      refine ⟨entry, ?_, .refl entry⟩
      simp [ends, holdsHere]
  | guard id => contradiction
  | group index body ih =>
      obtain ⟨thread, member, passes⟩ := ih free rest_eq accepted
      exact ⟨_, List.mem_map_of_mem member, passes.record index⟩
  | cat first second firstIh secondIh =>
      obtain ⟨firstFree, secondFree⟩ := Bool.and_eq_true_iff.mp free
      obtain ⟨front, back, rfl, frontAccepted, backAccepted⟩ := accepted
      rw [List.append_assoc] at rest_eq
      obtain ⟨middle, frontMember, frontPasses⟩ := firstIh firstFree rest_eq frontAccepted
      have middle_eq : middle.rest = back ++ rest :=
        List.append_cancel_left (frontPasses.rest_eq.symm.trans rest_eq)
      rw [← frontPasses.last_eq] at backAccepted
      obtain ⟨thread, backMember, backPasses⟩ := secondIh secondFree middle_eq backAccepted
      obtain ⟨kept, member, taken_eq⟩ :=
        Thread.exists_mem_distinct (List.mem_flatMap.mpr ⟨middle, frontMember, backMember⟩)
      change kept ∈ (cat first second).ends entry at member
      exact ⟨kept, member, passes_of_taken_eq (frontPasses.trans backPasses) member taken_eq⟩
  | alt first second firstIh secondIh =>
      obtain ⟨firstFree, secondFree⟩ := Bool.and_eq_true_iff.mp free
      obtain ⟨thread, among, passes⟩ :
          ∃ thread ∈ first.ends entry ++ second.ends entry, entry.Passes text thread := by
        rcases accepted with accepted | accepted
        · obtain ⟨thread, member, passes⟩ := firstIh firstFree rest_eq accepted
          exact ⟨thread, List.mem_append_left _ member, passes⟩
        · obtain ⟨thread, member, passes⟩ := secondIh secondFree rest_eq accepted
          exact ⟨thread, List.mem_append_right _ member, passes⟩
      obtain ⟨kept, member, taken_eq⟩ := Thread.exists_mem_distinct among
      change kept ∈ (alt first second).ends entry at member
      exact ⟨kept, member, passes_of_taken_eq passes member taken_eq⟩
  | plus greedy body ih =>
      have explores : Thread.RoundsExplore body.Accepts greedy body.ends (entry.rest.length + 1)
          entry entry :=
        Thread.roundsExplore ⟨precedes_of_mem_ends, ih free⟩ (.refl entry) (Nat.lt_succ_self _)
      obtain ⟨_, _, explored⟩ := explores [] ⟨by simp, by simp⟩
      obtain ⟨kept, found, taken_eq⟩ := explored text rest rest_eq accepted
      have member : kept ∈ (plus greedy body).ends entry := List.mem_reverse.mpr found
      obtain ⟨other, passes, _⟩ := reaches_of_mem_ends member
      have length_eq : other.length = text.length := by
        have total := passes.taken_eq
        omega
      obtain ⟨rfl, _⟩ := List.append_inj (passes.rest_eq.symm.trans rest_eq) length_eq
      exact ⟨kept, member, passes⟩

end Regex

/-- A rule matches if its expression accepts something. -/
theorem Rule.exists_match?_of_accepts {τ : Type} {rule : Rule τ} {cursor : Cursor}
    (free : rule.matcher.regex.unguarded = true) {text rest : Text}
    (rest_eq : cursor.rest = text ++ rest)
    (accepted : rule.matcher.regex.Accepts cursor.passed.head? text rest) :
    ∃ matched, rule.match? cursor = some matched := by
  have started : (Regex.Thread.start cursor.passed.head? cursor.rest).rest = text ++ rest := rest_eq
  obtain ⟨thread, member, _⟩ := Regex.exists_mem_ends_of_accepts free started accepted
  have found : rule.matcher.regex.find? cursor.passed.head? cursor.rest ≠ none := by
    unfold Regex.find?
    rw [ne_eq, List.head?_eq_none_iff]
    exact List.ne_nil_of_mem member
  obtain ⟨first, first_eq⟩ := Option.ne_none_iff_exists'.mp found
  obtain ⟨matched, matched_eq, _⟩ := Rule.exists_match?_of_find? first_eq
  exact ⟨matched, matched_eq⟩

end Munch
