import Munch.Proofs.Steps

/-!
# What a pattern reads

A match under way only moves forward: what lies between two threads of one match is a text, and what
its groups have recorded since then is part of that text.  `Regex.Thread.Continues` says this, and
`Regex.leads_of_mem_ends` proves it of every way in which an expression can match.

An expression that asks for a character on each of its ways is never matched by the empty text.
Whether it does can be seen from its shape, by `Regex.alwaysReads`.
-/

namespace Munch

namespace Regex

namespace Thread

/-- One thread continues another: it has read a text since, and recorded parts of that text. -/
structure Continues (entry : Thread) (text : Text) (thread : Thread) : Prop where
  rest_eq : entry.rest = text ++ thread.rest
  taken_eq : thread.taken = entry.taken + text.length
  recorded : ∀ group ∈ thread.groups, group ∈ entry.groups ∨ group.2 <:+: text

namespace Continues

variable {entry middle thread : Thread} {first second : Text}

theorem refl (thread : Thread) : thread.Continues [] thread :=
  ⟨rfl, rfl, fun _ member => .inl member⟩

theorem trans (front : entry.Continues first middle) (back : middle.Continues second thread) :
    entry.Continues (first ++ second) thread where
  rest_eq := by rw [front.rest_eq, back.rest_eq, List.append_assoc]
  taken_eq := by rw [back.taken_eq, front.taken_eq, List.length_append, Nat.add_assoc]
  recorded := by
    intro group member
    rcases back.recorded group member with earlier | inside
    · rcases front.recorded group earlier with before | inside
      · exact .inl before
      · exact .inr (inside.trans (List.prefix_append first second).isInfix)
    · exact .inr (inside.trans (List.suffix_append first second).isInfix)

/-- A group records the whole text read since its start. -/
theorem record (continues : entry.Continues first thread) (index : Nat) :
    entry.Continues first (Thread.record index entry thread) where
  rest_eq := continues.rest_eq
  taken_eq := continues.taken_eq
  recorded := by
    intro group member
    rcases List.mem_cons.mp member with rfl | earlier
    · have length_eq : thread.taken - entry.taken = first.length := by
        rw [continues.taken_eq]
        omega
      have whole : entry.rest.take (thread.taken - entry.taken) = first := by
        rw [length_eq, continues.rest_eq, List.take_left]
      exact .inr (whole ▸ List.infix_rfl)
    · exact continues.recorded group earlier

/-- What has been read is the beginning of what was to be read. -/
theorem take_eq (continues : entry.Continues first thread) (started : entry.taken = 0) :
    entry.rest.take thread.taken = first := by
  rw [continues.taken_eq, started, Nat.zero_add, continues.rest_eq, List.take_left]

end Continues

/-! ## Lists of threads -/

/-- Nothing but the listed threads is kept. -/
theorem mem_of_mem_distinct {threads : List Thread} {thread : Thread}
    (member : thread ∈ distinct threads) : thread ∈ threads := by
  -- the fold starts with nothing found, but the induction needs any list of threads found so far
  have kept : ∀ threads found, thread ∈ List.foldl add found threads →
      thread ∈ found ∨ thread ∈ threads := by
    intro threads
    induction threads with
    | nil => exact fun found member => .inl member
    | cons head threads ih =>
        intro found member
        rcases ih (add found head) member with among | later
        · unfold add at among
          split at among
          · exact .inl among
          · rcases List.mem_cons.mp among with rfl | among
            · exact .inr List.mem_cons_self
            · exact .inl among
        · exact .inr (List.mem_cons_of_mem head later)
  rcases kept threads [] (List.mem_reverse.mp member) with nowhere | member
  · exact absurd nowhere List.not_mem_nil
  · exact member

/-- What holds of a single round and can be put together holds of all rounds. -/
theorem related_of_mem_rounds {greedy : Bool} {round : Thread → List Thread}
    {related : Thread → Thread → Prop}
    (single : ∀ {entry thread}, thread ∈ round entry → related entry thread)
    (trans : ∀ {entry middle thread}, related entry middle → related middle thread →
      related entry thread)
    {fuel : Nat} {entry thread : Thread} {found : List Thread}
    (member : thread ∈ rounds greedy round fuel entry found) :
    thread ∈ found ∨ related entry thread := by
  induction fuel generalizing entry found with
  | zero => exact .inl member
  | succ fuel ih =>
      rw [rounds] at member
      -- the threads of the first round, one after the other
      have first : ∀ head ∈ round entry, related entry head := fun head => single
      generalize round entry = threads at member first
      induction threads generalizing found with
      | nil => exact .inl member
      | cons head threads inner =>
          obtain ⟨headRelated, others⟩ := List.forall_mem_cons.mp first
          have further : ∀ {found}, thread ∈ rounds greedy round fuel head found →
              thread ∈ found ∨ related entry thread := by
            intro found member
            exact (ih member).imp_right (trans headRelated)
          have onTop : ∀ {found : List Thread}, thread ∈ head :: found →
              thread ∈ found ∨ related entry thread := by
            intro found member
            rcases List.mem_cons.mp member with rfl | among
            · exact .inr headRelated
            · exact .inl among
          rcases inner member others with among | related
          · dsimp only at among
            split at among
            · exact .inl among
            · split at among
              · exact onTop among
              · split at among
                · rcases onTop among with among | related
                  · exact further among
                  · exact .inr related
                · rcases further among with among | related
                  · exact onTop among
                  · exact .inr related
          · exact .inr related

end Thread

/-! ## Expressions -/

/-- Whether the expression reads a character on each of its ways. -/
def alwaysReads : Regex → Bool
  | empty => false
  | oneOf _ => true
  | look _ => false
  | guard _ => false
  | group _ body => body.alwaysReads
  | cat first second => first.alwaysReads || second.alwaysReads
  | alt first second => first.alwaysReads && second.alwaysReads
  | plus _ body => body.alwaysReads

/-- A thread that an expression may lead to. -/
def Leads (regex : Regex) (entry thread : Thread) : Prop :=
  ∃ text, entry.Continues text thread ∧ (regex.alwaysReads = true → text ≠ [])

/-- Reading a character. -/
theorem leads_of_mem_read {set : CharClass} {entry thread : Thread}
    (member : thread ∈ Thread.read set entry) : (oneOf set).Leads entry thread := by
  unfold Thread.read at member
  split at member
  · contradiction
  · rename_i next rest rest_eq
    split at member
    · cases List.mem_singleton.mp member
      exact ⟨[next], ⟨rest_eq, rfl, fun _ member => .inl member⟩, fun _ => List.cons_ne_nil _ _⟩
    · contradiction

/-- Each of the two parts of a sequence leads further. -/
theorem Leads.cat {first second : Regex} {entry middle thread : Thread}
    (front : first.Leads entry middle) (back : second.Leads middle thread) :
    (cat first second).Leads entry thread := by
  obtain ⟨front, frontContinues, frontReads⟩ := front
  obtain ⟨back, backContinues, backReads⟩ := back
  refine ⟨front ++ back, frontContinues.trans backContinues, fun reads => ?_⟩
  rcases Bool.or_eq_true_iff.mp reads with reads | reads
  · exact List.append_ne_nil_of_left_ne_nil (frontReads reads) back
  · exact List.append_ne_nil_of_right_ne_nil front (backReads reads)

theorem Leads.trans {regex : Regex} {entry middle thread : Thread}
    (front : regex.Leads entry middle) (back : regex.Leads middle thread) :
    regex.Leads entry thread := by
  obtain ⟨front, frontContinues, frontReads⟩ := front
  obtain ⟨back, backContinues, _⟩ := back
  exact ⟨front ++ back, frontContinues.trans backContinues, fun reads =>
    List.append_ne_nil_of_left_ne_nil (frontReads reads) back⟩

/-- Every way in which an expression matches continues its entry, and reads something if the
expression always does. -/
theorem leads_of_mem_ends {regex : Regex} {entry thread : Thread}
    (member : thread ∈ regex.ends entry) : regex.Leads entry thread := by
  induction regex generalizing entry thread with
  | empty =>
      cases List.mem_singleton.mp member
      exact ⟨[], .refl entry, nofun⟩
  | oneOf set => exact leads_of_mem_read member
  | look condition =>
      rw [ends] at member
      split at member
      · cases List.mem_singleton.mp member
        exact ⟨[], .refl entry, nofun⟩
      · contradiction
  | guard id =>
      rw [ends, Thread.pass] at member
      split at member
      · contradiction
      · cases List.mem_singleton.mp member
        exact ⟨[], ⟨rfl, rfl, fun _ member => .inl member⟩, nofun⟩
  | group index body ih =>
      obtain ⟨inner, innerMember, rfl⟩ := List.mem_map.mp member
      obtain ⟨text, continues, reads⟩ := ih innerMember
      exact ⟨text, continues.record index, reads⟩
  | cat first second firstIh secondIh =>
      obtain ⟨middle, front, back⟩ := List.mem_flatMap.mp (Thread.mem_of_mem_distinct member)
      exact (firstIh front).cat (secondIh back)
  | alt first second firstIh secondIh =>
      rcases List.mem_append.mp (Thread.mem_of_mem_distinct member) with member | member
      · obtain ⟨text, continues, reads⟩ := firstIh member
        exact ⟨text, continues, fun both => reads (Bool.and_eq_true_iff.mp both).1⟩
      · obtain ⟨text, continues, reads⟩ := secondIh member
        exact ⟨text, continues, fun both => reads (Bool.and_eq_true_iff.mp both).2⟩
  | plus greedy body ih =>
      rcases Thread.related_of_mem_rounds ih Leads.trans (List.mem_reverse.mp member) with
        nowhere | leads
      · exact absurd nowhere List.not_mem_nil
      · exact leads

end Regex

/-! ## Matches -/

variable {τ : Type} {rule : Rule τ} {cursor : Cursor} {matched : Match}

/-- A match of a rule is what some way of its expression reads. -/
theorem Rule.exists_continues_of_match? (found : rule.match? cursor = some matched) :
    ∃ thread, (Regex.Thread.start cursor.passed.head? cursor.rest).Continues matched.text thread ∧
      (rule.matcher.regex.alwaysReads = true → matched.text ≠ []) ∧
      matched.groups = some matched.text ::
        (List.range (rule.matcher.groupCount - 1)).map fun index =>
          thread.groups.lookup (index + 1) := by
  obtain ⟨finding, finding_eq, rfl⟩ := Option.map_eq_some_iff.mp found
  obtain ⟨thread, thread_eq, rfl⟩ := Option.map_eq_some_iff.mp finding_eq
  obtain ⟨text, continues, reads⟩ := Regex.leads_of_mem_ends (List.mem_of_head? thread_eq)
  have text_eq : cursor.rest.take thread.taken = text := continues.take_eq rfl
  refine ⟨thread, ?_, ?_, rfl⟩
  · exact text_eq ▸ continues
  · exact text_eq ▸ reads

/-- A rule whose pattern always reads something has no empty match. -/
theorem Rule.text_ne_nil_of_match? (found : rule.match? cursor = some matched)
    (reads : rule.matcher.regex.alwaysReads = true) : matched.text ≠ [] := by
  obtain ⟨_, _, something, _⟩ := Rule.exists_continues_of_match? found
  exact something reads

/-- What a group reads is part of the match. -/
theorem Rule.infix_of_group? {index : Nat} {text : Text} (found : rule.match? cursor = some matched)
    (participates : matched.group? index = some text) : text <:+: matched.text := by
  obtain ⟨thread, continues, _, groups_eq⟩ := Rule.exists_continues_of_match? found
  have member : some text ∈ matched.groups :=
    List.mem_of_getElem? (Option.join_eq_some_iff.mp participates)
  rw [groups_eq] at member
  rcases List.mem_cons.mp member with whole | recorded
  · cases whole
    exact List.infix_rfl
  · obtain ⟨number, _, recorded⟩ := List.mem_map.mp recorded
    obtain ⟨later, earlier, groups_eq, _⟩ := List.lookup_eq_some_iff.mp recorded
    have inside : (number + 1, text) ∈ thread.groups := by
      rw [groups_eq]
      exact List.mem_append_right later List.mem_cons_self
    rcases continues.recorded _ inside with before | inside
    · exact absurd before List.not_mem_nil
    · exact inside

end Munch
