import Munch.Proofs.Regex.Reading

/-!
# What an expression accepts

`Regex.Accepts` says which texts an expression reads at a place, without regard to preference: it
looks at the character before the text, at the text and at what follows it.  Every match found is
one of these (`Regex.reaches_of_mem_ends`).
-/

namespace Munch

namespace Regex

/-- The character before the place behind a text, given the one before the text. -/
def behind (last : Option Char) (text : Text) : Option Char :=
  text.getLast?.or last

@[simp]
theorem behind_nil (last : Option Char) : behind last [] = last :=
  rfl

@[simp]
theorem behind_singleton (last : Option Char) (char : Char) : behind last [char] = some char :=
  rfl

theorem behind_append (last : Option Char) (front back : Text) :
    behind last (front ++ back) = behind (behind last front) back := by
  simp [behind, Option.or_assoc]

/-- One or more rounds in a row. -/
inductive Rounds (round : Option Char → Text → Text → Prop) : Option Char → Text → Text → Prop
  | once {last : Option Char} {text rest : Text} (only : round last text rest) :
      Rounds round last text rest
  | again {last : Option Char} {front back rest : Text} (first : round last front (back ++ rest))
      (others : Rounds round (behind last front) back rest) :
      Rounds round last (front ++ back) rest

/-- An expression accepts a text behind the character `last` and in front of `rest`. -/
def Accepts : Regex → (last : Option Char) → (text rest : Text) → Prop
  | empty, _, text, _ => text = []
  | oneOf set, _, text, _ => ∃ char, set.contains char = true ∧ text = [char]
  | look condition, last, text, rest => condition.holds last rest.head? = true ∧ text = []
  | guard _, _, text, _ => text = []
  | group _ body, last, text, rest => body.Accepts last text rest
  | cat first second, last, text, rest => ∃ front back, text = front ++ back ∧
      first.Accepts last front (back ++ rest) ∧ second.Accepts (behind last front) back rest
  | alt first second, last, text, rest =>
      first.Accepts last text rest ∨ second.Accepts last text rest
  | plus _ body, last, text, rest => Rounds body.Accepts last text rest

namespace Rounds

variable {round : Option Char → Text → Text → Prop} {last : Option Char} {front back rest : Text}

theorem trans (first : Rounds round last front (back ++ rest))
    (second : Rounds round (behind last front) back rest) :
    Rounds round last (front ++ back) rest := by
  generalize around : back ++ rest = following at first
  induction first with
  | once only =>
      subst around
      exact .again only second
  | @again last inner outer _ first _ ih =>
      subst around
      rw [behind_append] at second
      rw [List.append_assoc]
      refine .again ?_ (ih second rfl)
      rw [List.append_assoc]
      exact first

/-- Some rounds begin with a first one. -/
theorem exists_first {text : Text} (rounds : Rounds round last text rest) :
    ∃ front back, text = front ++ back ∧ round last front (back ++ rest) := by
  cases rounds with
  | once only => exact ⟨text, [], by simp, only⟩
  | again first _ => exact ⟨_, _, rfl, first⟩

/-- What holds of the text of a round, and of two such texts in a row, holds of all rounds. -/
theorem forall_of_append {property : Text → Prop} {text : Text}
    (single : ∀ {last text rest}, round last text rest → property text)
    (append : ∀ {front back}, property front → property back → property (front ++ back))
    (rounds : Rounds round last text rest) : property text := by
  induction rounds with
  | once only => exact single only
  | again first _ ih => exact append (single first) ih

end Rounds

namespace Thread

/-- One thread has read a text since the other. -/
structure Passes (entry : Thread) (text : Text) (thread : Thread) : Prop where
  rest_eq : entry.rest = text ++ thread.rest
  taken_eq : thread.taken = entry.taken + text.length
  last_eq : thread.last = behind entry.last text

namespace Passes

variable {entry middle thread other : Thread} {first second : Text}

theorem refl (thread : Thread) : thread.Passes [] thread :=
  ⟨rfl, rfl, rfl⟩

theorem trans (front : entry.Passes first middle) (back : middle.Passes second thread) :
    entry.Passes (first ++ second) thread where
  rest_eq := by rw [front.rest_eq, back.rest_eq, List.append_assoc]
  taken_eq := by rw [back.taken_eq, front.taken_eq, List.length_append, Nat.add_assoc]
  last_eq := by rw [back.last_eq, front.last_eq, behind_append]

theorem record (passes : entry.Passes first thread) (index : Nat) :
    entry.Passes first (Thread.record index entry thread) :=
  ⟨passes.rest_eq, passes.taken_eq, passes.last_eq⟩

/-- How much has been read determines what, and where the thread stands. -/
theorem unique (passes : entry.Passes first thread) (otherPasses : entry.Passes second other)
    (taken_eq : other.taken = thread.taken) :
    second = first ∧ other.rest = thread.rest ∧ other.last = thread.last := by
  have length_eq : second.length = first.length := by
    have total := passes.taken_eq
    rw [← taken_eq, otherPasses.taken_eq] at total
    omega
  obtain ⟨rfl, rest_eq⟩ :=
    List.append_inj (otherPasses.rest_eq.symm.trans passes.rest_eq) length_eq
  exact ⟨rfl, rest_eq, otherPasses.last_eq.trans passes.last_eq.symm⟩

end Passes

/-- One thread has read something since the other, or stands where it does. -/
def Precedes (entry thread : Thread) : Prop :=
  ∃ text, entry.Passes text thread

namespace Precedes

variable {entry middle thread other : Thread}

theorem refl (thread : Thread) : thread.Precedes thread :=
  ⟨[], .refl thread⟩

theorem trans (front : entry.Precedes middle) (back : middle.Precedes thread) :
    entry.Precedes thread := by
  obtain ⟨_, frontPasses⟩ := front
  obtain ⟨_, backPasses⟩ := back
  exact ⟨_, frontPasses.trans backPasses⟩

/-- Behind the same thread, how much has been read says where a thread stands. -/
theorem unique (precedes : entry.Precedes thread) (otherPrecedes : entry.Precedes other)
    (taken_eq : other.taken = thread.taken) :
    other.rest = thread.rest ∧ other.last = thread.last := by
  obtain ⟨_, passes⟩ := precedes
  obtain ⟨_, otherPasses⟩ := otherPrecedes
  exact (passes.unique otherPasses taken_eq).2

theorem taken_le (precedes : entry.Precedes thread) : entry.taken ≤ thread.taken := by
  obtain ⟨_, passes⟩ := precedes
  rw [passes.taken_eq]
  exact Nat.le_add_right _ _

/-- What is read is no longer to be read. -/
theorem rest_length_lt (precedes : entry.Precedes thread) (moved : thread.taken ≠ entry.taken) :
    thread.rest.length < entry.rest.length := by
  obtain ⟨_, passes⟩ := precedes
  have taken_eq := passes.taken_eq
  rw [passes.rest_eq, List.length_append]
  omega

end Precedes

end Thread

/-! ## Expressions -/

/-- A thread stands behind a text that the expression accepts. -/
def Reaches (regex : Regex) (entry thread : Thread) : Prop :=
  ∃ text, entry.Passes text thread ∧ regex.Accepts entry.last text thread.rest

/-- Every match is of an accepted text. -/
theorem reaches_of_mem_ends {regex : Regex} {entry thread : Thread}
    (member : thread ∈ regex.ends entry) : regex.Reaches entry thread := by
  induction regex generalizing entry thread with
  | empty =>
      cases List.mem_singleton.mp member
      exact ⟨[], .refl entry, rfl⟩
  | oneOf set =>
      rw [ends, Thread.read] at member
      split at member
      · contradiction
      · rename_i next rest rest_eq
        split at member
        · rename_i inside
          cases List.mem_singleton.mp member
          exact ⟨[next], ⟨rest_eq, rfl, rfl⟩, next, inside, rfl⟩
        · contradiction
  | look condition =>
      rw [ends] at member
      split at member
      · rename_i holds
        cases List.mem_singleton.mp member
        exact ⟨[], .refl entry, holds, rfl⟩
      · contradiction
  | guard id =>
      rw [ends, Thread.pass] at member
      split at member
      · contradiction
      · cases List.mem_singleton.mp member
        exact ⟨[], ⟨rfl, rfl, rfl⟩, rfl⟩
  | group index body ih =>
      obtain ⟨inner, innerMember, rfl⟩ := List.mem_map.mp member
      obtain ⟨text, passes, accepted⟩ := ih innerMember
      exact ⟨text, passes.record index, accepted⟩
  | cat first second firstIh secondIh =>
      obtain ⟨middle, front, back⟩ := List.mem_flatMap.mp (Thread.mem_of_mem_distinct member)
      obtain ⟨front, frontPasses, frontAccepted⟩ := firstIh front
      obtain ⟨back, backPasses, backAccepted⟩ := secondIh back
      rw [backPasses.rest_eq] at frontAccepted
      rw [frontPasses.last_eq] at backAccepted
      exact ⟨front ++ back, frontPasses.trans backPasses, front, back, rfl, frontAccepted,
        backAccepted⟩
  | alt first second firstIh secondIh =>
      rcases List.mem_append.mp (Thread.mem_of_mem_distinct member) with member | member
      · obtain ⟨text, passes, accepted⟩ := firstIh member
        exact ⟨text, passes, .inl accepted⟩
      · obtain ⟨text, passes, accepted⟩ := secondIh member
        exact ⟨text, passes, .inr accepted⟩
  | plus greedy body ih =>
      have single : ∀ {entry thread}, thread ∈ body.ends entry →
          (plus greedy body).Reaches entry thread := by
        intro entry thread member
        obtain ⟨text, passes, accepted⟩ := ih member
        exact ⟨text, passes, .once accepted⟩
      have trans : ∀ {entry middle thread}, (plus greedy body).Reaches entry middle →
          (plus greedy body).Reaches middle thread → (plus greedy body).Reaches entry thread := by
        rintro entry middle thread ⟨front, frontPasses, frontAccepted⟩
          ⟨back, backPasses, backAccepted⟩
        rw [backPasses.rest_eq] at frontAccepted
        rw [frontPasses.last_eq] at backAccepted
        exact ⟨front ++ back, frontPasses.trans backPasses, Rounds.trans frontAccepted backAccepted⟩
      rcases Thread.related_of_mem_rounds single trans (List.mem_reverse.mp member) with
        nowhere | reaches
      · exact absurd nowhere List.not_mem_nil
      · exact reaches

theorem precedes_of_mem_ends {regex : Regex} {entry thread : Thread}
    (member : thread ∈ regex.ends entry) : entry.Precedes thread := by
  obtain ⟨text, passes, _⟩ := reaches_of_mem_ends member
  exact ⟨text, passes⟩

end Regex

/-! ## Rules -/

namespace Rule

variable {τ : Type} {rule : Rule τ} {cursor : Cursor} {matched : Match}

/-- A rule matches what the preferred thread of its expression has read. -/
theorem exists_find?_of_match? (found : rule.match? cursor = some matched) :
    ∃ thread, rule.matcher.regex.find? cursor.passed.head? cursor.rest = some thread ∧
      (Regex.Thread.start cursor.passed.head? cursor.rest).Passes matched.text thread ∧
      thread.rest = matched.following ∧
      rule.matcher.regex.Accepts cursor.passed.head? matched.text matched.following := by
  obtain ⟨finding, finding_eq, rfl⟩ := Option.map_eq_some_iff.mp found
  obtain ⟨thread, thread_eq, rfl⟩ := Option.map_eq_some_iff.mp finding_eq
  obtain ⟨text, passes, accepted⟩ := Regex.reaches_of_mem_ends (List.mem_of_head? thread_eq)
  have rest_eq : cursor.rest = text ++ thread.rest := passes.rest_eq
  have taken_eq : thread.taken = text.length := passes.taken_eq.trans (Nat.zero_add _)
  have text_eq : cursor.rest.take thread.taken = text := by
    rw [rest_eq, taken_eq, List.take_left]
  have following_eq : cursor.rest.drop thread.taken = thread.rest := by
    rw [rest_eq, taken_eq, List.drop_left]
  refine ⟨thread, thread_eq, ?_⟩
  rw [text_eq, following_eq]
  exact ⟨passes, rfl, accepted⟩

/-- A rule matches a text that its expression accepts. -/
theorem accepts_of_match? (found : rule.match? cursor = some matched) :
    rule.matcher.regex.Accepts cursor.passed.head? matched.text matched.following := by
  obtain ⟨_, _, _, _, accepted⟩ := exists_find?_of_match? found
  exact accepted

theorem exists_match?_of_find? {thread : Regex.Thread}
    (found : rule.matcher.regex.find? cursor.passed.head? cursor.rest = some thread) :
    ∃ matched, rule.match? cursor = some matched ∧
      matched.text = cursor.rest.take thread.taken := by
  simp [match?, Matcher.find?, found]

end Rule

end Munch
