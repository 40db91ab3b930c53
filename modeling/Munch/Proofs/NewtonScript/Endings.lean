import Munch.Proofs.NewtonScript.Spelling
import Munch.Proofs.Regex.Preference

/-!
# Where lexemes end

A space ends every lexeme that separates no others, whatever its form: in front of a space nothing
longer is accepted than such a lexeme (`Form.exists_append_of_spaced`).  Most lexemes are free of
spaces.  A string or a symbol between bars ends with the first closing sign that is not part of an
escape, so it is not the beginning of another.

An identifier ends where no more characters of identifiers follow, and a reserved word where no
character of words follows; the latter are more.
-/

namespace Munch.NewtonScript.Form

open Regex

variable {last : Option Char} {text rest : Text}

/-! ## Closing signs -/

/-- What follows the first closing sign that is not behind a backslash. -/
def behindClosing (closing : Char) : Text → Option Text
  | [] => none
  | [char] => if char = closing then some [] else none
  | char :: next :: others =>
      if char = '\\' then behindClosing closing others
      else if char = closing then some (next :: others)
      else behindClosing closing (next :: others)

/-- A text that can stand between the signs. -/
def Inner (closing : Char) (text : Text) : Prop :=
  ∀ rest, behindClosing closing (text ++ rest) = behindClosing closing rest

theorem behindClosing_closing {closing : Char} (plain : closing ≠ '\\') (rest : Text) :
    behindClosing closing (closing :: rest) = some rest := by
  cases rest <;> simp [behindClosing, plain]

namespace Inner

variable {closing : Char}

theorem append {front back : Text} (frontInner : Inner closing front)
    (backInner : Inner closing back) : Inner closing (front ++ back) := by
  intro rest
  rw [List.append_assoc, frontInner, backInner]

theorem nil : Inner closing [] :=
  fun _ => rfl

/-- An escape takes two characters, whatever the second. -/
theorem escape (char : Char) : Inner closing ['\\', char] := by
  intro rest
  simp [behindClosing]

theorem single {char : Char} (plain : char ≠ '\\') (other : char ≠ closing) :
    Inner closing [char] := by
  intro rest
  cases rest <;> simp [behindClosing, plain, other]

/-- A text without backslashes and closing signs. -/
theorem of_not_mem (plain : '\\' ∉ text) (other : closing ∉ text) : Inner closing text := by
  induction text with
  | nil => exact nil
  | cons char text ih =>
      rw [List.mem_cons, not_or] at plain other
      exact (single (Ne.symm plain.1) (Ne.symm other.1)).append (ih plain.2 other.2)

/-- A repetition of such texts. -/
theorem many {body : Regex}
    (inner : ∀ {last text rest}, body.Accepts last text rest → Inner closing text)
    (accepted : (many body).Accepts last text rest) : Inner closing text := by
  rcases accepted with rounds | rfl
  · exact Rounds.forall_of_append inner append rounds
  · exact nil

end Inner

theorem inner_hexQuads (accepted : (many hexQuad).Accepts last text rest) : Inner '"' text :=
  .of_not_mem (not_mem_of_accepts (by decide) accepted) (not_mem_of_accepts (by decide) accepted)

theorem inner_stringPart (accepted : stringPart.Accepts last text rest) : Inner '"' text := by
  rcases accepted with ⟨char, inside, rfl⟩ | ⟨_, _, rfl, first, char, _, rfl⟩ |
    ⟨_, _, rfl, ⟨_, _, rfl, ⟨_, digits, rfl, opening, quads⟩, slash⟩, letter⟩
  · simp only [CharClass.contains_outside, List.mem_cons, not_or] at inside
    exact .single inside.2.1 inside.1
  · obtain rfl := accepts_sign.mp first
    exact .escape char
  · obtain rfl := accepts_word.mp opening
    obtain rfl := accepts_sign.mp slash
    obtain rfl := accepts_sign.mp letter
    rw [List.append_assoc _ ['\\'] ['u']]
    exact ((Inner.escape 'u').append (inner_hexQuads quads)).append (.escape 'u')

theorem inner_stringTail (accepted : (optional stringTail).Accepts last text rest) :
    Inner '"' text := by
  rcases accepted with ⟨_, digits, rfl, opening, quads⟩ | rfl
  · obtain rfl := accepts_word.mp opening
    exact (Inner.escape 'u').append (inner_hexQuads quads)
  · exact .nil

theorem inner_symbolPart (accepted : symbolPart.Accepts last text rest) : Inner '|' text := by
  rcases accepted with ⟨char, inside, rfl⟩ | ⟨_, _, rfl, first, char, _, rfl⟩
  · simp only [CharClass.contains_outside, List.mem_cons, not_or] at inside
    exact .single inside.2.1 inside.1
  · obtain rfl := accepts_sign.mp first
    exact .escape char

/-- The text stands between two signs, and the second of them is the first that closes it. -/
def Delimited (closing : Char) (text : Text) : Prop :=
  ∃ body, text = closing :: body ∧ ∀ rest, behindClosing closing (body ++ rest) = some rest

theorem delimited_of_inner {closing : Char} (plain : closing ≠ '\\') {body : Text}
    (inner : Inner closing body) : Delimited closing (closing :: body ++ [closing]) := by
  refine ⟨body ++ [closing], rfl, fun rest => ?_⟩
  rw [List.append_assoc, inner]
  exact behindClosing_closing plain rest

theorem delimited_of_string (accepted : string.regex.Accepts last text rest) :
    Delimited '"' text := by
  obtain ⟨_, _, rfl, ⟨_, _, rfl, ⟨_, _, rfl, opening, parts⟩, tail⟩, closing⟩ := accepted
  obtain rfl := accepts_sign.mp opening
  obtain rfl := accepts_sign.mp closing
  exact delimited_of_inner (by decide) ((Inner.many inner_stringPart parts).append
    (inner_stringTail tail))

theorem delimited_of_barred (accepted : barred.Accepts last text rest) : Delimited '|' text := by
  obtain ⟨_, _, rfl, ⟨_, _, rfl, opening, parts⟩, closing⟩ := accepted
  obtain rfl := accepts_sign.mp opening
  obtain rfl := accepts_sign.mp closing
  exact delimited_of_inner (by decide) (Inner.many inner_symbolPart parts)

/-- No delimited text is the beginning of another. -/
theorem Delimited.eq_nil_of_append {closing : Char} {more : Text}
    (delimited : Delimited closing text)
    (longer : Delimited closing (text ++ more)) : more = [] := by
  obtain ⟨body, rfl, ends⟩ := delimited
  obtain ⟨whole, whole_eq, wholeEnds⟩ := longer
  obtain ⟨_, rfl⟩ := List.cons.inj whole_eq
  have both := (ends more).symm.trans ((congrArg _ (List.append_nil _).symm).trans (wholeEnds []))
  exact Option.some.inj both

/-! ## Spaces -/

/-- Whether lexemes of the form only separate others. -/
def isTrivia : Form → Bool
  | whiteSpace => true
  | lineComment => true
  | commentOpen => true
  | commentBody => true
  | commentClose => true
  | _ => false

theorem isComment_of_isTrivia {form : Form} (plain : form.isTrivia = false) :
    form.isComment = false := by
  cases form with
  | commentBody => contradiction
  | commentClose => contradiction
  | _ => rfl

/-- Nothing follows, or a space. -/
def Spaced (following : Text) : Prop :=
  ∀ char ∈ following.head?, char = ' '

/-- A lexeme that starts with a bar is a symbol between bars. -/
theorem delimited_of_bar {form : Form} {others : Text} (code : form.isComment = false)
    (accepted : form.regex.Accepts last ('|' :: others) rest) : Delimited '|' ('|' :: others) := by
  have same : form.appearance = symbol := (ofText_of_accepts code accepted).symm
  rcases eq_of_appearance_eq_symbol same with rfl | rfl
  · have reserved := (accepts_reservedWord.mp accepted).1
    have letter := reserved.isAsciiLetter_of_mem List.mem_cons_self
    contradiction
  · rcases accepted with accepted | accepted
    · obtain ⟨first, _, text_eq, inside⟩ := exists_letter_of_identifier accepted
      obtain ⟨rfl, _⟩ := List.cons.inj text_eq
      contradiction
    · exact delimited_of_barred accepted

/-- No lexeme goes on with a space behind another one. -/
theorem not_accepts_append_space {form kind : Form} (plain : form.isTrivia = false)
    (code : kind.isComment = false) {first : Char} {others more behind : Text} {other : Option Char}
    (accepted : form.regex.Accepts last (first :: others) rest) :
    ¬ kind.regex.Accepts other (first :: others ++ ' ' :: more) behind := by
  intro longer
  have formCode := isComment_of_isTrivia plain
  have appears := ofText_of_accepts formCode accepted
  have space : ' ' ∈ first :: others ++ ' ' :: more := by simp
  cases kind with
  | string =>
      obtain ⟨_, text_eq, _⟩ := delimited_of_string longer
      obtain ⟨rfl, _⟩ := List.cons.inj text_eq
      obtain rfl : form = string := eq_of_appearance_eq appears.symm (by decide)
      cases (delimited_of_string accepted).eq_nil_of_append (delimited_of_string longer)
  | symbol =>
      rcases longer with longer | longer
      · exact not_mem_of_accepts (by decide) longer space
      · obtain ⟨_, text_eq, _⟩ := delimited_of_barred longer
        obtain ⟨rfl, _⟩ := List.cons.inj text_eq
        cases (delimited_of_bar formCode accepted).eq_nil_of_append (delimited_of_barred longer)
  | whiteSpace =>
      have blank := (accepts_run.mp longer).2 first List.mem_cons_self
      obtain rfl := eq_whiteSpace_of_isBlank formCode accepted blank
      contradiction
  | lineComment =>
      obtain ⟨_, comment, text_eq, opening, _⟩ := longer
      obtain rfl := accepts_word.mp opening
      obtain ⟨rfl, others_eq⟩ := List.cons.inj text_eq
      cases others with
      | nil => exact absurd (List.cons.inj others_eq).1 (by decide)
      | cons second others =>
          obtain ⟨rfl, _⟩ := List.cons.inj others_eq
          obtain rfl : form = lineComment := eq_of_appearance_eq appears.symm (by decide)
          contradiction
  | commentBody => contradiction
  | commentClose => contradiction
  | reservedWord => exact not_mem_of_accepts (by decide +kernel) longer space
  | real => exact not_mem_of_accepts (by decide) longer space
  | integer => exact not_mem_of_accepts (by decide) longer space
  | character => exact not_mem_of_accepts (by decide) longer space
  | operator => exact not_mem_of_accepts (by decide) longer space
  | delimiter => exact not_mem_of_accepts (by decide) longer space
  | commentOpen => exact not_mem_of_accepts (by decide) longer space

/-- In front of a space or the end, nothing longer than a lexeme is accepted. -/
theorem exists_append_of_spaced {form kind : Form} (plain : form.isTrivia = false)
    (code : kind.isComment = false) (something : text ≠ []) {other : Option Char}
    {longer following behind : Text} (spaced : Spaced following)
    (accepted : form.regex.Accepts last text rest)
    (alsoAccepted : kind.regex.Accepts other longer behind)
    (text_eq : text ++ following = longer ++ behind) : ∃ left, text = longer ++ left := by
  rcases List.append_eq_append_iff.mp text_eq with
    ⟨more, longer_eq, following_eq⟩ | ⟨left, shorter, _⟩
  · cases more with
    | nil => exact ⟨[], by simpa using longer_eq.symm⟩
    | cons char more =>
        obtain rfl : char = ' ' := spaced char (by rw [following_eq]; rfl)
        obtain ⟨first, others, rfl⟩ := List.exists_cons_of_ne_nil something
        rw [longer_eq] at alsoAccepted
        exact absurd alsoAccepted (not_accepts_append_space plain code accepted)
  · exact ⟨left, shorter⟩

/-! ## Words -/

/-- A reserved word is not accepted as the beginning of another. -/
theorem eq_nil_of_reservedWord {more : Text}
    (accepted : reservedWord.regex.Accepts last text (more ++ rest))
    (reserved : Reserved (text ++ more)) : more = [] := by
  cases more with
  | nil => rfl
  | cons char more =>
      have letter := reserved.isAsciiLetter_of_mem (show char ∈ text ++ char :: more by simp)
      have word : Unicode.isWord char = true :=
        Unicode.isWord_of_isAsciiWord (by simp [Unicode.isAsciiWord, letter])
      have ends := (accepts_reservedWord.mp accepted).2
      rw [List.cons_append, List.head?_cons, Option.any_some, word] at ends
      contradiction

/-- At most one reserved word is accepted at a place. -/
theorem eq_of_reservedWord {other : Option Char} {second behind : Text}
    (accepted : reservedWord.regex.Accepts last text rest)
    (alsoAccepted : reservedWord.regex.Accepts other second behind)
    (text_eq : text ++ rest = second ++ behind) : second = text := by
  rcases List.append_eq_append_iff.mp text_eq with ⟨more, rfl, rfl⟩ | ⟨more, rfl, rfl⟩
  · rw [eq_nil_of_reservedWord accepted (accepts_reservedWord.mp alsoAccepted).1, List.append_nil]
  · rw [eq_nil_of_reservedWord alsoAccepted (accepts_reservedWord.mp accepted).1, List.append_nil]

/-- The preferred match of a symbol that starts with a letter is as long as can be. -/
theorem stops_of_find?_symbol {first : Char} {others : Text} {thread : Thread}
    (inside : letter.contains first = true)
    (found : symbol.regex.find? last (first :: others) = some thread) :
    thread.rest.head?.any Unicode.isAsciiWord = false := by
  let next : Thread := ⟨some first, others, 1, [], []⟩
  have start_eq : (oneOf letter).ends (Thread.start last (first :: others)) = [next] := by
    simp only [ends, Thread.read, Thread.start, inside, if_true]
    rfl
  have tail_eq : ((optional (run wordSign)).ends next).head? =
      some (((run wordSign).ends next).head?.getD next) := by
    rw [Regex.optional, ends, Thread.head?_distinct, List.head?_append]
    cases ((run wordSign).ends next).head? <;> rfl
  have identifier_eq : (identifier.ends (Thread.start last (first :: others))).head? =
      some (((run wordSign).ends next).head?.getD next) := by
    rw [identifier, ends, Thread.head?_distinct, start_eq, List.flatMap_singleton, tail_eq]
  have thread_eq : thread = ((run wordSign).ends next).head?.getD next := by
    rw [find?, regex, ends, Thread.head?_distinct, List.head?_append, identifier_eq] at found
    exact (Option.some.inj found).symm
  have signs_eq : wordSign.contains = Unicode.isAsciiWord := by
    funext char
    exact Bool.eq_iff_iff.mpr contains_wordSign
  rw [thread_eq, run, ends, List.head?_reverse, ← signs_eq]
  exact Thread.stops_of_rounds (Nat.lt_succ_self _)

end Munch.NewtonScript.Form
