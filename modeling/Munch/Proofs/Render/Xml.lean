import Munch.Proofs.Render.Readers
import Munch.Render

/-!
# Token lists read from XML

`Xml.decode` reads a token list from its XML form.  It accepts the texts that are written and no
others (`Xml.decode_eq_some_iff`), so nothing in the spelling or the category of a token can be
taken for markup.

This rests on the characters.  Each of them has a written form of its own, none of which is the
beginning of another, and none of which starts like a tag.
-/

namespace Munch.Render.Xml

open Munch.Text

/-- The entities and the characters they stand for. -/
def entities : List (Text × Char) :=
  [("&amp;".toList, '&'), ("&lt;".toList, '<'), ("&gt;".toList, '>'), ("&quot;".toList, '"'),
    ("&apos;".toList, '\'')]

/-- Whether a character stands for itself. -/
def isPlain (char : Char) : Bool :=
  char ∉ entities.map Prod.snd

/-! ## The reader -/

/-- Read a character that stands for itself, or an entity. -/
def readChar : Reader Char
  | [] => none
  | char :: rest =>
      if isPlain char then some (char, rest)
      else entities.findSome? fun (entity, sign) =>
        (entity.isPrefixOf? (char :: rest)).map (sign, ·)

/-- Read the spelling and the category of a token. -/
def readFields : Reader (Text × Text) :=
  ((readChar.upTo "</lexeme>\n    <tokencategory>".toList).pair
    (readChar.upTo "</tokencategory>\n  </token>\n".toList)).behind
      "  <token>\n    <lexeme>".toList

/-- Read the element of a token. -/
def readToken : Reader (Text × Text) := fun text =>
  (readFields text).map fun ((lexeme, category), rest) => ((category, lexeme), rest)

/-- Read the element of a token list, which is all of the text. -/
def decode : Text → Option (List (Text × Text)) :=
  ((readToken.upTo "</tokenlist>\n".toList).behind "<tokenlist>\n".toList).whole

example : decode "<tokenlist>\n</tokenlist>\n".toList = some [] := by
  cbv

/-! ## Characters -/

variable {char : Char}

theorem escape_of_isPlain (plain : isPlain char = true) : escape char = [char] := by
  have other : char ≠ '&' ∧ char ≠ '<' ∧ char ≠ '>' ∧ char ≠ '"' ∧ char ≠ '\'' := by
    simpa [isPlain, entities] using plain
  simp [escape, other]

/-- Each entity is the written form of its character. -/
theorem escape_of_mem_entities {entity : Text} (member : (entity, char) ∈ entities) :
    escape char = entity := by
  have checked : ∀ pair ∈ entities, escape pair.2 = pair.1 := by decide
  exact checked (entity, char) member

theorem exists_mem_entities (marked : isPlain char = false) :
    ∃ entity, (entity, char) ∈ entities := by
  simpa [isPlain] using marked

/-- A character is read exactly where its written form stands. -/
theorem inverts_readChar : readChar.Inverts escape := by
  intro text char rest
  constructor
  · intro found
    cases text with
    | nil => contradiction
    | cons sign text =>
        rw [readChar] at found
        split at found
        · rename_i plain
          obtain ⟨rfl, rfl⟩ := Prod.mk.inj (Option.some.inj found)
          rw [escape_of_isPlain plain]
          rfl
        · obtain ⟨⟨entity, other⟩, member, found⟩ := List.exists_of_findSome?_eq_some found
          obtain ⟨behind, stripped, found⟩ := Option.map_eq_some_iff.mp found
          obtain ⟨rfl, rfl⟩ := Prod.mk.inj found
          rw [escape_of_mem_entities member]
          exact (List.isPrefixOf?_eq_some_iff_append_eq.mp stripped).symm
  · rintro rfl
    cases plain : isPlain char with
    | true =>
        rw [escape_of_isPlain plain, List.singleton_append, readChar, if_pos plain]
    | false =>
        obtain ⟨entity, member⟩ := exists_mem_entities plain
        rw [escape_of_mem_entities member]
        simp only [entities, List.mem_cons, Prod.mk.injEq, List.not_mem_nil, or_false] at member
        rcases member with ⟨rfl, rfl⟩ | ⟨rfl, rfl⟩ | ⟨rfl, rfl⟩ | ⟨rfl, rfl⟩ | ⟨rfl, rfl⟩
        all_goals rfl

theorem escape_ne_nil (char : Char) : escape char ≠ [] := by
  cases plain : isPlain char with
  | true => simp [escape_of_isPlain plain]
  | false =>
      obtain ⟨entity, member⟩ := exists_mem_entities plain
      have checked : ∀ pair ∈ entities, pair.1 ≠ [] := by decide
      rw [escape_of_mem_entities member]
      exact checked (entity, char) member

/-- No tag is read as a character. -/
theorem readChar_tag (rest : Text) : readChar ('<' :: rest) = none :=
  rfl

/-! ## Tokens -/

theorem inverts_readFields :
    readFields.Inverts fun fields => "  <token>\n    <lexeme>".toList ++
      (encode fields.1 ++ "</lexeme>\n    <tokencategory>".toList ++
        (encode fields.2 ++ "</tokencategory>\n  </token>\n".toList)) :=
  ((inverts_readChar.upTo escape_ne_nil readChar_tag).pair
    (inverts_readChar.upTo escape_ne_nil readChar_tag)).behind _

/-- A token is read exactly where its element stands. -/
theorem inverts_readToken : readToken.Inverts token := by
  rintro text ⟨category, lexeme⟩ rest
  -- `token` puts its parts together in another way, and only the grouping differs
  have grouped := inverts_readFields text (lexeme, category) rest
  constructor
  · intro found
    obtain ⟨⟨⟨spelling, name⟩, last⟩, read_eq, same⟩ := Option.map_eq_some_iff.mp found
    cases same
    unfold token
    simpa only [List.append_assoc] using grouped.mp read_eq
  · intro text_eq
    refine Option.map_eq_some_iff.mpr ⟨((lexeme, category), rest), grouped.mpr ?_, rfl⟩
    unfold token at text_eq
    simpa only [List.append_assoc] using text_eq

theorem token_ne_nil (entry : Text × Text) : token entry ≠ [] := by
  unfold token
  simp

/-- The closing tag of a list is not read as a token. -/
theorem readToken_closing (rest : Text) : readToken ("</tokenlist>\n".toList ++ rest) = none :=
  rfl

/-- The reader accepts what is written, and nothing else. -/
theorem decode_eq_some_iff {text : Text} {entries : List (Text × Text)} :
    decode text = some entries ↔ text = render entries := by
  have inverts := (inverts_readToken.upTo token_ne_nil readToken_closing).behind
    "<tokenlist>\n".toList
  unfold decode render
  rw [inverts.whole_eq_some_iff, List.append_assoc]

/-! ## Escaped text -/

theorem not_mem_escape {sign : Char} (member : sign ∈ ['<', '>', '"', '\'']) (char : Char) :
    sign ∉ escape char := by
  have checked : (['<', '>', '"', '\''].all fun sign =>
      !isPlain sign && entities.all fun pair => sign ∉ pair.1) = true := by
    decide
  obtain ⟨marked, absent⟩ := Bool.and_eq_true_iff.mp (List.all_eq_true.mp checked sign member)
  cases plain : isPlain char with
  | true =>
      rw [escape_of_isPlain plain, List.mem_singleton]
      rintro rfl
      simp [plain] at marked
  | false =>
      obtain ⟨entity, mem_entities⟩ := exists_mem_entities plain
      rw [escape_of_mem_entities mem_entities]
      exact of_decide_eq_true (List.all_eq_true.mp absent (entity, char) mem_entities)

/-- An ampersand in the written form of a character is the beginning of an entity, which is all of
the form. -/
theorem ampersand_of_escape {before behind : Text} (split : escape char = before ++ '&' :: behind) :
    ∃ pair ∈ entities, pair.1 = '&' :: behind := by
  cases plain : isPlain char with
  | true =>
      have marked : isPlain '&' = false := by decide
      have member : '&' ∈ escape char := by rw [split]; simp
      rw [escape_of_isPlain plain, List.mem_singleton] at member
      rw [member, plain] at marked
      contradiction
  | false =>
      have checked : ∀ pair ∈ entities, '&' ∉ pair.1.tail := by decide
      obtain ⟨entity, member⟩ := exists_mem_entities plain
      rw [escape_of_mem_entities member] at split
      cases before with
      | nil => exact ⟨_, member, split⟩
      | cons first before =>
          have once := checked _ member
          rw [split] at once
          simp at once

/-- Of the five characters with a meaning in XML, only the ampersand is written, and only as the
first character of an entity. -/
theorem encode_escaped (text : Text) :
    (∀ sign ∈ ['<', '>', '"', '\''], sign ∉ encode text) ∧
      ∀ before behind, encode text = before ++ '&' :: behind →
        ∃ pair ∈ entities, pair.1 <+: '&' :: behind := by
  constructor
  · intro sign member found
    obtain ⟨char, _, found⟩ := List.mem_flatMap.mp found
    exact not_mem_escape member char found
  · induction text with
    | nil =>
        intro before behind split
        simp [encode] at split
    | cons char text ih =>
        intro before behind split
        -- the ampersand lies in the first written form or behind it
        rcases List.append_eq_append_iff.mp split with ⟨left, _, later⟩ | ⟨right, first, shared⟩
        · exact ih left behind later
        · cases right with
          | nil => exact ih [] behind shared.symm
          | cons sign right =>
              obtain ⟨rfl, rfl⟩ := List.cons.inj shared
              obtain ⟨pair, member, pair_eq⟩ := ampersand_of_escape first
              refine ⟨pair, member, ?_⟩
              rw [pair_eq]
              exact List.prefix_append _ _

/-- The XML form of a token list is decoded to the categories and spellings of its tokens, and a
text that is no such form is not decoded.  In the written form of a text none of the five characters
with a meaning in XML stands for itself. -/
theorem decode_tokens :
    (∀ (κ : Type) [ToString κ] (tokens : List (Token κ)),
      decode (Render.tokens .xml tokens) = some (tokens.map entry)) ∧
    (∀ text entries, decode text = some entries ↔ text = Render.render .xml entries) ∧
    ∀ text, (∀ sign ∈ ['<', '>', '"', '\''], sign ∉ encode text) ∧
      ∀ before behind, encode text = before ++ '&' :: behind →
        ∃ pair ∈ entities, pair.1 <+: '&' :: behind :=
  ⟨fun _ _ _ => decode_eq_some_iff.mpr rfl, fun _ _ => decode_eq_some_iff, encode_escaped⟩

end Munch.Render.Xml
