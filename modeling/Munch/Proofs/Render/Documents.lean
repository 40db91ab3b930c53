import Munch.Proofs.NewtonScript.Literals
import Munch.Proofs.NewtonScript.Words
import Munch.Proofs.Render.Xml

/-!
# Token lists as documents

The grammar of XML 1.0, as far as token lists need it: a document is an element, and between the
tags of an element stand data, references to the predefined entities and other elements.
Declarations, attributes, comments and the like are left out, so these documents are some of those
of XML.

A token list is written as a document exactly if XML allows all characters of its tokens
(`Xml.isDocument_render_iff`).  The tags match, and what has a meaning in XML is escaped; but a
character that XML does not allow at all stands for itself.  In NewtonScript such characters occur
in literals with an opening sign and nowhere else.
-/

namespace Munch

/-- Ranges within others hold no other characters. -/
theorem Unicode.inRanges_of_within {ranges wider : List (Nat × Nat)} {char : Char}
    (within : ∀ range ∈ ranges, ∃ wide ∈ wider, wide.1 ≤ range.1 ∧ range.2 ≤ wide.2)
    (inside : inRanges ranges char = true) : inRanges wider char = true := by
  obtain ⟨range, member, inside⟩ := List.any_eq_true.mp inside
  obtain ⟨low, high⟩ := Bool.and_eq_true_iff.mp inside
  obtain ⟨wide, wideMember, lower, higher⟩ := within range member
  refine List.any_eq_true.mpr ⟨wide, wideMember, Bool.and_eq_true_iff.mpr ⟨?_, ?_⟩⟩
  · exact decide_eq_true (Nat.le_trans lower (of_decide_eq_true low))
  · exact decide_eq_true (Nat.le_trans (of_decide_eq_true high) higher)

namespace Render.Xml

/-! ## The grammar -/

/-- The code points of the characters that a document may hold. -/
def charRanges : List (Nat × Nat) :=
  [(0x9, 0xA), (0xD, 0xD), (0x20, 0xD7FF), (0xE000, 0xFFFD), (0x10000, 0x10FFFF)]

/-- Whether a document may hold the character. -/
def isChar (char : Char) : Bool :=
  Unicode.inRanges charRanges char

/-- Whether a document may hold all characters of a text. -/
def isLegal (text : Text) : Bool :=
  text.all isChar

/-- Whether a character is white space. -/
def isSpace (char : Char) : Bool :=
  char ∈ [' ', '\t', '\r', '\n']

/-- The code points of what a name may start with. -/
def nameStartRanges : List (Nat × Nat) :=
  [(0x3A, 0x3A), (0x41, 0x5A), (0x5F, 0x5F), (0x61, 0x7A), (0xC0, 0xD6), (0xD8, 0xF6),
    (0xF8, 0x2FF), (0x370, 0x37D), (0x37F, 0x1FFF), (0x200C, 0x200D), (0x2070, 0x218F),
    (0x2C00, 0x2FEF), (0x3001, 0xD7FF), (0xF900, 0xFDCF), (0xFDF0, 0xFFFD), (0x10000, 0xEFFFF)]

/-- The code points of what a name may go on with. -/
def nameRanges : List (Nat × Nat) :=
  nameStartRanges ++ [(0x2D, 0x2E), (0x30, 0x39), (0xB7, 0xB7), (0x300, 0x36F), (0x203F, 0x2040)]

/-- Whether a text is a name. -/
def isName : Text → Bool
  | [] => false
  | first :: others =>
      Unicode.inRanges nameStartRanges first && others.all (Unicode.inRanges nameRanges)

/-- Character data: no tag and no reference starts in it, and no marked section ends in it. -/
structure IsData (text : Text) : Prop where
  legal : isLegal text = true
  untagged : '<' ∉ text
  unreferenced : '&' ∉ text
  unended : ¬ "]]>".toList <:+: text

/-- An element, given by its name and its content. -/
def element (name content : Text) : Text :=
  "<".toList ++ name ++ ">".toList ++ content ++ "</".toList ++ name ++ ">".toList

/-- What may stand between the tags of an element: references and elements, with data before,
between and behind them. -/
inductive IsContent : Text → Prop
  | data {text : Text} (data : IsData text) : IsContent text
  | reference {front entity rest : Text} {char : Char} (data : IsData front)
      (predefined : (entity, char) ∈ entities) (others : IsContent rest) :
      IsContent (front ++ entity ++ rest)
  | element {front name content rest : Text} (data : IsData front) (named : isName name = true)
      (inner : IsContent content) (others : IsContent rest) :
      IsContent (front ++ Xml.element name content ++ rest)

/-- A document: one element, with white space around it. -/
def IsDocument (text : Text) : Prop :=
  ∃ before name content behind, text = before ++ element name content ++ behind ∧
    before.all isSpace = true ∧ isName name = true ∧ IsContent content ∧ behind.all isSpace = true

/-! ## Legal texts -/

theorem isLegal_iff {text : Text} : isLegal text = true ↔ ∀ char ∈ text, isChar char = true :=
  List.all_eq_true

theorem isLegal_append {first second : Text} :
    isLegal (first ++ second) = true ↔ isLegal first = true ∧ isLegal second = true := by
  rw [isLegal, List.all_append, Bool.and_eq_true_iff]
  rfl

theorem isLegal_of_isSpace {text : Text} (blank : text.all isSpace = true) :
    isLegal text = true := by
  have checked : isLegal [' ', '\t', '\r', '\n'] = true := by decide
  refine isLegal_iff.mpr fun char member => isLegal_iff.mp checked char ?_
  exact of_decide_eq_true (List.all_eq_true.mp blank char member)

theorem isLegal_of_isName {name : Text} (named : isName name = true) : isLegal name = true := by
  have within : ∀ range ∈ nameRanges,
      ∃ wide ∈ charRanges, wide.1 ≤ range.1 ∧ range.2 ≤ wide.2 := by
    decide
  cases name with
  | nil => contradiction
  | cons first others =>
      obtain ⟨start, inside⟩ := Bool.and_eq_true_iff.mp named
      refine isLegal_iff.mpr fun char member => Unicode.inRanges_of_within within ?_
      rcases List.mem_cons.mp member with rfl | later
      · exact List.any_append.trans (Bool.or_eq_true_iff.mpr (.inl start))
      · exact List.all_eq_true.mp inside char later

theorem isLegal_of_mem_entities {entity : Text} {char : Char} (member : (entity, char) ∈ entities) :
    isLegal entity = true ∧ isChar char = true := by
  have checked : ∀ pair ∈ entities, isLegal pair.1 = true ∧ isChar pair.2 = true := by decide
  exact checked (entity, char) member

theorem isLegal_element {name content : Text} (named : isName name = true)
    (legal : isLegal content = true) : isLegal (element name content) = true := by
  have nameLegal := isLegal_of_isName named
  unfold element
  simp only [isLegal_append]
  exact ⟨⟨⟨⟨⟨⟨by decide, nameLegal⟩, by decide⟩, legal⟩, by decide⟩, nameLegal⟩, by decide⟩

theorem IsContent.isLegal {text : Text} (content : IsContent text) : isLegal text = true := by
  induction content with
  | data data => exact data.legal
  | reference data predefined _ ih =>
      simp only [isLegal_append]
      exact ⟨⟨data.legal, (isLegal_of_mem_entities predefined).1⟩, ih⟩
  | element data named _ _ innerIh ih =>
      simp only [isLegal_append]
      exact ⟨⟨data.legal, isLegal_element named innerIh⟩, ih⟩

/-- Every character of a document is legal. -/
theorem IsDocument.isLegal {text : Text} (document : IsDocument text) : isLegal text = true := by
  obtain ⟨before, name, content, behind, rfl, blank, named, inner, blankBehind⟩ := document
  simp only [isLegal_append]
  exact ⟨⟨isLegal_of_isSpace blank, isLegal_element named inner.isLegal⟩,
    isLegal_of_isSpace blankBehind⟩

/-! ## Written texts as content -/

/-- Characters that stand for themselves are data, if they are legal. -/
theorem isData_of_isPlain {text : Text} (legal : isLegal text = true)
    (plain : ∀ char ∈ text, isPlain char = true) : IsData text where
  legal := legal
  untagged := fun member => absurd (plain '<' member) (by decide)
  unreferenced := fun member => absurd (plain '&' member) (by decide)
  unended := fun ended => absurd (plain '>' (ended.subset (by decide))) (by decide)

theorem isData_of_isSpace {text : Text} (blank : text.all isSpace = true) : IsData text := by
  have checked : [' ', '\t', '\r', '\n'].all isPlain = true := by decide
  refine isData_of_isPlain (isLegal_of_isSpace blank) fun char member => ?_
  exact List.all_eq_true.mp checked char
    (of_decide_eq_true (List.all_eq_true.mp blank char member))

/-- The written form of a legal text is content. -/
theorem isContent_append_encode {front text : Text} (frontLegal : isLegal front = true)
    (plain : ∀ char ∈ front, isPlain char = true) (legal : isLegal text = true) :
    IsContent (front ++ encode text) := by
  -- the characters that stand for themselves are gathered in `front` up to the next entity
  induction text generalizing front with
  | nil =>
      rw [encode, List.flatMap_nil, List.append_nil]
      exact .data (isData_of_isPlain frontLegal plain)
  | cons char text ih =>
      obtain ⟨charLegal, legal⟩ := Bool.and_eq_true_iff.mp legal
      have encode_eq : encode (char :: text) = escape char ++ encode text := List.flatMap_cons
      rw [encode_eq, ← List.append_assoc]
      cases plainChar : isPlain char with
      | true =>
          rw [escape_of_isPlain plainChar]
          refine ih (isLegal_append.mpr ⟨frontLegal, ?_⟩) ?_ legal
          · simpa [Xml.isLegal] using charLegal
          · simpa [or_imp, forall_and] using ⟨plain, plainChar⟩
      | false =>
          obtain ⟨entity, member⟩ := exists_mem_entities plainChar
          rw [escape_of_mem_entities member]
          have others : IsContent ([] ++ encode text) := ih rfl (List.forall_mem_nil _) legal
          exact .reference (isData_of_isPlain frontLegal plain) member others

theorem isContent_encode {text : Text} (legal : isLegal text = true) : IsContent (encode text) := by
  have plain : ∀ char ∈ ([] : Text), isPlain char = true := List.forall_mem_nil _
  exact isContent_append_encode rfl plain legal

/-! ## Token lists -/

/-- The content of the element of a token: its spelling and its category. -/
def fields (entry : Text × Text) : Text :=
  "\n    ".toList ++ element "lexeme".toList (encode entry.2) ++
    ("\n    ".toList ++ element "tokencategory".toList (encode entry.1) ++ "\n  ".toList)

/-- The element of a token is written on lines of its own. -/
theorem token_eq_element (entry : Text × Text) :
    token entry = "  ".toList ++ element "token".toList (fields entry) ++ "\n".toList := by
  have opening : "  <token>\n    <lexeme>".toList = "  ".toList ++ ("<".toList ++
      ("token".toList ++ (">".toList ++ ("\n    ".toList ++ ("<".toList ++ ("lexeme".toList ++
        ">".toList)))))) := by
    decide
  have middle : "</lexeme>\n    <tokencategory>".toList = "</".toList ++ ("lexeme".toList ++
      (">".toList ++ ("\n    ".toList ++ ("<".toList ++ ("tokencategory".toList ++
        ">".toList))))) := by
    decide
  have closing : "</tokencategory>\n  </token>\n".toList = "</".toList ++
      ("tokencategory".toList ++ (">".toList ++ ("\n  ".toList ++ ("</".toList ++
        ("token".toList ++ (">".toList ++ "\n".toList)))))) := by
    decide
  unfold token fields element
  rw [opening, middle, closing]
  simp only [List.append_assoc]

theorem isContent_fields {entry : Text × Text} (category : isLegal entry.1 = true)
    (lexeme : isLegal entry.2 = true) : IsContent (fields entry) := by
  refine .element (isData_of_isSpace (by decide)) (by decide) (isContent_encode lexeme) ?_
  refine .element (isData_of_isSpace (by decide)) (by decide) (isContent_encode category) ?_
  exact .data (isData_of_isSpace (by decide))

/-- The elements of legal tokens are content. -/
theorem isContent_tokens {entries : List (Text × Text)}
    (legal : ∀ entry ∈ entries, isLegal entry.1 = true ∧ isLegal entry.2 = true) :
    IsContent ("\n".toList ++ entries.flatMap token) := by
  induction entries with
  | nil => exact .data (isData_of_isSpace (by decide))
  | cons entry entries ih =>
      obtain ⟨⟨category, lexeme⟩, others⟩ := List.forall_mem_cons.mp legal
      -- the white space behind an element goes with that of the next
      have parts_eq : "\n".toList ++ (entry :: entries).flatMap token =
          "\n  ".toList ++ element "token".toList (fields entry) ++
            ("\n".toList ++ entries.flatMap token) := by
        rw [List.flatMap_cons, token_eq_element]
        simp only [List.append_assoc]
        rfl
      rw [parts_eq]
      exact .element (isData_of_isSpace (by decide)) (by decide) (isContent_fields category lexeme)
        (ih others)

/-- What a token holds stands in the written form, if it stands for itself. -/
theorem mem_render_of_isPlain {entries : List (Text × Text)} {entry : Text × Text} {char : Char}
    (member : entry ∈ entries) (inside : char ∈ entry.1 ∨ char ∈ entry.2)
    (plain : isPlain char = true) : char ∈ render entries := by
  have written : ∀ {text}, char ∈ text → char ∈ encode text := by
    intro text inside
    refine List.mem_flatMap.mpr ⟨char, inside, ?_⟩
    rw [escape_of_isPlain plain]
    exact List.mem_singleton_self char
  have inToken : char ∈ token entry := by
    unfold token
    simp only [List.mem_append]
    rcases inside with category | lexeme
    · exact .inl (.inr (written category))
    · exact .inl (.inl (.inl (.inr (written lexeme))))
  unfold render
  simp only [List.mem_append, List.mem_flatMap]
  exact .inl (.inr ⟨entry, member, inToken⟩)

/-- A token list is written as a document if and only if what its tokens hold is legal. -/
theorem isDocument_render_iff {entries : List (Text × Text)} :
    IsDocument (render entries) ↔
      ∀ entry ∈ entries, isLegal entry.1 = true ∧ isLegal entry.2 = true := by
  constructor
  · intro document entry member
    have legal : ∀ char, char ∈ entry.1 ∨ char ∈ entry.2 → isChar char = true := by
      intro char inside
      cases plain : isPlain char with
      | true =>
          exact isLegal_iff.mp document.isLegal char (mem_render_of_isPlain member inside plain)
      | false =>
          obtain ⟨_, mem_entities⟩ := exists_mem_entities plain
          exact (isLegal_of_mem_entities mem_entities).2
    exact ⟨isLegal_iff.mpr fun char inside => legal char (.inl inside),
      isLegal_iff.mpr fun char inside => legal char (.inr inside)⟩
  · intro legal
    have opening : "<tokenlist>\n".toList = "<".toList ++ ("tokenlist".toList ++ (">".toList ++
        "\n".toList)) := by
      decide
    have closing : "</tokenlist>\n".toList = "</".toList ++ ("tokenlist".toList ++ (">".toList ++
        "\n".toList)) := by
      decide
    refine ⟨[], "tokenlist".toList, _, "\n".toList, ?_, rfl, by decide, isContent_tokens legal,
      by decide⟩
    unfold render element
    rw [opening, closing]
    simp only [List.append_assoc, List.nil_append]

/-! ## Characters that are not legal -/

/-- The code points of the characters that a document may not hold. -/
def excluded : List Nat :=
  (List.range 0x20).filter (· ∉ [0x9, 0xA, 0xD]) ++ [0xFFFE, 0xFFFF]

theorem mem_excluded_of_isChar {char : Char} (refused : isChar char = false) :
    char.toNat ∈ excluded := by
  have scalar : char.toNat < 0xD800 ∨ 0xDFFF < char.toNat ∧ char.toNat < 0x110000 := char.valid
  simp only [isChar, Unicode.inRanges, charRanges, List.any_eq_false, List.mem_cons,
    List.not_mem_nil, or_false, forall_eq_or_imp, forall_eq, Bool.and_eq_true,
    decide_eq_true_eq] at refused
  simp only [excluded, List.mem_append, List.mem_filter, List.mem_range, List.mem_cons,
    List.not_mem_nil, or_false, decide_eq_true_eq]
  omega

theorem exists_excluded_of_isLegal {text : Text} (illegal : isLegal text = false) :
    ∃ code ∈ excluded, Char.ofNat code ∈ text := by
  obtain ⟨char, member, refused⟩ := List.all_eq_false.mp illegal
  refine ⟨char.toNat, mem_excluded_of_isChar (Bool.eq_false_of_not_eq_true refused), ?_⟩
  rw [Char.ofNat_toNat]
  exact member

end Render.Xml

namespace NewtonScript

open Regex Render.Xml

/-- The forms other than literals and what separates lexemes read legal characters only, as do
identifiers. -/
theorem Form.avoids_excluded :
    (∀ form ∈ [reservedWord, real, integer, operator, delimiter], ∀ code ∈ excluded,
      form.regex.avoids (Char.ofNat code) = true) ∧
    ∀ code ∈ excluded, identifier.avoids (Char.ofNat code) = true := by
  decide +kernel

/-- A lexeme that is not legal is a literal. -/
theorem Lexeme.exists_literal {form : Form} {text : Text} (lexeme : Lexeme form text)
    (illegal : isLegal text = false) :
    ∃ literal : Literal, form.category = literal.category ∧ literal.Language text := by
  obtain ⟨_, matched, found, rfl⟩ := lexeme.found
  have accepted := Form.accepts_of_match? found
  obtain ⟨code, refused, member⟩ := exists_excluded_of_isLegal illegal
  obtain ⟨formsAvoid, identifierAvoids⟩ := Form.avoids_excluded
  -- whatever opens a literal, the rest of it is as its grammar says
  have opened : ∀ (literal : Literal) {others : Text}, form = literal.form →
      matched.text = literal.opening :: others →
        ∃ literal : Literal, form.category = literal.category ∧ literal.Language matched.text := by
    rintro literal others rfl text_eq
    refine ⟨literal, by cases literal <;> rfl, others, text_eq, ?_⟩
    rw [text_eq] at accepted
    exact Literal.accepts_opening_iff.mp accepted
  cases form with
  | string =>
      obtain ⟨_, _, text_eq, ⟨_, _, rfl, ⟨_, _, rfl, first, _⟩, _⟩, _⟩ := accepted
      obtain rfl := accepts_sign.mp first
      exact opened .string rfl text_eq
  | character =>
      obtain ⟨_, _, text_eq, first, _⟩ := accepted
      obtain rfl := accepts_sign.mp first
      exact opened .character rfl text_eq
  | symbol =>
      rcases accepted with identified | barred
      · exact absurd member (not_mem_of_accepts (identifierAvoids code refused) identified)
      · obtain ⟨_, text_eq⟩ := Form.exists_bar_of_barred barred
        exact opened .barred rfl text_eq
  | reservedWord | real | integer | operator | delimiter =>
      exact absurd member (not_mem_of_accepts (formsAvoid _ (by decide) code refused) accepted)
  | whiteSpace | lineComment | commentOpen | commentBody | commentClose => cases lexeme.plain

/-- The tokens of an input hold characters of the input only. -/
theorem subset_of_munches {options : Options} {cursor : Cursor} {state : StateId}
    {tokens : List (Token Category)}
    (munches : (tableOf options Form.all).Munches cursor state tokens) :
    ∀ token ∈ tokens, token.text ⊆ cursor.rest := by
  induction munches with
  | @step cursor state candidate decision tokens foremost decided _ ih =>
      obtain ⟨_, rest_eq, _⟩ := Rule.eq_of_match? foremost.offered.matching
      intro token member
      rcases List.mem_append.mp member with here | later
      · obtain ⟨form, _, fits⟩ := exists_form_of_offers foremost.offered
        rw [← decided, fits.rule_eq] at here
        obtain rfl := Form.eq_token_of_mem_tokens here
        rw [rest_eq]
        exact List.subset_append_left _ _
      · have behind := ih token later
        rw [foremost.rest_behind rest_eq] at behind
        rw [rest_eq]
        exact List.subset_append_of_subset_right _ behind
  | finish _ _ => simp

theorem render_eq_of_tokenize {format : Format} {input : Text} {tokens : List (Token Category)}
    (succeeded : tokenize {} input = .ok tokens) :
    render format input = .ok (Render.tokens format tokens) := by
  unfold render
  rw [succeeded]
  rfl

/-- An input has tokens if something can be seen of them. -/
theorem exists_tokenize_of_map_eq {α : Type} {input : Text} {view : Token Category → α}
    {seen : List α} (found : (tokenize {} input).toOption.map (List.map view) = some seen) :
    ∃ tokens, tokenize {} input = .ok tokens ∧ tokens.map view = seen := by
  obtain ⟨tokens, tokens_eq, seen_eq⟩ := Option.map_eq_some_iff.mp found
  cases succeeded : tokenize {} input with
  | error error =>
      rw [succeeded] at tokens_eq
      cases tokens_eq
  | ok others =>
      rw [succeeded] at tokens_eq
      cases tokens_eq
      exact ⟨tokens, rfl, seen_eq⟩

theorem isLegal_category (category : Category) : isLegal (toString category).toList = true := by
  cases category <;> decide

/-- An input without errors is written out as XML, and what is written is a document exactly if its
lexemes are legal.  This is so if the input is legal; and lexemes that are not legal are strings,
symbols between bars and characters. -/
theorem isDocument_render_iff_isLegal {input : Text} {tokens : List (Token Category)}
    (succeeded : tokenize {} input = .ok tokens) :
    ∃ output, render .xml input = .ok output ∧
      (IsDocument output ↔ ∀ token ∈ tokens, isLegal token.text = true) ∧
      (isLegal input = true → IsDocument output) ∧
      ∀ token ∈ tokens, isLegal token.text = false →
        ∃ literal : Literal, token.kind = literal.category ∧ literal.Language token.text := by
  have munches := tokenize_eq_ok_iff.mp succeeded
  have document_iff : IsDocument (Render.tokens .xml tokens) ↔
      ∀ token ∈ tokens, isLegal token.text = true := by
    refine isDocument_render_iff.trans (List.forall_mem_map.trans ?_)
    exact forall₂_congr fun token _ => and_iff_right (isLegal_category token.kind)
  refine ⟨_, render_eq_of_tokenize succeeded, document_iff, ?_, ?_⟩
  · intro legal
    refine document_iff.mpr fun token member => isLegal_iff.mpr fun char inside => ?_
    exact isLegal_iff.mp legal char (subset_of_munches munches token member inside)
  · intro token member illegal
    obtain ⟨form, category_eq, lexeme⟩ := exists_lexeme_of_munches munches token member
    rw [← category_eq]
    exact lexeme.exists_literal illegal

/-- The end of a marked section, a sign and an entity in literals are written as data and as
references. -/
theorem isDocument_render_iff_isLegal_signs :
    ∃ tokens, tokenize {} "\"]]>\"<|&amp;'|".toList = .ok tokens ∧
      tokens.map Token.text = ["\"]]>\"".toList, ['<'], "|&amp;'|".toList] ∧
      ∃ output, render .xml "\"]]>\"<|&amp;'|".toList = .ok output ∧ IsDocument output := by
  have found : (tokenize {} "\"]]>\"<|&amp;'|".toList).toOption.map (List.map Token.text) =
      some ["\"]]>\"".toList, ['<'], "|&amp;'|".toList] := by
    rw [tokenize_of_rules_eq (rules_eq_map {})]
    decide +kernel
  obtain ⟨tokens, succeeded, texts_eq⟩ := exists_tokenize_of_map_eq found
  obtain ⟨output, written, _, document, _⟩ := isDocument_render_iff_isLegal succeeded
  exact ⟨tokens, succeeded, texts_eq, output, written, document (by decide)⟩

/-- A control character in a string is written as it is, and what is written is no document. -/
theorem not_isDocument_render_control :
    ∃ output, render .xml ['"', '\x01', '"'] = .ok output ∧ '\x01' ∈ output ∧
      isChar '\x01' = false ∧ ¬ IsDocument output := by
  have found : (tokenize {} ['"', '\x01', '"']).toOption.map (List.map Render.entry) =
      some [("STRING".toList, ['"', '\x01', '"'])] := by
    rw [tokenize_of_rules_eq (rules_eq_map {})]
    decide +kernel
  obtain ⟨tokens, succeeded, entries_eq⟩ := exists_tokenize_of_map_eq found
  have output_eq : Render.tokens .xml tokens =
      Render.Xml.render [("STRING".toList, ['"', '\x01', '"'])] :=
    congrArg (Render.render .xml) entries_eq
  refine ⟨_, render_eq_of_tokenize succeeded, ?_, by decide, ?_⟩
  · rw [output_eq]
    exact mem_render_of_isPlain List.mem_cons_self (.inr (by decide)) (by decide)
  · rw [output_eq, isDocument_render_iff]
    decide

end NewtonScript

end Munch
