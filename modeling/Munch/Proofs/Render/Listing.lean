import Munch.Proofs.Render.Json

/-!
# Token lists read from lines

`Listing.lines` divides a text at its line feeds, and `Listing.readLine` reads a line as a category
and a quoted spelling.  The listing of tokens has one line for each of them, which is read as its
category and its spelling, provided that no category has a space or a line feed in it.

The reader of quoted texts has to know the escapes, but not which characters are escaped without
need: `Quoted.recovers_readChar` holds whatever characters stand for themselves.
-/

namespace Munch.Text.Quoted

open Munch.Render.Json (hexDigit hexValue? hexValue?_hexDigit)

/-! ## The reader of quoted texts -/

/-- Read a hexadecimal digit. -/
def readDigit : Reader Nat
  | [] => none
  | digit :: rest => (hexValue? digit).map (·, rest)

/-- The number with the given hexadecimal digits. -/
def ofHexDigits (digits : List Nat) : Nat :=
  digits.foldl (fun value digit => value * 16 + digit) 0

/-- Read a character that is given by its number between braces. -/
def readCodePoint : Reader Char := fun text => do
  let (digits, rest) ← (readDigit.upTo ['\x7d']).behind ['\x7b'] text
  if digits ≠ [] ∧ (ofHexDigits digits).isValidChar then
    pure (Char.ofNat (ofHexDigits digits), rest)
  else none

/-- The signs that may follow a backslash, and the characters they stand for. -/
def signs : List (Char × Char) :=
  [('0', '\x00'), ('t', '\t'), ('r', '\r'), ('n', '\n'), ('\\', '\\'), ('"', '"')]

/-- Read what follows a backslash. -/
def readEscape : Reader Char
  | [] => none
  | sign :: rest =>
      if sign = 'u' then readCodePoint rest else (signs.lookup sign).map (·, rest)

/-- Read a character of a text between double quotes. -/
def readChar : Reader Char
  | [] => none
  | char :: rest =>
      if char = '\\' then readEscape rest
      else if char = '"' then none
      else some (char, rest)

/-- Read a text between double quotes. -/
def read : Reader Text :=
  (readChar.upTo ['"']).behind ['"']

/-! ## Code points -/

theorem recovers_readDigit : readDigit.Recovers (fun value => [hexDigit value]) (· % 16) := by
  intro value rest
  change (hexValue? (hexDigit value)).map (·, rest) = _
  rw [hexValue?_hexDigit]
  rfl

/-- A number is the number with its hexadecimal digits. -/
theorem exists_hexDigits (number : Nat) :
    ∃ digits : List Nat, Nat.toDigits 16 number = digits.flatMap (fun value => [hexDigit value]) ∧
      digits ≠ [] ∧ ofHexDigits (digits.map (· % 16)) = number := by
  induction number using Nat.strongRecOn with
  | ind number ih =>
      by_cases small : number < 16
      · have value_eq : number % 16 = number := Nat.mod_eq_of_lt small
        refine ⟨[number], ?_, by simp, ?_⟩
        · rw [Nat.toDigits_of_lt_base small]
          simp [hexDigit, value_eq]
        · simp [ofHexDigits, value_eq]
      · -- the last digit is the remainder, and the others are those of the quotient
        obtain ⟨digits, digits_eq, _, value_eq⟩ := ih (number / 16) (by omega)
        refine ⟨digits ++ [number], ?_, by simp, ?_⟩
        · rw [Nat.toDigits_of_base_le (by decide) (by omega), digits_eq]
          simp [hexDigit]
        · unfold ofHexDigits at value_eq ⊢
          rw [List.map_append, List.foldl_append, value_eq]
          simp only [List.map_cons, List.map_nil, List.foldl_cons, List.foldl_nil]
          omega

theorem readCodePoint_codePoint (char : Char) (rest : Text) :
    readCodePoint ('\x7b' :: (Nat.toDigits 16 char.toNat ++ '\x7d' :: rest)) =
      some (char, rest) := by
  obtain ⟨digits, digits_eq, some_digit, value_eq⟩ := exists_hexDigits char.toNat
  have stops : ∀ rest, readDigit (['\x7d'] ++ rest) = none := fun _ => rfl
  have found := (recovers_readDigit.upTo (by simp) stops).behind ['\x7b'] digits rest
  have valid : digits.map (· % 16) ≠ [] ∧ (ofHexDigits (digits.map (· % 16))).isValidChar := by
    rw [value_eq]
    exact ⟨by simpa using some_digit, char.valid⟩
  have text_eq : '\x7b' :: (Nat.toDigits 16 char.toNat ++ '\x7d' :: rest) =
      ['\x7b'] ++ (digits.flatMap (fun value => [hexDigit value]) ++ ['\x7d']) ++ rest := by
    simp [digits_eq]
  rw [readCodePoint, text_eq, found]
  change (if _ then _ else _) = _
  rw [if_pos valid, value_eq, Char.ofNat_toNat]
  rfl

/-! ## Quoted texts -/

variable (plain : Char → Bool)

/-- A character is read from its written form, whether it was escaped without need or not. -/
theorem recovers_readChar : readChar.Recovers (escape plain '"') id := by
  intro char rest
  rw [escape]
  split_ifs with null tab carriage newline marked shown
  rotate_left 4
  · rcases marked with rfl | rfl <;> rfl
  · simp only [not_or] at marked
    simp [readChar, marked]
  · unfold codePoint
    simpa [readChar, readEscape] using readCodePoint_codePoint char rest
  -- the other cases are those with a sign for a fixed character
  all_goals
    subst char
    rfl

theorem escape_ne_nil (char : Char) : escape plain '"' char ≠ [] := by
  rw [escape]
  split_ifs
  all_goals simp [codePoint]

/-- A text is read from its quoted form. -/
theorem recovers_read : read.Recovers (encode plain '"') id := by
  intro text rest
  have stops : ∀ rest, readChar (['"'] ++ rest) = none := fun _ => rfl
  have found := ((recovers_readChar plain).upTo (escape_ne_nil plain) stops).behind ['"'] text rest
  rwa [List.map_id] at found

theorem newline_not_mem_codePoint (char : Char) : '\n' ∉ codePoint char := by
  have checked : ∀ value < 16, '\n' ≠ Nat.digitChar value := by decide
  obtain ⟨digits, digits_eq, _⟩ := exists_hexDigits char.toNat
  have absent : '\n' ∉ Nat.toDigits 16 char.toNat := by
    rw [digits_eq]
    simp only [List.mem_flatMap, List.mem_singleton, not_exists, not_and]
    intro value _
    exact checked (value % 16) (Nat.mod_lt value (by decide))
  simp [codePoint, absent]

/-- A quoted text has no line feed in it. -/
theorem newline_not_mem_encode (text : Text) : '\n' ∉ encode plain '"' text := by
  have absent : ∀ char, '\n' ∉ escape plain '"' char := by
    intro char
    rw [escape]
    split_ifs with null tab carriage newline marked shown
    rotate_left 4
    · rcases marked with rfl | rfl <;> decide
    · simpa using Ne.symm newline
    · exact newline_not_mem_codePoint char
    all_goals decide
  simp [encode, absent]

end Munch.Text.Quoted

namespace Munch.Render.Listing

open Munch.Text

/-! ## The reader of lines -/

/-- The lines of a text.  A line feed ends a line, and what follows the last one is a line too
unless it is empty. -/
def lines (text : Text) : List Text :=
  let pieces := text.splitOn '\n'
  if pieces.getLast? = some [] then pieces.dropLast else pieces

/-- Read a line as a category, up to the first space, and a quoted spelling. -/
def readLine (line : Text) : Option (Text × Text) := do
  let spelling ← (Quoted.read.behind [' ']).whole (line.dropWhile (· != ' '))
  pure (line.takeWhile (· != ' '), spelling)

/-! ## Lines -/

/-- The line of a token without the line feed at its end. -/
def content (plain : Char → Bool) (entry : Text × Text) : Text :=
  entry.1 ++ ' ' :: Text.Quoted.encode plain '"' entry.2

variable (plain : Char → Bool)

theorem line_eq_content (entry : Text × Text) :
    line plain entry = content plain entry ++ ['\n'] := by
  simp [line, content]

theorem newline_not_mem_content {entry : Text × Text} (absent : '\n' ∉ entry.1) :
    '\n' ∉ content plain entry := by
  simp [content, absent, Quoted.newline_not_mem_encode]

theorem readLine_content {entry : Text × Text} (absent : ' ' ∉ entry.1) :
    readLine (content plain entry) = some entry := by
  have category : ∀ char ∈ entry.1, (char != ' ') = true := by
    intro char member
    simp only [bne_iff_ne]
    rintro rfl
    exact absent member
  have whole : (Quoted.read.behind [' ']).whole (' ' :: Quoted.encode plain '"' entry.2) =
      some entry.2 := ((Quoted.recovers_read plain).behind [' ']).whole entry.2
  unfold readLine content
  rw [List.dropWhile_append_of_pos category, List.takeWhile_append_of_pos category]
  simp [whole]

/-! ## Token lists -/

/-- A category that can be told from the spelling behind it, and does not end the line. -/
def IsWord (category : Text) : Prop :=
  ' ' ∉ category ∧ '\n' ∉ category

instance (category : Text) : Decidable (IsWord category) :=
  inferInstanceAs (Decidable (_ ∧ _))

/-- The lines of a listing are those of its tokens. -/
theorem lines_flatMap_line {entries : List (Text × Text)}
    (words : ∀ entry ∈ entries, IsWord entry.1) :
    lines (entries.flatMap (line plain)) = entries.map (content plain) := by
  have pieces_eq : (entries.flatMap (line plain)).splitOn '\n' =
      entries.map (content plain) ++ [[]] := by
    induction entries with
    | nil => rfl
    | cons entry entries ih =>
        obtain ⟨⟨_, absent⟩, others⟩ := List.forall_mem_cons.mp words
        rw [List.flatMap_cons, line_eq_content, List.append_assoc, List.singleton_append,
          List.splitOn_append_cons_self_of_not_mem (newline_not_mem_content plain absent),
          ih others]
        rfl
  simp [lines, pieces_eq]

/-- There is a line feed for each token. -/
theorem count_newline_flatMap_line {entries : List (Text × Text)}
    (words : ∀ entry ∈ entries, IsWord entry.1) :
    (entries.flatMap (line plain)).count '\n' = entries.length := by
  induction entries with
  | nil => rfl
  | cons entry entries ih =>
      obtain ⟨⟨_, absent⟩, others⟩ := List.forall_mem_cons.mp words
      have once : (line plain entry).count '\n' = 1 := by
        rw [line_eq_content, List.count_append,
          List.count_eq_zero_of_not_mem (newline_not_mem_content plain absent)]
        rfl
      rw [List.flatMap_cons, List.count_append, once, ih others, List.length_cons, Nat.add_comm]

/-- Each line of a listing is read as its token. -/
theorem map_readLine_lines {entries : List (Text × Text)}
    (words : ∀ entry ∈ entries, IsWord entry.1) :
    (lines (entries.flatMap (line plain))).map readLine = entries.map some := by
  rw [lines_flatMap_line plain words, List.map_map]
  apply List.map_congr_left
  intro entry member
  exact readLine_content plain (words entry member).1

theorem isWord_category (category : NewtonScript.Category) : IsWord (toString category).toList := by
  cases category
  all_goals decide

/-- A listing has a line feed for each token, and its lines are read as the categories and spellings
of the tokens, in order.  For this no category may have a space or a line feed in it, and none of
NewtonScript has.  It does not matter which characters are escaped for being invisible. -/
theorem map_readLine_lines_tokens :
    (∀ (plain : Char → Bool) (entries : List (Text × Text)), (∀ entry ∈ entries, IsWord entry.1) →
      (entries.flatMap (line plain)).count '\n' = entries.length ∧
        (lines (entries.flatMap (line plain))).map readLine = entries.map some) ∧
    (∀ (κ : Type) [ToString κ] (tokens : List (Token κ)),
      (∀ token ∈ tokens, IsWord (toString token.kind).toList) →
      (Render.tokens .array tokens).count '\n' = tokens.length ∧
        (lines (Render.tokens .array tokens)).map readLine =
          tokens.map fun token => some ((toString token.kind).toList, token.text)) ∧
    ∀ category : NewtonScript.Category, IsWord (toString category).toList := by
  refine ⟨?_, ?_, isWord_category⟩
  · intro plain entries words
    exact ⟨count_newline_flatMap_line plain words, map_readLine_lines plain words⟩
  · intro κ _ tokens words
    have entryWords : ∀ entry ∈ tokens.map Render.entry, IsWord entry.1 := by
      simpa [Render.entry] using words
    have count_eq := count_newline_flatMap_line Unicode.isPrintable entryWords
    have read_eq := map_readLine_lines Unicode.isPrintable entryWords
    rw [List.length_map] at count_eq
    rw [List.map_map] at read_eq
    exact ⟨count_eq, read_eq⟩

/-- A character that is escaped for being invisible, behind a line feed and a quote, and a spelling
that looks like the escape of this character. -/
theorem map_readLine_lines_tokens_escapes :
    let entries := [("STRING".toList, "\"\né".toList), ("SYMBOL".toList, "|\\u\x7be9\x7d|".toList)]
    let text := entries.flatMap (line (· < '\x7f'))
    (∀ entry ∈ entries, IsWord entry.1) ∧
      text = "STRING \"\\\"\\n\\u\x7be9\x7d\"\nSYMBOL \"|\\\\u\x7be9\x7d|\"\n".toList ∧
      text.count '\n' = entries.length ∧ (lines text).map readLine = entries.map some := by
  intro entries text
  have words : ∀ entry ∈ entries, IsWord entry.1 := by decide
  exact ⟨words, by decide +kernel, map_readLine_lines_tokens.1 (· < '\x7f') entries words⟩

end Munch.Render.Listing
