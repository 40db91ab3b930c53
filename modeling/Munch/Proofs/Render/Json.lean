import Munch.Proofs.Render.Readers
import Munch.Render

/-!
# Token lists read from JSON

`Json.readObjects` reads a text as JSON objects that follow each other.  It is not made for token
lists: blanks may stand between the signs, a character may be given by its number or by a surrogate
pair, and an object has any number of members.  Only the values are restricted to strings.

The JSON form of a token list is read as one object for each token (`Json.readObjects_render`).  The
proof goes from the characters to strings, members, objects and the whole list, and says of each of
them that it is read whatever follows.
-/

namespace Munch.Render.Json

open Munch.Text

/-! ## The reader -/

/-- Whether a character may stand between the signs of a JSON text. -/
def isBlank (char : Char) : Bool :=
  char ∈ [' ', '\t', '\n', '\r']

/-- Read behind blanks. -/
def spaced {α : Type} (read : Reader α) : Reader α := fun text =>
  read (text.dropWhile isBlank)

/-- The value of a hexadecimal digit, whose letter may be of either case. -/
def hexValue? (digit : Char) : Option Nat :=
  if '0' ≤ digit ∧ digit ≤ '9' then some (digit.toNat - '0'.toNat)
  else if 'a' ≤ digit ∧ digit ≤ 'f' then some (digit.toNat - 'a'.toNat + 10)
  else if 'A' ≤ digit ∧ digit ≤ 'F' then some (digit.toNat - 'A'.toNat + 10)
  else none

/-- Read four hexadecimal digits. -/
def readUnit : Reader Nat
  | first :: second :: third :: fourth :: rest => do
      let first ← hexValue? first
      let second ← hexValue? second
      let third ← hexValue? third
      let fourth ← hexValue? fourth
      pure (((first * 16 + second) * 16 + third) * 16 + fourth, rest)
  | _ => none

/-- Read a character that is given by its number, or by the two halves of a surrogate pair. -/
def readNumbered : Reader Char := fun text => do
  let (unit, rest) ← readUnit text
  if unit < 0xd800 ∨ 0xdfff < unit then pure (Char.ofNat unit, rest)
  else do
    let (low, rest) ← readUnit.behind ['\\', 'u'] rest
    if unit < 0xdc00 ∧ 0xdc00 ≤ low ∧ low ≤ 0xdfff then
      pure (Char.ofNat (0x10000 + (unit - 0xd800) * 0x400 + (low - 0xdc00)), rest)
    else none

/-- The signs that may follow a backslash, and the characters they stand for. -/
def signs : List (Char × Char) :=
  [('"', '"'), ('\\', '\\'), ('/', '/'), ('b', '\x08'), ('f', '\x0c'), ('n', '\n'), ('r', '\r'),
    ('t', '\t')]

/-- Read what follows a backslash. -/
def readEscape : Reader Char
  | [] => none
  | sign :: rest =>
      if sign = 'u' then readNumbered rest else (signs.lookup sign).map (·, rest)

/-- Read a character of a string. -/
def readChar : Reader Char
  | [] => none
  | char :: rest =>
      if char = '\\' then readEscape rest
      else if char = '"' ∨ char < ' ' then none
      else some (char, rest)

/-- Read a string. -/
def readString : Reader Text :=
  (readChar.upTo ['"']).behind ['"']

/-- Read a name and its value. -/
def readMember : Reader (Text × Text) :=
  (spaced readString).pair (spaced ((spaced readString).behind [':']))

/-- Read one or more members, with commas between them. -/
def readMembers : Reader (List (Text × Text)) := fun text => do
  let (first, text) ← readMember text
  let (more, text) := (spaced (readMember.behind [','])).many text
  pure (first :: more, text)

/-- Read the members of an object, if there are any, and its closing brace. -/
def readBody : Reader (List (Text × Text)) := fun text =>
  let (members, text) := (readMembers text).getD ([], text)
  (['\x7d'].isPrefixOf? (text.dropWhile isBlank)).map (members, ·)

/-- Read an object. -/
def readObject : Reader (List (Text × Text)) :=
  spaced (readBody.behind ['\x7b'])

/-- Read objects that follow each other. -/
def readObjects (text : Text) : Option (List (List (Text × Text))) :=
  let (objects, text) := readObject.many text
  if text.all isBlank then some objects else none

example : readObjects "\x7b \"\\u0061\" : \"\\ud83d\\ude00\", \"b\":\"\\/\" \x7d\x7b\x7d\n".toList =
    some [[("a".toList, "😀".toList), ("b".toList, "/".toList)], []] := by
  cbv

/-! ## Strings -/

theorem hexValue?_hexDigit (value : Nat) : hexValue? (hexDigit value) = some (value % 16) := by
  have checked : ∀ value < 16, hexValue? (Nat.digitChar value) = some value := by decide
  exact checked (value % 16) (Nat.mod_lt value (by decide))

/-- A number of two digits is the number of its character. -/
theorem readNumbered_hexDigit {char : Char} (small : char < ' ') (rest : Text) :
    readNumbered ('0' :: '0' :: hexDigit (char.toNat / 16) :: hexDigit char.toNat :: rest) =
      some (char, rest) := by
  have bound : char.toNat < 32 := small
  have unit_eq : char.toNat / 16 % 16 * 16 + char.toNat % 16 = char.toNat := by omega
  have zero : hexValue? '0' = some 0 := by decide
  have found : readUnit ('0' :: '0' :: hexDigit (char.toNat / 16) :: hexDigit char.toNat :: rest) =
      some (char.toNat, rest) := by
    simp [readUnit, hexValue?_hexDigit, zero, unit_eq]
  have ordinary : char.toNat < 0xd800 ∨ 0xdfff < char.toNat := by omega
  simp [readNumbered, found, ordinary, Char.ofNat_toNat]

/-- A character is read from its written form. -/
theorem recovers_readChar : readChar.Recovers escape id := by
  intro char rest
  rw [escape]
  split_ifs with quote backslash backspace feed newline carriage tab small
  rotate_left 7
  · exact readNumbered_hexDigit small rest
  · simp [readChar, quote, backslash, small]
  -- the other cases are those with a sign for a fixed character
  all_goals
    subst char
    rfl

theorem escape_ne_nil (char : Char) : escape char ≠ [] := by
  rw [escape]
  split_ifs
  all_goals simp

theorem readString_encode (text rest : Text) :
    readString (encode text ++ rest) = some (text, rest) := by
  have stops : ∀ rest, readChar (['"'] ++ rest) = none := fun _ => rfl
  have found := (recovers_readChar.upTo escape_ne_nil stops).behind ['"'] text rest
  rwa [List.map_id] at found

/-! ## Objects -/

section

variable {α : Type} {read : Reader α} {char : Char} {text : Text}

theorem spaced_cons (sign : isBlank char = false) :
    spaced read (char :: text) = read (char :: text) := by
  rw [spaced, List.dropWhile_cons_of_neg (by simp [sign])]

end

theorem spaced_readString_encode (text rest : Text) :
    spaced readString (encode text ++ rest) = some (text, rest) := by
  rw [← readString_encode text rest]
  exact spaced_cons rfl

/-- The written form of a member. -/
def member (fields : Text × Text) : Text :=
  encode fields.1 ++ ':' :: encode fields.2

/-- The written form of the members of an object, with the closing brace. -/
def body : List (Text × Text) → Text
  | [] => ['\x7d']
  | first :: more => member first ++ more.flatMap (',' :: member ·) ++ ['\x7d']

/-- The written form of an object. -/
def object (members : List (Text × Text)) : Text :=
  '\x7b' :: body members

theorem recovers_readMember : readMember.Recovers member id := by
  rintro ⟨name, value⟩ rest
  have colon : spaced ((spaced readString).behind [':']) (':' :: (encode value ++ rest)) =
      some (value, rest) := by
    rw [spaced_cons rfl]
    exact spaced_readString_encode value rest
  rw [member, List.append_assoc, List.cons_append]
  simp [readMember, Reader.pair, spaced_readString_encode, colon]

theorem readMembers_member (first : Text × Text) (more : List (Text × Text)) (rest : Text) :
    readMembers (member first ++ (more.flatMap (',' :: member ·) ++ '\x7d' :: rest)) =
      some (first :: more, '\x7d' :: rest) := by
  have recovers : (spaced (readMember.behind [','])).Recovers (',' :: member ·) id := by
    intro fields rest
    rw [List.cons_append, spaced_cons rfl]
    exact recovers_readMember.behind [','] fields rest
  have stops : spaced (readMember.behind [',']) ('\x7d' :: rest) = none := rfl
  have many_eq := recovers.many_flatMap (fun _ => List.cons_ne_nil _ _) stops more
  rw [readMembers, recovers_readMember]
  simp [many_eq]

theorem recovers_readBody : readBody.Recovers body id := by
  intro members rest
  cases members with
  | nil => rfl
  | cons first more =>
      have closing : ['\x7d'].isPrefixOf? (('\x7d' :: rest).dropWhile isBlank) = some rest := rfl
      have body_eq : body (first :: more) ++ rest =
          member first ++ (more.flatMap (',' :: member ·) ++ '\x7d' :: rest) := by
        simp [body]
      rw [readBody, body_eq, readMembers_member]
      simp [closing]

/-- An object is read from its written form. -/
theorem recovers_readObject : readObject.Recovers object id := by
  intro members rest
  rw [readObject, object, List.cons_append, spaced_cons rfl]
  exact recovers_readBody.behind ['\x7b'] members rest

/-! ## Token lists -/

/-- The object of a token. -/
def members (entry : Text × Text) : List (Text × Text) :=
  [("type".toList, entry.1), ("lexeme".toList, entry.2)]

theorem token_eq_object (entry : Text × Text) : token entry = object (members entry) := by
  unfold token
  simp [members, object, body, member, encode, escape]

theorem recovers_token : readObject.Recovers token members := by
  intro entry rest
  rw [token_eq_object]
  exact recovers_readObject (members entry) rest

/-- The objects of a token list are read one for each token. -/
theorem readObjects_render (entries : List (Text × Text)) :
    readObjects (render entries) = some (entries.map members) := by
  have something : ∀ entry, token entry ≠ [] := by
    intro entry
    rw [token_eq_object]
    exact List.cons_ne_nil _ _
  have stops : readObject [] = none := rfl
  have many_eq := recovers_token.many_flatMap something stops entries
  rw [List.append_nil] at many_eq
  rw [readObjects, render, many_eq]
  rfl

/-- The JSON form of a token list is read as one object for each token, in order, whose members are
the category and the spelling of the token. -/
theorem readObjects_tokens :
    (∀ (κ : Type) [ToString κ] (tokens : List (Token κ)),
      readObjects (Render.tokens .json tokens) = some (tokens.map fun token =>
        [("type".toList, (toString token.kind).toList), ("lexeme".toList, token.text)])) ∧
    ∀ entries : List (Text × Text),
      readObjects (Render.render .json entries) = some (entries.map fun (category, spelling) =>
        [("type".toList, category), ("lexeme".toList, spelling)]) := by
  refine ⟨?_, readObjects_render⟩
  intro κ _ tokens
  have read_eq := readObjects_render (tokens.map entry)
  rwa [List.map_map] at read_eq

end Munch.Render.Json
