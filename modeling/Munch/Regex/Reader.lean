import Munch.Regex.Expr
import Munch.Regex.Flags

/-!
# Reading patterns

`Reader.read?` turns the text of a pattern into an expression.  A malformed text has no reading.

A reading step takes characters from the front of the remaining text.  It may depend on the modes in
force and on the groups that have been opened.  Steps that repeat or nest take a bound on their
number; as each reads a character, the length of the text is such a bound.
-/

namespace Munch.Regex

/-- What is left of a pattern, and what is known of the part before. -/
structure Reader where
  /-- The text still to be read. -/
  rest : Text
  /-- The modes in force. -/
  flags : Flags
  /-- The number of groups opened. -/
  opened : Nat
  /-- The names of groups in use. -/
  names : List String

namespace Reader

/-- A step of reading, which fails on a malformed pattern. -/
abbrev Step := StateT Reader Option

/-! ## Single characters -/

/-- The next character, without reading it. -/
def peek : Step (Option Char) := do
  return (← get).rest.head?

/-- Read one character. -/
def skip : Step Unit :=
  modify fun reader => { reader with rest := reader.rest.tail }

/-- A text without the blank space and the comments at its front.  A comment runs from `#` to the end
of the line. -/
def dropBlanks : (comment : Bool) → Text → Text
  | _, [] => []
  | true, char :: rest => dropBlanks (char != '\n') rest
  | false, char :: rest =>
      if Unicode.isBlank char then dropBlanks false rest
      else if char = '#' then dropBlanks true rest
      else char :: rest

/-- Pass over what means nothing under the modes in force. -/
def blanks : Step Unit :=
  modify fun reader =>
    if reader.flags.verbose then { reader with rest := dropBlanks false reader.rest } else reader

/-- Read one character and what means nothing behind it. -/
def step : Step Unit := do
  skip
  blanks

/-- The next character but one, not counting what means nothing. -/
def peekBehind : Step (Option Char) := do
  let reader ← get
  let behind := reader.rest.tail
  return (if reader.flags.verbose then dropBlanks false behind else behind).head?

/-- The next character, which must be there, without reading it. -/
def current : Step Char := do
  match ← peek with
  | some char => return char
  | none => failure

/-- Check that a condition holds. -/
def require (condition : Bool) : Step Unit :=
  if condition then pure () else failure

/-! ## Sets under the modes in force -/

/-- A set, closed under change of case if letters match in either case. -/
def foldSet (set : CharClass) : Step CharClass := do
  let flags := (← get).flags
  if flags.insensitive then
    return if flags.ascii then .foldedAscii set else .folded set
  else
    return set

/-- A set, or what is outside it.  In ASCII mode nothing may be negated, since the rest would not
consist of whole characters. -/
def negate (negated : Bool) (set : CharClass) : Step CharClass := do
  require (!(negated && (← get).flags.ascii))
  return if negated then .compl set else set

/-- The class of a letter `d`, `s` or `w`, or its negation for the upper-case letter. -/
def letterClass (letter : Char) : Step CharClass := do
  let ascii := (← get).flags.ascii
  let lower := letter.toLower
  let named : Property :=
    if lower = 'd' then (if ascii then .asciiDecimal else .decimal)
    else if lower = 's' then (if ascii then .asciiBlank else .blank)
    else (if ascii then .asciiWord else .word)
  negate (letter != lower) (.property named)

/-- The set behind the name of a property.  Case, blanks, hyphens and underscores in a name do not
matter, nor does the word `is` in front of it. -/
def namedClass? (name : Text) : Option CharClass :=
  let plain := (name.filter fun char => char != ' ' && char != '_' && char != '-').map Char.toLower
  let known : List (String × CharClass) :=
    [("alphabetic", .property .alphabetic), ("alpha", .property .alphabetic),
      ("whitespace", .property .blank), ("wspace", .property .blank), ("space", .property .blank),
      ("nd", .property .decimal), ("decimalnumber", .property .decimal),
      ("digit", .property .decimal), ("m", .property .mark), ("mark", .property .mark),
      ("any", .any), ("ascii", .range '\x00' '\x7f')]
  (known.find? fun entry =>
    entry.1.toList == plain || 'i' :: 's' :: entry.1.toList == plain).map Prod.snd

/-- The ranges of the ASCII class with the given name. -/
def asciiClass? (name : Text) : Option CharClass :=
  let known : List (String × List (Char × Char)) :=
    [("alnum", [('0', '9'), ('A', 'Z'), ('a', 'z')]),
      ("alpha", [('A', 'Z'), ('a', 'z')]),
      ("ascii", [('\x00', '\x7f')]),
      ("blank", [('\t', '\t'), (' ', ' ')]),
      ("cntrl", [('\x00', '\x1f'), ('\x7f', '\x7f')]),
      ("digit", [('0', '9')]),
      ("graph", [('!', '~')]),
      ("lower", [('a', 'z')]),
      ("print", [(' ', '~')]),
      ("punct", [('!', '/'), (':', '@'), ('[', '\x60'), ('\x7b', '~')]),
      ("space", [('\t', '\r'), (' ', ' ')]),
      ("upper", [('A', 'Z')]),
      ("word", [('0', '9'), ('A', 'Z'), ('_', '_'), ('a', 'z')]),
      ("xdigit", [('0', '9'), ('A', 'F'), ('a', 'f')])]
  (known.find? fun entry => entry.1.toList == name).map fun entry => .ofRanges entry.2

/-! ## Numbers -/

/-- The value of a hexadecimal digit. -/
def hexValue? (char : Char) : Option Nat :=
  if '0' ≤ char ∧ char ≤ '9' then some (char.toNat - '0'.toNat)
  else if 'a' ≤ char ∧ char ≤ 'f' then some (char.toNat - 'a'.toNat + 10)
  else if 'A' ≤ char ∧ char ≤ 'F' then some (char.toNat - 'A'.toNat + 10)
  else none

/-- The character with a given code point. -/
def charOf (code : Nat) : Step Char :=
  if code.isValidChar then pure (Char.ofNat code) else failure

/-- Read a given number of hexadecimal digits behind a number. -/
def hexDigits : (count : Nat) → (value : Nat) → Step Nat
  | 0, value => pure value
  | count + 1, value => do
      match hexValue? (← current) with
      | some digit =>
          step
          hexDigits count (16 * value + digit)
      | none => failure

/-- Read hexadecimal digits up to the closing brace, of which there must be one at least. -/
def hexBraced : (bound : Nat) → (value : Option Nat) → Step Nat
  | 0, _ => failure
  | bound + 1, value => do
      let char ← current
      step
      if char = '\x7d' then
        match value with
        | some value => return value
        | none => failure
      else
        match hexValue? char with
        | some digit => hexBraced bound (some (16 * value.getD 0 + digit))
        | none => failure

/-- Read a character written as its code point, behind the letter `x`, `u` or `U`. -/
def hexChar (letter : Char) : Step Char := do
  if (← current) = '\x7b' then
    step
    charOf (← hexBraced ((← get).rest.length + 1) none)
  else
    let code ← hexDigits (if letter = 'x' then 2 else if letter = 'u' then 4 else 8) 0
    require (!((← get).flags.ascii && letter == 'x' && 127 < code))
    charOf code

/-- Read decimal digits behind a number. -/
def decimalDigits : (bound : Nat) → (value : Option Nat) → Step (Option Nat)
  | 0, value => pure value
  | bound + 1, value => do
      match ← peek with
      | some char =>
          if Unicode.isAsciiDigit char then
            step
            decimalDigits bound (some (10 * value.getD 0 + (char.toNat - '0'.toNat)))
          else
            return value
      | none => return value

/-- Read a decimal number of at most 32 bits with blanks around it, if there is one. -/
def decimal : Step (Option Nat) := do
  let trim : Step Unit :=
    modify fun reader => { reader with rest := reader.rest.dropWhile Unicode.isBlank }
  trim
  let value ← decimalDigits (← get).rest.length none
  trim
  blanks
  require (value.all (· < 4294967296))
  return value

/-! ## Escapes -/

/-- What a backslash and the sign behind it can stand for. -/
inductive Atom where
  | char (literal : Char)
  | set (members : CharClass)
  | look (condition : Look)

/-- Whether a backslash in front of the character stands for the character itself: it does for all of
ASCII but letters, digits and the angle brackets. -/
def isEscapable (char : Char) : Bool :=
  Unicode.isAscii char && !Unicode.isAsciiLetter char && !Unicode.isAsciiDigit char &&
    char != '<' && char != '>'

/-- Read the name of a property behind `p` or `P`, a single letter or any text between braces. -/
def propertyName : Step Text := do
  let char ← current
  if char = '\x7b' then
    step
    let reader ← get
    let name := reader.rest.takeWhile (· != '\x7d')
    require (name.length < reader.rest.length)
    set { reader with rest := reader.rest.drop (name.length + 1) }
    return if reader.flags.verbose then name.filter (!Unicode.isBlank ·) else name
  else
    require (char != '\\')
    step
    return [char]

/-- Read the name between braces that refines a condition on words, if letters or hyphens follow the
brace. -/
def wordEdge : Step WordEdge := do
  let isNameChar := fun char => Unicode.isAsciiLetter char || char == '-'
  if (← peek) = some '\x7b' ∧ (← peekBehind).all isNameChar then
    step
    let rest := (← get).rest
    let name := rest.takeWhile isNameChar
    require ((rest.drop name.length).head? == some '\x7d')
    modify fun reader => { reader with rest := rest.drop (name.length + 1) }
    if name = "start".toList then return .start
    else if name = "end".toList then return .stop
    else if name = "start-half".toList then return .startHalf
    else if name = "end-half".toList then return .stopHalf
    else failure
  else
    return .boundary

/-- Read what follows a backslash. -/
def escape : Step Atom := do
  let letter ← current
  let alphabet : Property := if (← get).flags.ascii then .asciiWord else .word
  if letter = 'x' ∨ letter = 'u' ∨ letter = 'U' then
    step
    return .char (← hexChar letter)
  else if letter = 'p' ∨ letter = 'P' then
    step
    let name ← propertyName
    require (!(← get).flags.ascii)
    match namedClass? name with
    | some set => return .set (← negate (letter == 'P') (← foldSet set))
    | none => failure
  else if ['d', 's', 'w', 'D', 'S', 'W'].contains letter then
    skip
    return .set (← letterClass letter)
  else
    skip
    if isEscapable letter then return .char letter
    else if letter = 'a' then return .char '\x07'
    else if letter = 'f' then return .char '\x0c'
    else if letter = 't' then return .char '\t'
    else if letter = 'n' then return .char '\n'
    else if letter = 'r' then return .char '\r'
    else if letter = 'v' then return .char '\x0b'
    else if letter = 'A' then return .look .textStart
    else if letter = 'z' then return .look .textEnd
    else if letter = 'b' then return .look (.word (← wordEdge) alphabet)
    else if letter = 'B' then return .look (.word .inside alphabet)
    else if letter = '<' then return .look (.word .start alphabet)
    else if letter = '>' then return .look (.word .stop alphabet)
    else failure

/-! ## Bracketed sets -/

/-- Read one sign between brackets. -/
def member : Step Atom := do
  let char ← current
  skip
  if char = '\\' then escape else return .char char

/-- The set of a sign between brackets.  A condition is none. -/
def memberSet : Atom → Step CharClass
  | .char literal => do
      require (!((← get).flags.ascii && !Unicode.isAscii literal))
      return .single literal
  | .set members => pure members
  | .look _ => failure

/-- Read one sign between brackets, or a range of characters. -/
def memberRange : Step CharClass := do
  let first ← member
  blanks
  let char ← current
  let behind ← peekBehind
  if char ≠ '-' ∨ behind = some ']' ∨ behind = some '-' then
    memberSet first
  else
    step
    match first, ← member with
    | .char low, .char high =>
        require (low ≤ high && !((← get).flags.ascii && !Unicode.isAscii high))
        return .range low high
    | _, _ => failure

/-- Read an ASCII class such as `[:alpha:]`, if there is one. -/
def asciiClass : Step (Option CharClass) := do
  let reader ← get
  match reader.rest with
  | '[' :: ':' :: rest =>
      let negated := rest.head? == some '^'
      let rest := if negated then rest.tail else rest
      let name := rest.takeWhile (· != ':')
      match asciiClass? name, rest.drop name.length with
      | some set, ':' :: ']' :: rest =>
          modify fun reader => { reader with rest := rest }
          return some (← negate negated (← foldSet set))
      | _, _ => return none
  | _ => return none

/-- Read the hyphens at the front of a bracketed set. -/
def hyphens : (bound : Nat) → CharClass → Step CharClass
  | 0, set => pure set
  | bound + 1, set => do
      if (← peek) = some '-' then
        step
        hyphens bound (.union set (.single '-'))
      else
        return set

/-- Read an opening bracket, the sign that negates the set, and the hyphens or the bracket that stand
for themselves in front of the others. -/
def openBracket : Step (Bool × CharClass) := do
  step
  let negated := (← peek) == some '^'
  if negated then step
  let set ← hyphens (← get).rest.length .empty
  if set = .empty ∧ (← peek) = some ']' then
    step
    return (negated, .single ']')
  else
    return (negated, set)

/-- An operation between sets. -/
inductive SetOperator where
  | inter
  | diff
  | symmDiff

/-- The set to the right of an operator, combined with what is to the left. -/
def combine (left : Option (SetOperator × CharClass)) (right : CharClass) : Step CharClass := do
  match left with
  | none => return right
  | some (operator, left) =>
      let left ← foldSet left
      let right ← foldSet right
      match operator with
      | .inter => return .inter left right
      | .diff => return .diff left right
      | .symmDiff => return .symmDiff left right

/-- The operator that two equal signs in a row stand for. -/
def setOperator? (first : Char) (second : Option Char) : Option SetOperator :=
  if second ≠ some first then none
  else if first = '&' then some .inter
  else if first = '-' then some .diff
  else if first = '~' then some .symmDiff
  else none

/-- Read the signs of a bracketed set up to its closing bracket.  `left` is what stands to the left of
the last operator, and `union` holds the signs read since. -/
def bracketed : (bound : Nat) → (left : Option (SetOperator × CharClass)) → (union : CharClass) →
    Step CharClass
  | 0, _, _ => failure
  | bound + 1, left, union => do
      blanks
      let char ← current
      if char = '[' then
        match ← asciiClass with
        | some set => bracketed bound left (.union union set)
        | none =>
            let (negated, first) ← openBracket
            let inner ← bracketed bound none first
            let inner ← negate negated (← foldSet inner)
            bracketed bound left (.union union inner)
      else if char = ']' then
        skip
        combine left union
      else
        match setOperator? char (← get).rest.tail.head? with
        | some operator =>
            skip
            skip
            let left ← combine left union
            bracketed bound (some (operator, left)) .empty
        | none => bracketed bound left (.union union (← memberRange))

/-- Read a bracketed set. -/
def bracket : Step CharClass := do
  let (negated, first) ← openBracket
  let set ← bracketed ((← get).rest.length + 1) none first
  negate negated (← foldSet set)

/-! ## Expressions -/

/-- The expression for one sign outside brackets. -/
def atomExpr : Atom → Step Expr
  | .char literal => do return .oneOf (← foldSet (.single literal))
  | .set members => pure (.oneOf members)
  | .look condition => pure (.look condition)

/-- Read one sign outside brackets. -/
def sign : Step Expr := do
  let char ← current
  let flags := (← get).flags
  skip
  if char = '\\' then
    atomExpr (← escape)
  else if char = '.' then
    require (!flags.ascii)
    if flags.dotAll then return .oneOf .any
    else if flags.carriage then return .oneOf (.compl (.union (.single '\r') (.single '\n')))
    else return .oneOf (.compl (.single '\n'))
  else if char = '^' then
    return .look (if flags.multiLine then .lineStart flags.carriage else .textStart)
  else if char = '$' then
    return .look (if flags.multiLine then .lineEnd flags.carriage else .textEnd)
  else
    atomExpr (.char char)

/-- Read the question mark that makes a repetition lazy, and settle whether it is greedy. -/
def greediness : Step Bool := do
  let lazy := (← peek) == some '?'
  if lazy then skip
  return lazy == (← get).flags.swapGreed

/-- Read the bounds of a counted repetition, between braces. -/
def counts : Step (Nat × Option Nat) := do
  step
  let first ← decimal
  let bounds ←
    if (← current) = ',' then
      step
      if (← current) = '\x7d' then
        pure (first, none)
      else
        let second ← decimal
        require second.isSome
        pure (first, second)
    else
      pure (first, first)
  require ((← current) == '\x7d')
  step
  match bounds with
  | (some min, max) =>
      require (max.all (min ≤ ·))
      return (min, max)
  | (none, _) => failure

/-- Read a repetition sign and apply it to the part in front of it. -/
def repetition (char : Char) (body : Expr) : Step Expr := do
  if char = '\x7b' then
    let (min, max) ← counts
    return .times min max (← greediness) body
  else
    skip
    let greedy ← greediness
    if char = '?' then return .times 0 (some 1) greedy body
    else if char = '*' then return .times 0 none greedy body
    else return .times 1 none greedy body

/-- What an opening parenthesis can begin. -/
inductive Opening where
  /-- A group, with its number and name if it is recorded. -/
  | group (recorded : Option (Nat × Option String))
  /-- A change of modes, without a group. -/
  | modes

/-- Whether a character may stand in the name of a group. -/
def isNameChar (first : Bool) (char : Char) : Bool :=
  char == '_' ||
    if first then Unicode.isAlphabetic char
    else char == '.' || char == '[' || char == ']' || Unicode.isAlphanumeric char

/-- Read the name of a group up to the closing angle bracket. -/
def groupName : Step String := do
  let reader ← get
  let chars := reader.rest.takeWhile (· != '>')
  let name := String.ofList chars
  require (chars.length < reader.rest.length)
  require (chars.head?.any (isNameChar true) && chars.tail.all (isNameChar false))
  require (!reader.names.contains name)
  set { reader with
    rest := reader.rest.drop (chars.length + 1), names := name :: reader.names }
  return name

/-- Count a recorded group. -/
def countGroup : Step Nat := do
  modify fun reader => { reader with opened := reader.opened + 1 }
  return (← get).opened

/-- Read letters of modes up to the colon or parenthesis behind them, and put them in force. -/
def modeLetters : Step Opening := do
  let reader ← get
  let letters := reader.rest.takeWhile fun char => char != ':' && char != ')'
  match reader.rest.drop letters.length, reader.flags.switch? letters true with
  | char :: rest, some flags =>
      set { reader with rest := rest, flags := flags }
      if char = ':' then return .group none
      require (!letters.isEmpty)
      return .modes
  | _, _ => failure

/-- Read an opening parenthesis and the signs that tell what it begins. -/
def opening : Step Opening := do
  step
  match (← get).rest with
  | '?' :: 'P' :: '<' :: _ =>
      skip
      skip
      skip
      let index ← countGroup
      return .group (some (index, some (← groupName)))
  | '?' :: '<' :: _ =>
      skip
      skip
      let index ← countGroup
      return .group (some (index, some (← groupName)))
  | '?' :: _ =>
      skip
      modeLetters
  | _ => return .group (some (← countGroup, none))

/-- The expression for parts in a row, the last of them first.  A change of modes is no part. -/
def sequence (parts : List (Option Expr)) : Expr :=
  match (parts.filterMap id).reverse with
  | [] => .empty
  | part :: parts => parts.foldl .cat part

/-- The expression for alternatives, the last of them first. -/
def choices (last : Expr) (others : List Expr) : Expr :=
  others.foldl (fun right left => .alt left right) last

/-- Read alternatives up to the end of the text or a closing parenthesis.  `others` are the
alternatives before the one being read, and `parts` its parts so far, both with the last one first. -/
def alternatives : (bound : Nat) → (others : List Expr) → (parts : List (Option Expr)) → Step Expr
  | 0, _, _ => failure
  | bound + 1, others, parts => do
      blanks
      match ← peek with
      | none => return choices (sequence parts) others
      | some char =>
          if char = ')' then
            return choices (sequence parts) others
          else if char = '|' then
            skip
            alternatives bound (sequence parts :: others) []
          else if char = '(' then
            let outer := (← get).flags
            match ← opening with
            | .modes => alternatives bound others (none :: parts)
            | .group recorded =>
                let body ← alternatives bound [] []
                require ((← current) == ')')
                skip
                modify fun reader => { reader with flags := outer }
                let part :=
                  match recorded with
                  | some (index, name) => .group index name body
                  | none => body
                alternatives bound others (some part :: parts)
          else if char = '[' then
            alternatives bound others (some (.oneOf (← bracket)) :: parts)
          else if ['?', '*', '+', '\x7b'].contains char then
            match parts with
            | some part :: parts =>
                alternatives bound others (some (← repetition char part) :: parts)
            | _ => failure
          else
            alternatives bound others (some (← sign) :: parts)

/-- The expression that a pattern stands for under the given modes. -/
def read? (flags : Flags) (pattern : Text) : Option Expr := do
  let reader := ⟨pattern, flags, 0, []⟩
  let (expr, reader) ← (alternatives (pattern.length + 1) [] []).run reader
  if reader.rest.isEmpty then some expr else none

end Reader

end Munch.Regex
