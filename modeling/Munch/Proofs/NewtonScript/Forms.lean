import Munch.Proofs.NewtonScript.Table
import Munch.Proofs.Regex.Completeness
import Munch.Proofs.Regex.Shapes

/-!
# The forms of lexemes

Each rule of NewtonScript stands for one form of lexemes.  Here the expressions of the forms are
written out; that they are what the patterns mean is found out by reading the patterns once.  The
table holds one rule for each form.
-/

namespace Munch.NewtonScript

open Regex

/-- The forms of lexemes, one for each rule.  Block comments have three of them. -/
inductive Form where
  | reservedWord
  | real
  | integer
  | character
  | string
  | symbol
  | operator
  | delimiter
  | whiteSpace
  | lineComment
  | commentOpen
  | commentBody
  | commentClose
  deriving DecidableEq

namespace Form

/-- Every form, in the order of the rules. -/
def all : List Form :=
  [reservedWord, real, integer, character, string, symbol, operator, delimiter, whiteSpace,
    lineComment, commentOpen, commentBody, commentClose]

theorem mem_all (form : Form) : form ∈ all := by
  cases form <;> decide

/-! ## Expressions -/

def digit : CharClass :=
  .unions [.range '0' '9']

def hexDigit : CharClass :=
  .unions [.range '0' '9', .range 'a' 'f', .range 'A' 'F']

/-- What an identifier starts with. -/
def letter : CharClass :=
  .unions [.range 'a' 'z', .range 'A' 'Z', .single '_']

/-- What an identifier goes on with. -/
def wordSign : CharClass :=
  .unions [.range 'a' 'z', .range 'A' 'Z', .range '0' '9', .single '_']

/-- Four hexadecimal digits. -/
def hexQuad : Regex :=
  cat (cat (cat (oneOf hexDigit) (oneOf hexDigit)) (oneOf hexDigit)) (oneOf hexDigit)

/-- The signs that are operators on their own. -/
def operatorSigns : List Char :=
  ['-', '+', '*', '/', '<', '>', '=', '&', ':', '.']

/-- The operators of two signs. -/
def operatorPairs : List Text :=
  [[':', '='], [':', '?'], ['<', '>'], ['<', '='], ['>', '='], ['<', '<'], ['>', '>'],
    ['&', '&']]

def delimiterSigns : List Char :=
  ['(', ')', '[', ']', '\x7b', '\x7d', ',', ';', '\'']

/-- A part of a string: a plain character, an escape, or characters by number. -/
def stringPart : Regex :=
  alt (oneOf (.outside ['"', '\\']))
    (alt (cat (sign '\\') (oneOf (.signs ['"', '\\', 'n', 't'])))
      (cat (cat (cat (word ['\\', 'u']) (many hexQuad)) (sign '\\')) (sign 'u')))

/-- Characters by number at the end of a string. -/
def stringTail : Regex :=
  cat (word ['\\', 'u']) (many hexQuad)

def identifier : Regex :=
  cat (oneOf letter) (optional (run wordSign))

/-- A part of a symbol between bars. -/
def symbolPart : Regex :=
  alt (oneOf (.outside ['|', '\\'])) (cat (sign '\\') (oneOf (.signs ['|', '\\'])))

/-- A symbol between bars. -/
def barred : Regex :=
  cat (cat (sign '|') (many symbolPart)) (sign '|')

/-- The expression of each form. -/
def regex : Form → Regex
  | reservedWord =>
      cat (choice (reservedWords.map fun spelling => word spelling.toList))
        (look (.word .boundary .word))
  | real =>
      cat (cat (cat (run digit) (sign '.')) (optional (run digit)))
        (optional (cat (cat (oneOf (.signs ['e', 'E'])) (optional (sign '-'))) (run digit)))
  | integer => alt (cat (word ['0', 'x']) (run hexDigit)) (run digit)
  | character =>
      cat (sign '$')
        (alt
          (cat (sign '\\')
            (alt (oneOf (.signs ['n', 't', '\\']))
              (alt (cat (sign 'u') hexQuad) (cat (oneOf hexDigit) (oneOf hexDigit)))))
          (oneOf (.compl (.unions [.single '\\', .property .blank]))))
  | string => cat (cat (cat (sign '"') (many stringPart)) (optional stringTail)) (sign '"')
  | symbol => alt identifier barred
  | operator =>
      choice (operatorPairs.map word ++ [oneOf (.signs operatorSigns)])
  | delimiter => oneOf (.signs delimiterSigns)
  | whiteSpace => run (.property .blank)
  | lineComment => cat (word ['/', '/']) (optional (run (.outside ['\n'])))
  | commentOpen => word ['/', '*']
  | commentBody =>
      alt (plus true (alt (oneOf (.outside ['*']))
        (cat (run (.single '*')) (oneOf (.outside ['*', '/']))))) (run (.single '*'))
  | commentClose => cat (run (.single '*')) (sign '/')

/-- No expression has a guard. -/
theorem unguarded_regex (form : Form) : form.regex.unguarded = true := by
  cases form <;> decide +kernel

/-! ## Rules -/

/-- The pattern of each form. -/
def pattern : Form → Pattern
  | reservedWord => Patterns.reservedWord
  | real => Patterns.real
  | integer => Patterns.integer
  | character => Patterns.character
  | string => Patterns.string
  | symbol => Patterns.symbol
  | operator => Patterns.operator
  | delimiter => Patterns.delimiter
  | whiteSpace => Patterns.whiteSpace
  | lineComment => Patterns.lineComment
  | commentOpen => Patterns.commentOpen
  | commentBody => Patterns.commentBody
  | commentClose => Patterns.commentClose

/-- The patterns mean the expressions. -/
theorem compile?_pattern (form : Form) : form.pattern.compile? = some ⟨form.regex, 1, []⟩ := by
  cases form <;> decide +kernel

/-- Whether lexemes of the form are parts of block comments behind the opening sign. -/
def isComment : Form → Bool
  | commentBody => true
  | commentClose => true
  | _ => false

/-- The state in which lexemes of the form are read. -/
def state (form : Form) : StateId :=
  if form.isComment then commentState else initialState

/-- What becomes of the lexemes of each form. -/
def action (options : Options) : Form → Action (Token Category)
  | reservedWord => Action.token .reservedWord
  | real => Action.token .real
  | integer => integerAction
  | character => Action.token .character
  | string => Action.token .string
  | symbol => Action.token .symbol
  | operator => Action.token .operator
  | delimiter => Action.token .delimiter
  | whiteSpace => triviaAction .whiteSpace options.keepWhiteSpace
  | lineComment => triviaAction .comment options.keepComments
  | commentOpen => commentAction options.keepComments commentState
  | commentBody => triviaAction .comment options.keepComments
  | commentClose => commentAction options.keepComments initialState

/-- What is said of the rule of a form. -/
def entry (options : Options) (form : Form) : Entry (Token Category) :=
  ⟨.ofList [form.state], form.pattern, form.action options⟩

/-- The rule of a form. -/
def rule (options : Options) (form : Form) : Rule (Token Category) :=
  ⟨form.pattern, ⟨form.regex, 1, []⟩, .ofList [form.state], form.action options⟩

theorem rule?_entry (options : Options) (form : Form) :
    (form.entry options).rule? = some (form.rule options) := by
  simp [Entry.rule?, entry, rule, compile?_pattern]

/-- The rule of a form matches wherever its expression accepts something. -/
theorem exists_match?_of_accepts {options : Options} {form : Form} {cursor : Cursor}
    {text rest : Text} (rest_eq : cursor.rest = text ++ rest)
    (accepted : form.regex.Accepts cursor.passed.head? text rest) :
    ∃ matched, (form.rule options).match? cursor = some matched :=
  Rule.exists_match?_of_accepts form.unguarded_regex rest_eq accepted

theorem accepts_of_match? {options : Options} {form : Form} {cursor : Cursor} {matched : Match}
    (found : (form.rule options).match? cursor = some matched) :
    form.regex.Accepts cursor.passed.head? matched.text matched.following :=
  Rule.accepts_of_match? found

theorem map_rule?_entry (options : Options) (forms : List Form) :
    (forms.map (entry options)).map Entry.rule? = (forms.map (rule options)).map some := by
  simp [rule?_entry]

end Form

theorem entries_eq_map (options : Options) : entries options = Form.all.map (Form.entry options) :=
  rfl

/-- The table holds the rules of the forms, in order. -/
theorem rules_eq_map (options : Options) :
    rules options = .ok { rules := Form.all.map (Form.rule options) } := by
  rw [rules_eq_build_addAll, entries_eq_map]
  exact Builder.build_addAll_of_rule? (Form.map_rule?_entry options Form.all)

end Munch.NewtonScript
