import Munch.Render

/-!
# Command lines

A command line names a format, an input and an output, and turns on two modes.  Every option is
given at most once.  The value of an option is the next argument, or stands behind an equals sign; in
the first case it may not start with a hyphen, unless it is the hyphen alone.  Nothing else is
accepted, but for a final `--`.
-/

namespace Munch.Command

/-- What a command line asks for. -/
structure Arguments where
  format : Option Format := none
  input : Option String := none
  output : Option String := none
  /-- Hand out white space and comments. -/
  keepTrivia : Bool := false
  /-- Pass over the characters that no rule accepts. -/
  recover : Bool := false
  deriving DecidableEq

namespace Arguments

/-- Set the format, unless it is set. -/
def setFormat? (arguments : Arguments) (value : String) : Option Arguments := do
  let format ← Format.ofName? value
  if arguments.format.isSome then none else some { arguments with format := some format }

/-- Set the input, unless it is set. -/
def setInput? (arguments : Arguments) (value : String) : Option Arguments :=
  if arguments.input.isSome then none else some { arguments with input := some value }

/-- Set the output, unless it is set. -/
def setOutput? (arguments : Arguments) (value : String) : Option Arguments :=
  if arguments.output.isSome then none else some { arguments with output := some value }

/-- The options with a value: their names, and what they set. -/
def valued : List (String × (Arguments → String → Option Arguments)) :=
  [("--format", setFormat?), ("--input", setInput?), ("--output", setOutput?)]

/-- Set a mode, unless it is set. -/
def setMode? (arguments : Arguments) (name : String) : Option Arguments :=
  if name = "--keep-trivia" ∧ !arguments.keepTrivia then some { arguments with keepTrivia := true }
  else if name = "--recover" ∧ !arguments.recover then some { arguments with recover := true }
  else none

/-- The name and the value of an option written with an equals sign. -/
def split? (argument : String) : Option (String × String) :=
  let chars := argument.toList
  let name := chars.takeWhile (· != '=')
  if name.length < chars.length then
    some (String.ofList name, String.ofList (chars.drop (name.length + 1)))
  else
    none

/-- Whether an argument can be the value of the option before it. -/
def isValue (argument : String) : Bool :=
  argument == "-" || argument.toList.head? != some '-'

/-- The argument by argument reading of a command line. -/
def parseFrom? (arguments : Arguments) : List String → Option Arguments
  | [] => some arguments
  | first :: rest =>
      if first = "--" then
        if rest.isEmpty then some arguments else none
      else
        match valued.lookup first, split? first, rest with
        | some set, _, value :: rest =>
            if isValue value then do (← set arguments value).parseFrom? rest else none
        | some _, _, [] => none
        | none, some (name, value), rest => do
            let set ← valued.lookup name
            (← set arguments value).parseFrom? rest
        | none, none, rest => do (← arguments.setMode? first).parseFrom? rest

/-- What a command line asks for, if it is well formed. -/
def parse? (line : List String) : Option Arguments :=
  parseFrom? {} line

/-- The file that a name stands for.  A missing name or a hyphen stands for a standard stream. -/
def file? (name : Option String) : Option String :=
  name.filter (· != "-")

/-- The rules to be used. -/
def options (arguments : Arguments) : NewtonScript.Options :=
  if arguments.keepTrivia then .keepTrivia else {}

/-- What becomes of the characters that no rule accepts. -/
def fallback (arguments : Arguments) : Fallback Unit (Token NewtonScript.Category) :=
  if arguments.recover then Fallback.skip else Fallback.fail

/-- What is to be written out for a source text. -/
def respond (arguments : Arguments) (source : Text) : Except LexError Text :=
  (NewtonScript.tokenizeWith arguments.fallback arguments.options source).map
    (Render.tokens (arguments.format.getD .xml))

end Arguments

end Munch.Command
