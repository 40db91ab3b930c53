import Munch.Command.Arguments
import Munch.Command.Files

/-!
# Running a command

A command reads its whole input, lexes it, and only then opens and writes its output.  Opening a
file for output empties it, and this is not taken back if something fails afterwards, so the order
matters: the output may go to the file that the input came from.
-/

namespace Munch.Command

/-- Why a command failed. -/
inductive Failure where
  | file (error : FileError)
  | lex (error : LexError)
  deriving DecidableEq

/-- The cause and its details by name. -/
def Failure.describe : Failure → String
  | file error => error.describe
  | lex error => error.describe

/-- What a command leaves behind. -/
structure Response where
  /-- 0 after success, 1 after a failure, 2 for a command line that is not understood. -/
  exitCode : Nat
  stdout : Text
  stderr : Text
  files : Files

/-- The text of a sequence of bytes. -/
def decode (bytes : ByteArray) : Except FileError Text :=
  match String.fromUTF8? bytes with
  | some text => .ok text.toList
  | none => .error .invalidText

/-- What a command finds and changes: the files, and what is on its standard output. -/
structure Machine where
  disk : Disk
  stdout : Text

/-- A part of a run.  What it has changed before it fails stays changed. -/
abbrev Process := EStateM Failure Machine

/-- Go on with a result, or fail. -/
def attempt {ε α : Type} (wrap : ε → Failure) (result : Except ε α) : Process α :=
  match result with
  | .ok value => pure value
  | .error error => throw (wrap error)

/-- The source text that a command reads. -/
def source (arguments : Arguments) (stdin : ByteArray) : Process Text := do
  match Arguments.file? arguments.input with
  | some path => attempt .file ((← get).disk.read path)
  | none => attempt .file (decode stdin)

/-- Create the file that a path leads to, or empty it if it is there. -/
def create (path : String) : Process String := fun machine =>
  match machine.disk.created path with
  | .ok name => .ok name { machine with disk := machine.disk.put name [] }
  | .error error => .error (.file error) machine

/-- Add a text at the end of a file. -/
def append (name : String) (text : Text) : Process Unit :=
  modify fun machine =>
    let held := (machine.disk.files.lookup name).getD []
    { machine with disk := machine.disk.put name (held ++ text) }

/-- Add a text to standard output. -/
def print (text : Text) : Process Unit :=
  modify fun machine => { machine with stdout := machine.stdout ++ text }

/-- Open the output of a command and write a text to it. -/
def deliver (arguments : Arguments) (text : Text) : Process Unit := do
  match Arguments.file? arguments.output with
  | some path => append (← create path) text
  | none => print text

/-- Read the source, lex it, and write out the tokens. -/
def perform (arguments : Arguments) (stdin : ByteArray) : Process Unit := do
  let text ← source arguments stdin
  let written ← attempt .lex (arguments.respond text)
  deliver arguments written

/-- What a failed command says. -/
def Failure.report (failure : Failure) : Text :=
  ("Error: " ++ failure.describe ++ "\n").toList

/-- Run a command line on a disk, with the given bytes on standard input. -/
def run (line : List String) (disk : Disk) (stdin : ByteArray) : Response :=
  match Arguments.parse? line with
  | none => ⟨2, [], [], disk.files⟩
  | some arguments =>
      match perform arguments stdin { disk, stdout := [] } with
      | .ok _ machine => ⟨0, machine.stdout, [], machine.disk.files⟩
      | .error failure machine => ⟨1, machine.stdout, failure.report, machine.disk.files⟩

end Munch.Command
