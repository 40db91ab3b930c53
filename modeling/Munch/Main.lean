import Munch.Command.Response

/-!
# The command on a real machine

Reading, writing and the exit code.  What is read and written, and why, is decided by
`Munch.Command.Arguments` alone.
-/

namespace Munch.Command

/-- Why the machine could not read or create a file. -/
def fileError : IO.Error → FileError
  | .inappropriateType _ code _ => if code = 21 then .isADirectory else .notADirectory
  | .permissionDenied _ _ _ => .permissionDenied
  | _ => .notFound

/-- The bytes of a stream up to its end. -/
partial def readAll (stream : IO.FS.Stream) (bytes : ByteArray) : IO ByteArray := do
  let more ← stream.read 65536
  if more.isEmpty then return bytes else readAll stream (bytes ++ more)

/-- The source text that a command reads. -/
def readSource (arguments : Arguments) : IO (Except FileError Text) := do
  match Arguments.file? arguments.input with
  | none => return decode (← readAll (← IO.getStdin) .empty)
  | some path =>
      try
        return decode (← IO.FS.readBinFile path)
      catch error =>
        return .error (fileError error)

/-- Write the output of a command. -/
def writeOutput (arguments : Arguments) (text : String) : IO (Except FileError Unit) := do
  match Arguments.file? arguments.output with
  | none =>
      let stdout ← IO.getStdout
      stdout.putStr text
      stdout.flush
      return .ok ()
  | some path =>
      try
        IO.FS.writeFile path text
        return .ok ()
      catch error =>
        return .error (fileError error)

/-- Say why a command failed. -/
def complain (failure : Failure) : IO UInt32 := do
  (← IO.getStderr).putStr (String.ofList failure.report)
  return 1

end Munch.Command

open Munch.Command in
/-- Lex NewtonScript source and write out the tokens. -/
def main (line : List String) : IO UInt32 := do
  match Arguments.parse? line with
  | none =>
      (← IO.getStderr).putStr "error: the command line is not understood\n"
      return 2
  | some arguments =>
      match ← readSource arguments with
      | .error error => complain (.file error)
      | .ok source =>
          match arguments.respond source with
          | .error error => complain (.lex error)
          | .ok written =>
              match ← writeOutput arguments (String.ofList written) with
              | .error error => complain (.file error)
              | .ok () => return 0
