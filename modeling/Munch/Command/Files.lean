import Munch.Text

/-!
# Files

The files that a command sees, by name, and the paths that lead to them.  Reading and creating a
file may fail for reasons that are not in the files, so which file a path leads to, or why it leads
to none, is a part of the `Disk`.  A directory of plain files is a disk.
-/

namespace Munch.Command

/-- Why a file could not be read or created. -/
inductive FileError where
  /-- There is no such file, or no such directory to create it in. -/
  | notFound
  /-- The path leads through a plain file. -/
  | notADirectory
  /-- The path leads to a directory. -/
  | isADirectory
  /-- The file may not be opened in this way. -/
  | permissionDenied
  /-- The contents are not UTF-8. -/
  | invalidText
  deriving DecidableEq

/-- The cause and its details by name. -/
def FileError.describe : FileError → String
  | notFound => "Os \x7b code: 2, kind: NotFound, message: \"No such file or directory\" \x7d"
  | notADirectory => "Os \x7b code: 20, kind: NotADirectory, message: \"Not a directory\" \x7d"
  | isADirectory => "Os \x7b code: 21, kind: IsADirectory, message: \"Is a directory\" \x7d"
  | permissionDenied =>
      "Os \x7b code: 13, kind: PermissionDenied, message: \"Permission denied\" \x7d"
  | invalidText =>
      "Error \x7b kind: InvalidData, message: \"stream did not contain valid UTF-8\" \x7d"

/-- Files: their names and contents. -/
abbrev Files := List (String × Text)

namespace Files

/-- Give a file new contents, or add it. -/
def put (name : String) (text : Text) : (files : Files) → Files
  | [] => [(name, text)]
  | file :: files => if file.1 = name then (name, text) :: files else file :: put name text files

@[simp]
theorem lookup_put_self (name : String) (text : Text) (files : Files) :
    (put name text files).lookup name = some text := by
  induction files with
  | nil => simp [put]
  | cons file files ih =>
      unfold put
      split
      · simp
      · rename_i other
        have differs : (name == file.1) = false := by simpa using Ne.symm other
        rw [List.lookup_cons, differs]
        exact ih

/-- Other files keep their contents. -/
theorem lookup_put_of_ne {name other : String} (differs : other ≠ name) (text : Text)
    (files : Files) : (put name text files).lookup other = files.lookup other := by
  have fresh : (other == name) = false := by simpa using differs
  induction files with
  | nil => simpa [put] using differs
  | cons file files ih =>
      unfold put
      split
      · rename_i same
        rw [List.lookup_cons, List.lookup_cons, same, fresh]
      · rw [List.lookup_cons, List.lookup_cons, ih]

end Files

/-- What a command sees of the files of a machine.  A path leads to a file by its name, or there is
a reason why it does not; this may depend on whether the file is to be read or to be created.  A
file that holds no text is one that cannot be read. -/
structure Disk where
  files : Files
  /-- The file to be read under a path. -/
  opened : String → Except FileError String
  /-- The file to be created or overwritten under a path. -/
  created : String → Except FileError String

namespace Disk

/-- The contents of the file that a path leads to. -/
def read (disk : Disk) (path : String) : Except FileError Text := do
  match disk.files.lookup (← disk.opened path) with
  | some text => return text
  | none => throw .notFound

/-- Give a file new contents, or add it. -/
def put (disk : Disk) (name : String) (text : Text) : Disk :=
  { disk with files := disk.files.put name text }

@[simp]
theorem files_put (disk : Disk) (name : String) (text : Text) :
    (disk.put name text).files = disk.files.put name text :=
  rfl

end Disk

namespace Files

/-- The parts of a path between its slashes. -/
def parts : Text → List Text
  | [] => [[]]
  | char :: rest =>
      match parts rest with
      | [] => [[char]]
      | part :: others => if char = '/' then [] :: part :: others else (char :: part) :: others

/-- The steps of a path: its parts that are not empty, from the first that leaves the directory. -/
def steps (path : Text) : List Text :=
  ((parts path).filter fun part => !part.isEmpty).dropWhile (· == ['.'])

/-- Whether a step leads to a directory wherever it is taken. -/
def isDots (step : Text) : Bool :=
  step == ['.'] || step == ['.', '.']

/-- Whether a path names a directory by a slash at its end. -/
def asDirectory (path : String) : Bool :=
  path.toList.getLast? == some '/'

/-- The name in the directory that a path leads to.  Outside of the directory there are no files. -/
def resolve (files : Files) (path : String) : Except FileError String :=
  let steps := steps path.toList
  if path.isEmpty then .error .notFound
  else if steps.all isDots then .error .isADirectory
  else if path.toList.head? == some '/' then .error .notFound
  else
    match steps with
    | [name] => .ok (String.ofList name)
    | [] => .error .notFound
    | name :: _ =>
        if (files.lookup (String.ofList name)).isSome then .error .notADirectory
        else .error .notFound

/-- The plain files of the working directory as a disk. -/
def directory (files : Files) : Disk where
  files := files
  opened path := do
    let name ← files.resolve path
    if (files.lookup name).isNone then throw .notFound
    else if asDirectory path then throw .notADirectory
    else return name
  created path := do
    let name ← files.resolve path
    if asDirectory path then throw .isADirectory else return name

instance : Coe Files Disk :=
  ⟨directory⟩

end Files

end Munch.Command
