import Munch.Command.Response
import Munch.Proofs.NewtonScript.Table
import Munch.Proofs.Recovery

/-!
# Runs of the command

A run reads a source, lexes it and writes out the tokens.  `Reads`, `Lexes` and `Leaves` say what
each of these parts comes to, in terms of the disk, of the tokens of NewtonScript and of the files
afterwards; `Opens` says that there is a place for the output.  A run succeeds exactly if all parts
do (`perform_eq_ok_iff`).

A process that fails does not take back what it has changed.  That a failed run leaves everything
as it was (`atomic_perform`) is a matter of order: its parts only look at the machine until the
output is opened, and nothing fails from then on.

Which file a path leads to is up to the disk, and so is whether it leads to one at all.  In
particular the input and the output may be the same file under two paths.
-/

namespace Munch.Command

open NewtonScript (Category)

/-! ## What a run is about -/

/-- The source text of a run: from standard input, or from the file that a path leads to. -/
inductive Reads (disk : Disk) (stdin : ByteArray) : (path : Option String) → Text → Prop
  | standard {text : String} (decoded : String.fromUTF8? stdin = some text) :
      Reads disk stdin none text.toList
  | file {path name : String} {text : Text} (opened : disk.opened path = .ok name)
      (held : disk.files.lookup name = some text) : Reads disk stdin (some path) text

/-- The tokens that a run makes of its source: those of NewtonScript, or those that are left when
the characters that no rule accepts are passed over. -/
def Lexes (arguments : Arguments) (source : Text) (tokens : List (Token Category)) : Prop :=
  if arguments.recover then
    ∃ table, NewtonScript.rules arguments.options = .ok table ∧
      (table.lenient.tokenize (table.lenient.start source ())).result = .ok tokens
  else
    NewtonScript.tokenize arguments.options source = .ok tokens

/-- There is a place for the output: standard output, or a file that can be created. -/
inductive Opens (disk : Disk) : (path : Option String) → Prop
  | standard : Opens disk none
  | file {path name : String} (created : disk.created path = .ok name) : Opens disk (some path)

/-- A text is what the output of a run holds, on standard output or in a file, and all other files
are as before. -/
inductive Leaves (disk : Disk) (written : Text) :
    (path : Option String) → (stdout : Text) → Files → Prop
  | standard : Leaves disk written none written disk.files
  | file {path name : String} {files : Files} (created : disk.created path = .ok name)
      (held : files.lookup name = some written)
      (others : ∀ other, other ≠ name → files.lookup other = disk.files.lookup other) :
      Leaves disk written (some path) [] files

/-! ## Processes -/

namespace Process

variable {α β : Type} {first : Process α} {next : α → Process β} {machine after : Machine}

theorem bind_eq_ok_iff {result : β} :
    (first >>= next) machine = .ok result after ↔
      ∃ value between, first machine = .ok value between ∧
        next value between = .ok result after := by
  change EStateM.bind first next machine = _ ↔ _
  unfold EStateM.bind
  cases first machine <;> simp [and_assoc]

theorem bind_eq_error_iff {failure : Failure} :
    (first >>= next) machine = .error failure after ↔
      first machine = .error failure after ∨
        ∃ value between, first machine = .ok value between ∧
          next value between = .error failure after := by
  change EStateM.bind first next machine = _ ↔ _
  unfold EStateM.bind
  cases first machine <;> simp [and_assoc]

/-- Whether it fails or not, the process changes nothing. -/
def Looks (process : Process α) : Prop :=
  ∀ machine, (∃ value, process machine = .ok value machine) ∨
    ∃ failure, process machine = .error failure machine

/-- If the process fails, it has changed nothing. -/
def Atomic (process : Process α) : Prop :=
  ∀ machine failure after, process machine = .error failure after → after = machine

/-- The process does not fail. -/
def Infallible (process : Process α) : Prop :=
  ∀ machine, ∃ value after, process machine = .ok value after

theorem Infallible.atomic {process : Process α} (infallible : process.Infallible) :
    process.Atomic := by
  intro machine failure after failed
  obtain ⟨value, between, succeeded⟩ := infallible machine
  simp [succeeded] at failed

/-- What only looks may come before a process that is atomic. -/
theorem Looks.bind (looks : first.Looks) (atomic : ∀ value, (next value).Atomic) :
    Process.Atomic (first >>= next) := by
  intro machine failure after failed
  rw [bind_eq_error_iff] at failed
  obtain ⟨value, seen⟩ | ⟨cause, seen⟩ := looks machine
  · have failed : next value machine = .error failure after := by
      simpa [seen, and_assoc] using failed
    exact atomic value machine failure after failed
  · have same : cause = failure ∧ machine = after := by
      simpa [seen] using failed
    exact same.2.symm

/-- What does not fail may come behind a process that is atomic. -/
theorem Atomic.bind (atomic : first.Atomic) (infallible : ∀ value, (next value).Infallible) :
    Process.Atomic (first >>= next) := by
  intro machine failure after failed
  obtain failed | ⟨value, between, _, failed⟩ := bind_eq_error_iff.mp failed
  · exact atomic machine failure after failed
  · obtain ⟨_, _, succeeded⟩ := infallible value between
    simp [succeeded] at failed

end Process

/-! ## The parts of a run -/

section

variable {ε α : Type} {wrap : ε → Failure} {result : Except ε α} {machine after : Machine}

theorem attempt_eq_ok_iff {value : α} :
    attempt wrap result machine = .ok value after ↔ result = .ok value ∧ machine = after := by
  cases result with
  | error error => exact ⟨nofun, nofun⟩
  | ok found =>
      change EStateM.Result.ok found machine = _ ↔ _
      simp

theorem looks_attempt : (attempt wrap result).Looks := by
  intro machine
  cases result with
  | error error => exact .inr ⟨_, rfl⟩
  | ok value => exact .inl ⟨_, rfl⟩

end

variable {arguments : Arguments} {disk : Disk} {stdin : ByteArray} {machine after : Machine}

theorem decode_eq_ok_iff {text : Text} :
    decode stdin = .ok text ↔ ∃ decoded, String.fromUTF8? stdin = some decoded ∧
      decoded.toList = text := by
  unfold decode
  cases String.fromUTF8? stdin <;> simp

theorem Disk.read_eq_ok_iff {path : String} {text : Text} :
    disk.read path = .ok text ↔ ∃ name, disk.opened path = .ok name ∧
      disk.files.lookup name = some text := by
  unfold read
  cases disk.opened path with
  | error error => exact ⟨nofun, nofun⟩
  | ok name =>
      simp only [bind, Except.bind]
      cases held : disk.files.lookup name <;> simp [held, pure, Except.pure]

theorem source_eq_ok_iff {text : Text} :
    source arguments stdin machine = .ok text after ↔
      Reads machine.disk stdin (Arguments.file? arguments.input) text ∧ machine = after := by
  unfold source
  cases Arguments.file? arguments.input with
  | none =>
      rw [attempt_eq_ok_iff, decode_eq_ok_iff, and_congr_left_iff]
      intro _
      constructor
      · rintro ⟨decoded, found, rfl⟩
        exact .standard found
      · rintro ⟨found⟩
        exact ⟨_, found, rfl⟩
  | some path =>
      change attempt .file (machine.disk.read path) machine = _ ↔ _
      rw [attempt_eq_ok_iff, Disk.read_eq_ok_iff, and_congr_left_iff]
      intro _
      constructor
      · rintro ⟨name, opened, held⟩
        exact .file opened held
      · rintro (_ | ⟨opened, held⟩)
        exact ⟨_, opened, held⟩

theorem looks_source : (source arguments stdin).Looks := by
  intro machine
  unfold source
  cases Arguments.file? arguments.input with
  | none => exact looks_attempt machine
  | some path => exact looks_attempt machine

theorem tokenizeWith_eq_ok_iff {text : Text} {tokens : List (Token Category)} :
    NewtonScript.tokenizeWith arguments.fallback arguments.options text = .ok tokens ↔
      Lexes arguments text tokens := by
  unfold Lexes Arguments.fallback
  split
  · unfold NewtonScript.tokenizeWith
    cases NewtonScript.rules arguments.options with
    | error error => exact ⟨nofun, nofun⟩
    | ok table => exact ⟨fun found => ⟨table, rfl, found⟩, fun ⟨_, rfl, found⟩ => found⟩
  · exact Iff.rfl

theorem respond_eq_ok_iff {text written : Text} :
    arguments.respond text = .ok written ↔ ∃ tokens, Lexes arguments text tokens ∧
      Render.tokens (arguments.format.getD .xml) tokens = written := by
  simp only [Arguments.respond, ← tokenizeWith_eq_ok_iff]
  cases NewtonScript.tokenizeWith arguments.fallback arguments.options text <;> simp [Except.map]

/-- Passing over characters, every source is lexed. -/
theorem exists_lexes_of_recover (recover : arguments.recover = true) (text : Text) :
    ∃ tokens, Lexes arguments text tokens := by
  obtain ⟨made, _, built⟩ := NewtonScript.exists_rules_eq_entries arguments.options
  let lexer : Lexer Unit (Token Category) := Table.lenient { rules := made }
  have sweeps : lexer.Sweeps (lexer.start text ()) (lexer.tokenize (lexer.start text ())) :=
    Lexer.sweeps_tokenize rfl (by simp [Lexer.start])
  cases result_eq : (lexer.tokenize (lexer.start text ())).result with
  | error error =>
      -- only the fallback could have failed, and it does not
      obtain ⟨char, position, memory, failed⟩ := sweeps.exists_answer result_eq
      simp [lexer, Table.lenient, Fallback.skip] at failed
  | ok tokens =>
      refine ⟨tokens, ?_⟩
      rw [Lexes, if_pos recover]
      exact ⟨_, built, result_eq⟩

theorem create_eq_ok_iff {path name : String} :
    create path machine = .ok name after ↔
      machine.disk.created path = .ok name ∧
        { machine with disk := machine.disk.put name [] } = after := by
  unfold create
  cases machine.disk.created path with
  | error error => exact ⟨nofun, nofun⟩
  | ok found =>
      simp only [EStateM.Result.ok.injEq, Except.ok.injEq]
      constructor
      all_goals
        rintro ⟨rfl, same⟩
        exact ⟨rfl, same⟩

theorem atomic_create (path : String) : (create path).Atomic := by
  intro machine failure after failed
  unfold create at failed
  split at failed
  · contradiction
  · cases failed
    rfl

theorem atomic_deliver (text : Text) : (deliver arguments text).Atomic := by
  unfold deliver
  cases Arguments.file? arguments.output with
  | none => exact Process.Infallible.atomic fun _ => ⟨_, _, rfl⟩
  | some path => exact (atomic_create path).bind fun _ _ => ⟨_, _, rfl⟩

/-- What is written out and where, with the file emptied first. -/
theorem deliver_eq_ok_iff {text : Text} :
    deliver arguments text machine = .ok () after ↔
      match Arguments.file? arguments.output with
      | none => { machine with stdout := machine.stdout ++ text } = after
      | some path => ∃ name, machine.disk.created path = .ok name ∧
          { machine with disk := (machine.disk.put name []).put name text } = after := by
  unfold deliver
  cases Arguments.file? arguments.output with
  | none =>
      change EStateM.Result.ok () _ = _ ↔ _
      simp
  | some path =>
      -- the file is empty when the text is added to it
      have appended : ∀ name, append name text { machine with disk := machine.disk.put name [] } =
          .ok () { machine with disk := (machine.disk.put name []).put name text } := by
        intro name
        change EStateM.Result.ok () _ = _
        simp
      simp [Process.bind_eq_ok_iff, create_eq_ok_iff, and_assoc, appended]

theorem opens_iff_deliver {text : Text} :
    Opens machine.disk (Arguments.file? arguments.output) ↔
      ∃ after, deliver arguments text machine = .ok () after := by
  simp only [deliver_eq_ok_iff]
  cases Arguments.file? arguments.output with
  | none => exact ⟨fun _ => ⟨_, rfl⟩, fun _ => .standard⟩
  | some path =>
      constructor
      · rintro (_ | created)
        exact ⟨_, _, created, rfl⟩
      · rintro ⟨_, name, created, _⟩
        exact .file created

theorem leaves_of_deliver {text : Text}
    (delivered : deliver arguments text { disk, stdout := [] } = .ok () after) :
    Leaves disk text (Arguments.file? arguments.output) after.stdout after.disk.files := by
  rw [deliver_eq_ok_iff] at delivered
  cases output_eq : Arguments.file? arguments.output with
  | none =>
      rw [output_eq] at delivered
      subst delivered
      exact .standard
  | some path =>
      rw [output_eq] at delivered
      obtain ⟨name, created, rfl⟩ := delivered
      apply Leaves.file created
      · simp
      · intro other differs
        simp [Files.lookup_put_of_ne differs]

/-- A run succeeds exactly if each of its parts does. -/
theorem perform_eq_ok_iff :
    perform arguments stdin machine = .ok () after ↔
      ∃ text tokens, Reads machine.disk stdin (Arguments.file? arguments.input) text ∧
        Lexes arguments text tokens ∧
        deliver arguments (Render.tokens (arguments.format.getD .xml) tokens) machine =
          .ok () after := by
  simp only [perform, Process.bind_eq_ok_iff, source_eq_ok_iff, attempt_eq_ok_iff,
    respond_eq_ok_iff]
  constructor
  · rintro ⟨text, _, ⟨reads, rfl⟩, _, _, ⟨⟨tokens, lexes, rfl⟩, rfl⟩, delivered⟩
    exact ⟨text, tokens, reads, lexes, delivered⟩
  · rintro ⟨text, tokens, reads, lexes, delivered⟩
    exact ⟨text, _, ⟨reads, rfl⟩, _, _, ⟨⟨tokens, lexes, rfl⟩, rfl⟩, delivered⟩

/-- A run that fails has changed nothing: the output is opened when all else is done. -/
theorem atomic_perform : (perform arguments stdin).Atomic :=
  looks_source.bind fun _ => looks_attempt.bind fun written => atomic_deliver written

/-! ## Whole runs -/

variable {line : List String}

/-- There is a source, it can be lexed, and there is a place for the output. -/
def Succeeds (arguments : Arguments) (disk : Disk) (stdin : ByteArray) : Prop :=
  ∃ text tokens, Reads disk stdin (Arguments.file? arguments.input) text ∧
    Lexes arguments text tokens ∧ Opens disk (Arguments.file? arguments.output)

theorem succeeds_iff_perform :
    Succeeds arguments machine.disk stdin ↔
      ∃ after, perform arguments stdin machine = .ok () after := by
  simp only [perform_eq_ok_iff]
  constructor
  · rintro ⟨text, tokens, reads, lexes, opens⟩
    obtain ⟨after, delivered⟩ := opens_iff_deliver.mp opens
    exact ⟨after, text, tokens, reads, lexes, delivered⟩
  · rintro ⟨after, text, tokens, reads, lexes, delivered⟩
    exact ⟨text, tokens, reads, lexes, opens_iff_deliver.mpr ⟨after, delivered⟩⟩

/-- Passing over characters, a run succeeds if it can read and write. -/
theorem succeeds_iff_of_recover (recover : arguments.recover = true) :
    Succeeds arguments disk stdin ↔
      (∃ text, Reads disk stdin (Arguments.file? arguments.input) text) ∧
        Opens disk (Arguments.file? arguments.output) := by
  constructor
  · rintro ⟨text, _, reads, _, opens⟩
    exact ⟨⟨text, reads⟩, opens⟩
  · rintro ⟨⟨text, reads⟩, opens⟩
    obtain ⟨tokens, lexes⟩ := exists_lexes_of_recover recover text
    exact ⟨text, tokens, reads, lexes, opens⟩

/-- A run that succeeds ends with 0 and leaves its output. -/
theorem run_of_succeeds (accepted : Arguments.parse? line = some arguments)
    (succeeds : Succeeds arguments disk stdin) :
    (run line disk stdin).exitCode = 0 ∧
      ∃ text tokens, Reads disk stdin (Arguments.file? arguments.input) text ∧
        Lexes arguments text tokens ∧
        Leaves disk (Render.tokens (arguments.format.getD .xml) tokens)
          (Arguments.file? arguments.output) (run line disk stdin).stdout
          (run line disk stdin).files := by
  have performs : ∃ after, perform arguments stdin { disk, stdout := [] } = .ok () after :=
    succeeds_iff_perform.mp succeeds
  obtain ⟨after, performed⟩ := performs
  obtain ⟨text, tokens, reads, lexes, delivered⟩ := perform_eq_ok_iff.mp performed
  have run_eq : run line disk stdin = ⟨0, after.stdout, [], after.disk.files⟩ := by
    simp [run, accepted, performed]
  rw [run_eq]
  exact ⟨rfl, text, tokens, reads, lexes, leaves_of_deliver delivered⟩

/-- A run that does not succeed ends with 1 and leaves nothing. -/
theorem run_of_not_succeeds (accepted : Arguments.parse? line = some arguments)
    (fails : ¬ Succeeds arguments disk stdin) :
    (run line disk stdin).exitCode = 1 ∧ (run line disk stdin).stdout = [] ∧
      (run line disk stdin).files = disk.files := by
  cases performed : perform arguments stdin { disk, stdout := [] } with
  | ok _ after => exact absurd (succeeds_iff_perform.mpr ⟨after, performed⟩) fails
  | error failure after =>
      have unchanged : after = { disk, stdout := [] } := atomic_perform _ failure after performed
      simp [run, accepted, performed, unchanged]

theorem exitCode_run_eq_zero_iff (accepted : Arguments.parse? line = some arguments) :
    (run line disk stdin).exitCode = 0 ↔ Succeeds arguments disk stdin := by
  constructor
  · intro zero
    by_cases succeeds : Succeeds arguments disk stdin
    · exact succeeds
    · simp [(run_of_not_succeeds accepted succeeds).1] at zero
  · intro succeeds
    exact (run_of_succeeds accepted succeeds).1

/-- A run with a command line that is understood ends with 0 or 1.  It ends with 0 exactly if the
source can be read, if it can be lexed or characters are passed over, and if the output can be
opened.  Then the output holds all the tokens of the source in the format asked for, and every other
file is as before.  If the run ends with 1, nothing is on standard output, and every file is as
before. -/
theorem run_of_parse?_eq_some (accepted : Arguments.parse? line = some arguments) (disk : Disk)
    (stdin : ByteArray) :
    let response := run line disk stdin
    let input := Arguments.file? arguments.input
    let output := Arguments.file? arguments.output
    (response.exitCode = 0 ∨ response.exitCode = 1) ∧
      (arguments.recover = false → (response.exitCode = 0 ↔
        ∃ text tokens, Reads disk stdin input text ∧
          NewtonScript.tokenize arguments.options text = .ok tokens ∧ Opens disk output)) ∧
      (arguments.recover = true → (response.exitCode = 0 ↔
        (∃ text, Reads disk stdin input text) ∧ Opens disk output)) ∧
      (response.exitCode = 0 → ∃ text tokens, Reads disk stdin input text ∧
        Lexes arguments text tokens ∧
        Leaves disk (Render.tokens (arguments.format.getD .xml) tokens) output response.stdout
          response.files) ∧
      (response.exitCode = 1 → response.stdout = [] ∧ response.files = disk.files) := by
  intro response input output
  have zero_iff : response.exitCode = 0 ↔ Succeeds arguments disk stdin :=
    exitCode_run_eq_zero_iff accepted
  refine ⟨?_, ?_, ?_, ?_, ?_⟩
  · by_cases succeeds : Succeeds arguments disk stdin
    · exact .inl (run_of_succeeds accepted succeeds).1
    · exact .inr (run_of_not_succeeds accepted succeeds).1
  · intro strict
    rw [zero_iff]
    simp [Succeeds, Lexes, strict, input, output]
  · intro recover
    exact zero_iff.trans (succeeds_iff_of_recover recover)
  · intro zero
    exact (run_of_succeeds accepted (zero_iff.mp zero)).2
  · intro one
    have fails : ¬ Succeeds arguments disk stdin := by
      rw [← zero_iff, one]
      decide
    exact (run_of_not_succeeds accepted fails).2

/-- A file with a character that no rule accepts is rewritten in place, under another path. -/
theorem run_of_parse?_eq_some_in_place :
    let line := ["--recover", "--format", "array", "--input", "a", "--output=./a"]
    let arguments : Arguments :=
      { format := some .array, input := some "a", output := some "./a", recover := true }
    let disk := Files.directory [("a", "x #".toList), ("b", [])]
    Arguments.parse? line = some arguments ∧
      (run line disk .empty).exitCode = 0 ∧
      ∃ text tokens, Reads disk .empty (Arguments.file? arguments.input) text ∧
        Lexes arguments text tokens ∧
        Leaves disk (Render.tokens .array tokens) (Arguments.file? arguments.output)
          (run line disk .empty).stdout (run line disk .empty).files := by
  intro line arguments disk
  have accepted : Arguments.parse? line = some arguments := by decide
  obtain ⟨_, _, zero_iff, left, _⟩ := run_of_parse?_eq_some accepted disk .empty
  have opened : disk.opened "a" = .ok "a" := rfl
  have created : disk.created "./a" = .ok "a" := rfl
  have zero : (run line disk .empty).exitCode = 0 :=
    (zero_iff rfl).mpr ⟨⟨_, .file opened rfl⟩, .file created⟩
  exact ⟨accepted, zero, left zero⟩

end Munch.Command
