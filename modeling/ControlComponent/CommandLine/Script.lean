import ControlComponent.CommandLine.Disk
import ControlComponent.Log

/-!
Scripts: what a program does with files and with its channels, as data.

A script says what is done next for every way in which the last action can turn out. It can be
performed for real, or run on a disk that is a value (`Script.run`), and whatever holds of all ways
in which actions turn out can be shown of the script itself.
-/

namespace ControlComponent.CommandLine

/-- What is shown: a line of the output, a line about what is wrong, or a log line. -/
inductive Emission where
  | output (line : String)
  | complaint (line : String)
  | log (line : Log.Line)
deriving DecidableEq

/-- A course of actions that ends with a value, or stops everything with an exit code. -/
inductive Script (α : Type) where
  | done (value : α)
  | stop (code : Nat)
  | emit (emission : Emission) (next : Script α)
  | probe (path : String) (next : Bool → Script α)
  | read (path : String) (next : Except Disk.Fault Bytes → Script α)
  | write (path : String) (content : Bytes) (next : Except Disk.Fault Unit → Script α)
  | makeDirectories (path : String) (next : Except Disk.Fault Unit → Script α)

namespace Script

/-- One script after another. -/
def bind (f : α → Script β) : Script α → Script β
  | done value => f value
  | stop code => stop code
  | emit emission next => emit emission (next.bind f)
  | probe path next => probe path fun found => (next found).bind f
  | read path next => read path fun content => (next content).bind f
  | write path content next => write path content fun result => (next result).bind f
  | makeDirectories path next => makeDirectories path fun result => (next result).bind f

instance : Monad Script where
  pure := done
  bind s f := s.bind f

theorem bind_done (s : Script α) : s.bind done = s := by
  induction s with
  | done value => rfl
  | stop code => rfl
  | emit emission next ih => simp [bind, ih]
  | probe path next ih => exact congrArg (probe path) (funext ih)
  | read path next ih => exact congrArg (read path) (funext ih)
  | write path content next ih => exact congrArg (write path content) (funext ih)
  | makeDirectories path next ih => exact congrArg (makeDirectories path) (funext ih)

theorem bind_assoc (s : Script α) (f : α → Script β) (g : β → Script γ) :
    (s.bind f).bind g = s.bind fun value => (f value).bind g := by
  induction s with
  | done value => rfl
  | stop code => rfl
  | emit emission next ih => simp [bind, ih]
  | probe path next ih => exact congrArg (probe path) (funext ih)
  | read path next ih => exact congrArg (read path) (funext ih)
  | write path content next ih => exact congrArg (write path content) (funext ih)
  | makeDirectories path next ih => exact congrArg (makeDirectories path) (funext ih)

instance : LawfulMonad Script := LawfulMonad.mk' Script bind_done (fun _ _ => rfl) bind_assoc

/-! ### Actions -/

/-- Writes a line to the output. -/
def output (line : String) : Script Unit := emit (.output line) (done ())

/-- Says what is wrong, or what must not get into the output. -/
def complain (line : String) : Script Unit := emit (.complaint line) (done ())

/-- Logs a line. -/
def log (line : Log.Line) : Script Unit := emit (.log line) (done ())

/-- Logs lines. -/
def logAll : List Log.Line → Script Unit
  | [] => done ()
  | line :: rest => emit (.log line) (logAll rest)

/-- Says what is wrong and stops. -/
def fail (line : String) : Script α := emit (.complaint line) (stop 1)

/-- Stops everything as an interruption of the program does. -/
def interrupt : Script α := stop 101

/-- The value of a result. An error is said and stops everything. -/
def orFail (say : ε → String) : Except ε α → Script α
  | .ok value => done value
  | .error error => fail (say error)

/-- Whether there is anything at a path. -/
def found (path : String) : Script Bool := probe path done

/-- The content of a file. -/
def contentOf (path : String) : Script (Except Disk.Fault Bytes) := read path done

/-- The content of a file, which must be text. -/
def textOf (path : String) : Script (Except Disk.Fault Bytes) := do
  match ← contentOf path with
  | .ok content =>
    return if (Bytes.toText? content).isSome then .ok content else .error .notText
  | .error fault => return .error fault

/-- Replaces the content of a file. -/
def replace (path : String) (content : Bytes) : Script (Except Disk.Fault Unit) :=
  write path content done

/-- Makes sure that a directory is there. -/
def ensureDirectory (path : String) : Script (Except Disk.Fault Unit) := makeDirectories path done

/-- The script without the log lines that are not to be shown. -/
def filterLog (isShown : Log.Line → Bool) : Script α → Script α
  | done value => done value
  | stop code => stop code
  | emit (.log line) next =>
    if isShown line then emit (.log line) (next.filterLog isShown) else next.filterLog isShown
  | emit emission next => emit emission (next.filterLog isShown)
  | probe path next => probe path fun found => (next found).filterLog isShown
  | read path next => read path fun content => (next content).filterLog isShown
  | write path content next => write path content fun result => (next result).filterLog isShown
  | makeDirectories path next =>
    makeDirectories path fun result => (next result).filterLog isShown

/-! ### Runs -/

/-- What a run leaves behind: the value that it ended with or the exit code that stopped it, what
was shown, and the disk. -/
structure Outcome (α : Type) where
  result : Except Nat α
  emissions : List Emission
  disk : Disk

/-- The exit code of a run, which is 0 if nothing stopped it. -/
def Outcome.exitCode (outcome : Outcome α) : Nat :=
  match outcome.result with
  | .ok _ => 0
  | .error code => code

/-- The outcome with something shown before it. -/
def Outcome.after (outcome : Outcome α) (emissions : List Emission) : Outcome α :=
  { outcome with emissions := emissions ++ outcome.emissions }

/-- Runs a script on a disk. -/
def run (disk : Disk) : Script α → Outcome α
  | done value => ⟨.ok value, [], disk⟩
  | stop code => ⟨.error code, [], disk⟩
  | emit emission next => (run disk next).after [emission]
  | probe path next => run disk (next (disk.contains path))
  | read path next => run disk (next (disk.read path))
  | write path content next =>
    match disk.write path content with
    | .ok changed => run changed (next (.ok ()))
    | .error fault => run disk (next (.error fault))
  | makeDirectories path next =>
    match disk.makeDirectories path with
    | .ok changed => run changed (next (.ok ()))
    | .error fault => run disk (next (.error fault))

/-- What follows on an outcome. -/
def Outcome.andThen (outcome : Outcome α) (next : α → Disk → Outcome β) : Outcome β :=
  match outcome.result with
  | .ok value => (next value outcome.disk).after outcome.emissions
  | .error code => ⟨.error code, outcome.emissions, outcome.disk⟩

theorem Outcome.after_andThen (outcome : Outcome α) (emissions : List Emission)
    (next : α → Disk → Outcome β) :
    (outcome.after emissions).andThen next = (outcome.andThen next).after emissions := by
  obtain ⟨result, shown, disk⟩ := outcome
  cases result <;> simp [andThen, after]

/-- Running one script after another is running the second where the first has ended. -/
theorem run_bind (disk : Disk) (s : Script α) (f : α → Script β) :
    run disk (s.bind f) = (run disk s).andThen fun value disk => run disk (f value) := by
  induction s generalizing disk with
  | done value => simp [bind, run, Outcome.andThen, Outcome.after]
  | stop code => simp [bind, run, Outcome.andThen]
  | emit emission next ih => simp [bind, run, ih, Outcome.after_andThen]
  | probe path next ih => simp [bind, run, ih]
  | read path next ih => simp [bind, run, ih]
  | write path content next ih =>
    simp only [bind, run]
    cases disk.write path content <;> simp [ih]
  | makeDirectories path next ih =>
    simp only [bind, run]
    cases disk.makeDirectories path <;> simp [ih]

end Script
end ControlComponent.CommandLine
