import ControlComponent.CommandLine.Run

/-!
The program: performs the script of its words on the real disk and the real channels.
-/

namespace ControlComponent.CommandLine

/-- What an error of the system says about a file. -/
def faultOf : IO.Error → Disk.Fault
  | .noFileOrDirectory _ _ _ => .notFound
  | .alreadyExists _ _ _ => .alreadyExists
  | .inappropriateType _ 20 _ => .notDirectory
  | .inappropriateType _ 21 _ => .isDirectory
  | error => .other (toString error)

/-- The result of an action on a file, or what is wrong with the file. -/
def attempt (action : IO α) : IO (Except Disk.Fault α) := do
  try return .ok (← action) catch error => return .error (faultOf error)

/-- Whether there is anything at a path. -/
def isThere (path : String) : IO Bool := do
  match ← attempt (IO.FS.Handle.mk path .read) with
  | .ok _ => return true
  | .error .notFound | .error .notDirectory => return false
  | .error _ => return true

/-- Shows something. -/
def present : Emission → IO Unit
  | .output line => IO.println line
  | .complaint line => IO.eprintln line
  | .log line =>
    IO.eprintln (line.level.name ++ (if line.isSecure then " secure_log" else "") ++ " - " ++
      line.text)

/-- Performs a script and hands back its exit code. -/
def perform : Script α → IO UInt32
  | .done _ => return 0
  | .stop code => return UInt32.ofNat code
  | .emit emission next => do
    present emission
    perform next
  | .probe path next => do perform (next (← isThere path))
  | .read path next => do
    perform (next (← attempt do return (← IO.FS.readBinFile path).data.toList))
  | .write path content next => do
    perform (next (← attempt (IO.FS.writeBinFile path ⟨content.toArray⟩)))
  | .makeDirectories path next => do
    perform (next (← attempt (IO.FS.createDirAll path)))

/-- Does what words ask for, with the variables and the randomness of the system. -/
def runWords (words : List String) : IO UInt32 := do
  let seed ← IO.getRandomBytes 32
  let environment ← Surroundings.variables.filterMapM fun name => do
    return (← IO.getEnv name).map (name, ·)
  perform (Surroundings.start
    { suite := .standard
      sealing := .standard
      lookup := fun name => environment.lookup name
      randomness := .seeded seed.data.toList } words)

end ControlComponent.CommandLine

/-- The program. -/
def main (words : List String) : IO UInt32 := ControlComponent.CommandLine.runWords words
