import ControlComponent.CommandLine.Keys
import ControlComponent.CommandLine.Process

/-!
Runs of the program: from words to the script that does what they ask for, with the log lines that
they ask for.
-/

namespace ControlComponent.CommandLine

/-- Whether a log line is shown: warnings and errors always, the rest the sooner the more often the
flag was given, and what names single cards only when it was given three times. -/
def isShown (verbosity : Nat) (line : Log.Line) : Bool :=
  if line.isSecure then 3 ≤ verbosity else line.level.rank ≤ Log.Level.warn.rank + verbosity

namespace Surroundings

/-- The script of a command. -/
def script (s : Surroundings) : Command → Script Unit
  | .newKey => s.newKey
  | .newRoot subject => s.newRoot subject
  | .issue subject issuer issuerSecret publicKey => s.issue subject issuer issuerSecret publicKey
  | .newKeyring access platformCa nodeCa nodeCaSecret =>
    s.newKeyring access platformCa nodeCa nodeCaSecret
  | .newSetKeys access electionId setId group length =>
    s.newSetKeys access electionId setId group length
  | .newSigningKey access electionId => s.newSigningKey access electionId
  | .process access kind state inputs => s.process access kind state inputs

/-- The script of an invocation. A log configuration takes the place of the lines that would be
shown. -/
def invoke (s : Surroundings) (invocation : Invocation) : Script Unit :=
  let script := s.script invocation.command
  match invocation.logSettings with
  | none => script.filterLog (isShown invocation.verbosity)
  | some path => do
    let _ ← Script.orFail
      (fun fault => "returncodes: unable to load log config " ++ path ++ ": " ++ fault.message)
      (← Script.textOf (s.expand path))
    script.filterLog fun _ => false

/-- The script of words. -/
def start (s : Surroundings) (words : List String) : Script Unit :=
  match Invocation.ofWords words with
  | .ok invocation => s.invoke invocation
  | .error (.help path) => Script.output (usageText path)
  | .error (.version path) => Script.output (versionText path)
  | .error .misuse => Script.fail (usageText [])

end Surroundings
end ControlComponent.CommandLine
