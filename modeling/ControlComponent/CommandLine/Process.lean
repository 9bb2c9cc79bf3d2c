import ControlComponent.CommandLine.Surroundings
import ControlComponent.Node.Basic

/-!
The command that processes messages.

Every input file holds a framed message; the reply is written beside it, and after that the state of
the node, once for every message. A file that cannot be read, a reply that cannot be written and a
message that cannot be processed count as failures, and the next file is looked at; a state that
cannot be written ends the run, and so does a message whose handling is interrupted.
-/

namespace ControlComponent.CommandLine.Surroundings

/-- The kind that a file name begins with. -/
def kindName (input : String) : String :=
  let isBoundary (c : Char) : Bool := c = '-' || c = '_' || c = '.'
  String.ofList (((Path.fileName? input).getD "").toList.takeWhile fun c => !isBoundary c)

/-- The kind of the message in a file. -/
def kindOf (input name : String) : Script Message.Kind :=
  Script.orFail
    (fun error => "returncodes process: cannot tell the message kind of " ++ input ++ ": " ++
      error.message)
    (Message.Kind.ofName name)

/-- The store that a state file holds, or an empty one if there is no such file. -/
def loadState (path : String) : Script Store := do
  if ← Script.found path then
    let bytes ← Script.orFail
      (fun fault => "returncodes process: unable to read state " ++ path ++ ": " ++ fault.message)
      (← Script.textOf path)
    Script.orFail
      (fun fault => "returncodes process: unable to parse state " ++ path ++ ": " ++ fault.message)
      (Store.ofBytes bytes)
  else return .empty

/-- Writes a store to a state file. -/
def saveState (path : String) (store : Store) : Script Unit := do
  Script.orFail
    (fun fault => "returncodes process: unable to save state " ++ path ++ ": " ++ fault.message)
    (← Script.replace path store.toBytes)

/-- A processing of messages: where the state is kept, and what is the same for all messages. -/
structure Batch where
  settings : Settings
  keys : Key.Service
  statePath : String
  kind : Option Message.Kind

/-- Writes a reply beside its input, and hands back whether that failed. -/
def writeReply (s : Surroundings) (input : String) (reply : Bytes) : Script Bool := do
  let path := s.expand input ++ ".reply"
  match ← Script.replace path reply with
  | .ok () =>
    Script.log (.of .info (input ++ " processed, reply written to " ++ path))
    return false
  | .error fault =>
    Script.log (.of .error ("unable to write " ++ path ++ ": " ++ fault.message))
    return true

/-- Does with the outcome of a message what is to be done, and hands back whether there was a
failure. -/
def answer (s : Surroundings) (input : String) : Except Failure (Option Bytes) → Script Bool
  | .ok (some reply) => s.writeReply input reply
  | .ok none => do
    Script.log (.of .warn (input ++ " rejected, no reply written"))
    return false
  | .error failure => do
    Script.log (.of .error (input ++ " failed: " ++ failure.message))
    return true

/-- The kind of the message in a file: the one that all messages have, or the one that the name of
the file begins with. -/
def Batch.kindIn (batch : Batch) (input : String) : Script Message.Kind :=
  match batch.kind with
  | some kind => pure kind
  | none => kindOf input (kindName input)

/-- Hands a message to the node, answers it and saves the state, and hands back the state and
whether there was a failure. If the node is interrupted, so is the program. -/
def visit (s : Surroundings) (batch : Batch) (input : String) (kind : Message.Kind) (frame : Bytes)
    (state : Node.State) : Script (Node.State × Bool) := do
  let handled := Node.handle s.suite batch.settings batch.keys kind frame state
  Script.logAll handled.log
  if handled.isInterrupted then Script.interrupt
  else
    let failed ← s.answer input handled.result
    saveState batch.statePath handled.state.store
    return (handled.state, failed)

/-- Processes input files one after another, and hands back the number of failures. -/
def processInputs (s : Surroundings) (batch : Batch) (state : Node.State) (failures : Nat) :
    List String → Script Nat
  | [] => return failures
  | input :: rest => do
    let kind ← batch.kindIn input
    match ← Script.contentOf (s.expand input) with
    | .error fault =>
      Script.log (.of .error ("unable to read " ++ input ++ ": " ++ fault.message))
      processInputs s batch state (failures + 1) rest
    | .ok frame =>
      let (state, failed) ← s.visit batch input kind frame state
      processInputs s batch state (if failed then failures + 1 else failures) rest

/-- What is logged when a processing starts. -/
def startLine (settings : Settings) : Log.Line :=
  .of .info ("node " ++ Text.Decimal.render settings.nodeId ++ " (" ++ settings.componentId ++
    ") starting, max " ++ Text.Decimal.render settings.maxAttempts ++ " confirmation attempts")

/-- Makes ready to process messages: what is the same for all of them, and the store to begin with.
-/
def prepare (s : Surroundings) (access : Access) (kind : Option String) (statePath : String) :
    Script (Batch × Store) := do
  let keyring ← s.load (← s.locate access)
  let settings ← Script.orFail (fun error => "returncodes process: " ++ error.message)
    (Settings.ofEnvironment s.lookup)
  let statePath := s.expand statePath
  let store ← loadState statePath
  Script.log (startLine settings)
  let kind ← match kind with
    | some name => some <$> kindOf name name
    | none => pure none
  return (⟨settings, keyring.service, statePath, kind⟩, store)

/-- Processes the messages in files. -/
def process (s : Surroundings) (access : Access) (kind : Option String) (statePath : String)
    (inputs : List String) : Script Unit := do
  let (batch, store) ← s.prepare access kind statePath
  let failures ← s.processInputs batch (.initial store s.randomness) 0 inputs
  if failures ≠ 0 then
    Script.fail ("returncodes process: " ++ Text.Decimal.render failures ++ " message(s) failed")

end ControlComponent.CommandLine.Surroundings
