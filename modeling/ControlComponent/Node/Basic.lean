import ControlComponent.Message.Kind
import ControlComponent.Node.Decryption
import ControlComponent.Node.Exponentiation
import ControlComponent.Node.Generation
import ControlComponent.Settings
import ControlComponent.Wire.Frame

/-!
A node: it takes framed messages of the three kinds and replies in the encoding of the message. A
message that is rejected gets no reply; one that cannot be read or processed is a failure.
-/

namespace ControlComponent.Node

open Wire (Codec)

/-- What a node makes of a frame: a reply, or none. -/
structure Handled where
  result : Except Failure (Option Bytes)
  state : State
  log : List Log.Line

/-- Whether the handling of a frame was interrupted. -/
def Handled.isInterrupted (handled : Handled) : Bool := handled.result matches .error .interrupted

/-- What is logged when a message is rejected. -/
def rejectLine (kind : Message.Kind) (reason : Rejection) : Log.Line :=
  .of .warn (kind.name ++ " message rejected, no reply sent: " ++ reason.message)

/-- Reads a frame, processes what it holds, and frames the answer. -/
def handleWith (kind : Message.Kind) (requests : Codec α) (responses : Codec β)
    (process : α → State → Step β) (frame : Bytes) (state : State) : Handled :=
  match requests.readFrame frame with
  | .error error => ⟨.error (.internal error), state, []⟩
  | .ok (encoding, request) =>
    let step := process request state
    match step.result with
    | .ok response => ⟨.ok (some (responses.writeFrame encoding response)), step.state, step.log⟩
    | .error (.rejected reason) => ⟨.ok none, step.state, step.log ++ [rejectLine kind reason]⟩
    | .error (.failed failure) => ⟨.error failure, step.state, step.log⟩

/-- What is logged when a message comes in. -/
def receiveLine (kind : Message.Kind) (frame : Bytes) : Log.Line :=
  .of .debug (kind.name ++ " message received, " ++ Text.Decimal.render frame.length ++ " bytes")

/-- Handles a framed message. -/
def handle (suite : Suite) (settings : Settings) (keys : Key.Service) (kind : Message.Kind)
    (frame : Bytes) (state : State) : Handled :=
  let handled :=
    match kind with
    | .generation =>
      handleWith kind Message.Generation.requestCodec Message.Generation.responseCodec
        (Generation.process suite keys settings.nodeId) frame state
    | .decryption =>
      handleWith kind Message.Computation.requestCodec Message.Computation.decryptionCodec
        (Decryption.process suite keys settings.nodeId state.store) frame state
    | .exponentiation =>
      handleWith kind Message.Computation.requestCodec Message.Computation.exponentiationCodec
        (Exponentiation.process suite keys settings.nodeId settings.maxAttempts) frame state
  { handled with log := receiveLine kind frame :: handled.log }

end ControlComponent.Node
