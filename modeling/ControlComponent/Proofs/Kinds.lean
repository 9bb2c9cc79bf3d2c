import ControlComponent.Proofs.Effect

/-!
What is common to the three kinds of messages.

For every kind there are requests and responses, ways to write them, and an engine that makes
responses of requests. A node reads a request, hands it to the engine, and writes the response in
the encoding of the request.
-/

namespace ControlComponent

open Message

namespace Message.Kind

/-- The requests of a kind. -/
def Request : Kind → Type
  | .generation => Generation.SignedRequest
  | .decryption => Computation.Request
  | .exponentiation => Computation.Request

/-- The payloads that responses of a kind carry. -/
def Payload : Kind → Type
  | .generation => Generation.Response
  | .decryption => Computation.DecryptionShare
  | .exponentiation => Computation.ExponentiationShare

/-- The responses of a kind. -/
def Response : Kind → Type
  | .generation => Generation.Envelope Generation.Response
  | .decryption => Computation.Envelope (Signed Computation.DecryptionShare)
  | .exponentiation => Computation.Envelope (Signed Computation.ExponentiationShare)

/-- How requests of a kind are written. -/
def requestCodec : (kind : Kind) → Wire.Codec kind.Request
  | .generation => Generation.requestCodec
  | .decryption => Computation.requestCodec
  | .exponentiation => Computation.requestCodec

/-- How the payloads of responses of a kind are written. -/
def payloadCodec : (kind : Kind) → Wire.Codec kind.Payload
  | .generation => Generation.Response.codec
  | .decryption => Computation.DecryptionShare.codec
  | .exponentiation => Computation.ExponentiationShare.codec

/-- How responses of a kind are written. -/
def responseCodec : (kind : Kind) → Wire.Codec kind.Response
  | .generation => Generation.responseCodec
  | .decryption => Computation.decryptionCodec
  | .exponentiation => Computation.exponentiationCodec

/-- The signed payload of a response, if it has one. -/
def signed? : (kind : Kind) → kind.Response → Option (Signed kind.Payload)
  | .generation, response => some response.payload
  | .decryption, response => response.payload
  | .exponentiation, response => response.payload

end Message.Kind

namespace Node

/-- What a node makes of a request of a kind. -/
def engine (suite : Suite) (settings : Settings) (keys : Key.Service) :
    (kind : Kind) → kind.Request → State → Step kind.Response
  | .generation, request, state => Generation.process suite keys settings.nodeId request state
  | .decryption, request, state =>
    Decryption.process suite keys settings.nodeId state.store request state
  | .exponentiation, request, state =>
    Exponentiation.process suite keys settings.nodeId settings.maxAttempts request state

variable (suite : Suite) (settings : Settings) (keys : Key.Service) {kind : Kind} {frame : Bytes}

/-- A frame is handled alike for all kinds. -/
theorem handle_eq (state : State) : handle suite settings keys kind frame state =
    let handled := handleWith kind kind.requestCodec kind.responseCodec
      (engine suite settings keys kind) frame state
    { handled with log := receiveLine kind frame :: handled.log } := by
  cases kind <;> rfl

/-- What becomes of a request, without a reply if it is rejected. -/
def Step.outcome (step : Step α) : Except Failure (Option α) :=
  match step.result with
  | .ok response => .ok (some response)
  | .error (.rejected _) => .ok none
  | .error (.failed failure) => .error failure

/-- A frame that can be read is handled as the request in it is processed, and the response is
written in the encoding of the frame. -/
theorem handle_of_read {e : Wire.Encoding} {request : kind.Request}
    (read : kind.requestCodec.readFrame frame = .ok (e, request)) (state : State) :
    (handle suite settings keys kind frame state).result =
        (engine suite settings keys kind request state).outcome.map
          (·.map (kind.responseCodec.writeFrame e)) ∧
      (handle suite settings keys kind frame state).state =
        (engine suite settings keys kind request state).state := by
  rw [handle_eq]
  refine ⟨?_, state_handleWith read state⟩
  unfold handleWith Step.outcome
  rw [read]
  dsimp only
  cases (engine suite settings keys kind request state).result with
  | ok response => rfl
  | error refusal => cases refusal <;> rfl

/-- A frame that cannot be read changes nothing. -/
theorem handle_of_unread {error : Error}
    (unread : kind.requestCodec.readFrame frame = .error error) (state : State) :
    (handle suite settings keys kind frame state).result = .error (.internal error) ∧
      (handle suite settings keys kind frame state).state = state := by
  rw [handle_eq, handleWith_unread unread]
  exact ⟨rfl, rfl⟩

end Node
end ControlComponent
