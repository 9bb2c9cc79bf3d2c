import ControlComponent.ElGamal
import ControlComponent.Message.Field
import ControlComponent.Proof.Exponentiation
import ControlComponent.Signed
import ControlComponent.Text.Blank

/-!
Messages of the set-up phase. A request carries a chunk of verification cards, each with its
encrypted partial choice codes and its encrypted confirmation key; the response answers every card
with both ciphertexts raised to the card's own keys, and proofs of that.
-/

namespace ControlComponent

/-- How the values of a ciphertext are written. -/
def ElGamal.CiphertextValues.codec : Wire.Codec ElGamal.CiphertextValues :=
  .record (.required "gamma" .decimal <| .required "phis" .decimals .done)
    (fun c => (c.gamma, c.phis, ()))
    (fun (gamma, phis, ()) => ⟨gamma, phis⟩)

namespace Message.Generation

open ElGamal (CiphertextValues)

/-! ### Requests -/

/-- One card of a request. -/
structure Input where
  cardId : String
  partialCodes : CiphertextValues
  confirmationKey : CiphertextValues
  cardPublicKey : List Nat
deriving DecidableEq

/-- How the cards of a request are written. -/
def Input.codec : Wire.Codec Input :=
  .record
    (.required "verification_card_id" .text <|
      .required "encrypted_hashed_squared_partial_choice_return_codes" CiphertextValues.codec <|
      .required "encrypted_hashed_squared_confirmation_key" CiphertextValues.codec <|
      .required "verification_card_public_key" .decimals .done)
    (fun i => (i.cardId, i.partialCodes, i.confirmationKey, i.cardPublicKey, ()))
    (fun (cardId, partialCodes, confirmationKey, cardPublicKey, ()) =>
      ⟨cardId, partialCodes, confirmationKey, cardPublicKey⟩)

/-- How many selections a voter of the card set makes. -/
structure Correctness where
  selections : Nat
deriving DecidableEq

/-- How the number of selections is written. -/
def Correctness.codec : Wire.Codec Correctness :=
  .record (.required "total_number_of_selections" .natural64 .done)
    (fun c => (c.selections, ()))
    (fun (selections, ()) => ⟨selections⟩)

/-- What a request asks for. -/
structure Request where
  tenantId : String
  electionId : String
  setId : String
  chunkId : Nat
  group : Group
  inputs : List Input
  correctness : Correctness
deriving DecidableEq

/-- How requests are written. -/
def Request.codec : Wire.Codec Request :=
  .record
    (.required "tenant_id" .text <| .required "election_event_id" .text <|
      .required "verification_card_set_id" .text <| .required "chunk_id" .natural32 <|
      .required "group" .group <|
      .required "return_code_generation_inputs" (.list Input.codec) <|
      .required "combined_correctness_information" Correctness.codec .done)
    (fun r => (r.tenantId, r.electionId, r.setId, r.chunkId, r.group, r.inputs, r.correctness, ()))
    (fun (tenantId, electionId, setId, chunkId, group, inputs, correctness, ()) =>
      ⟨tenantId, electionId, setId, chunkId, group, inputs, correctness⟩)

/-! ### Responses -/

/-- The answer for one card. -/
structure Output where
  cardId : String
  choicePublicKey : List Nat
  voteCastPublicKey : List Nat
  partialCodes : CiphertextValues
  partialCodesProof : ExponentiationProof
  confirmationKey : CiphertextValues
  confirmationKeyProof : ExponentiationProof
deriving DecidableEq

/-- How the answers for cards are written. -/
def Output.codec : Wire.Codec Output :=
  .record
    (.required "verification_card_id" .text <|
      .required "voter_choice_return_code_generation_public_key" .decimals <|
      .required "voter_vote_cast_return_code_generation_public_key" .decimals <|
      .required "exponentiated_encrypted_partial_choice_return_codes" CiphertextValues.codec <|
      .required "encrypted_partial_choice_return_code_exponentiation_proof"
        ExponentiationProof.codec <|
      .required "exponentiated_encrypted_confirmation_key" CiphertextValues.codec <|
      .required "encrypted_confirmation_key_exponentiation_proof" ExponentiationProof.codec .done)
    (fun o => (o.cardId, o.choicePublicKey, o.voteCastPublicKey, o.partialCodes,
      o.partialCodesProof, o.confirmationKey, o.confirmationKeyProof, ()))
    (fun (cardId, choicePublicKey, voteCastPublicKey, partialCodes, partialCodesProof,
        confirmationKey, confirmationKeyProof, ()) =>
      ⟨cardId, choicePublicKey, voteCastPublicKey, partialCodes, partialCodesProof,
        confirmationKey, confirmationKeyProof⟩)

/-- The answer to a request. -/
structure Response where
  tenantId : String
  electionId : String
  setId : String
  chunkId : Nat
  group : Group
  outputs : List Output
  nodeId : Nat
deriving DecidableEq

/-- How responses are written. -/
def Response.codec : Wire.Codec Response :=
  .record
    (.required "tenant_id" .text <| .required "election_event_id" .text <|
      .required "verification_card_set_id" .text <| .required "chunk_id" .natural32 <|
      .required "group" .group <|
      .required "return_code_generation_outputs" (.list Output.codec) <|
      .required "node_id" .natural32 .done)
    (fun r => (r.tenantId, r.electionId, r.setId, r.chunkId, r.group, r.outputs, r.nodeId, ()))
    (fun (tenantId, electionId, setId, chunkId, group, outputs, nodeId, ()) =>
      ⟨tenantId, electionId, setId, chunkId, group, outputs, nodeId⟩)

/-! ### Envelopes -/

/-- What a message of the set-up phase travels in. -/
structure Envelope (α : Type) where
  correlationId : Uuid
  requestId : String
  payload : Signed α
deriving DecidableEq

/-- How envelopes are written. -/
def Envelope.codec (c : Wire.Codec α) : Wire.Codec (Envelope α) :=
  .record
    (.required "correlation_id" .uuid <| .required "request_id" .text <|
      .required "payload" (Signed.codec c) .done)
    (fun e => (e.correlationId, e.requestId, e.payload, ()))
    (fun (correlationId, requestId, payload, ()) => ⟨correlationId, requestId, payload⟩)

/-- A request in its envelope. -/
abbrev SignedRequest := Envelope Request

/-- How requests in their envelopes are written. -/
def requestCodec : Wire.Codec SignedRequest := Envelope.codec Request.codec

/-- How signed responses are written. -/
def responseCodec : Wire.Codec (Envelope Response) := Envelope.codec Response.codec

/-- The mandatory fields of a request that are blank or empty. -/
def invalidFields (r : SignedRequest) : List Field :=
  let payload := r.payload.payload
  (if Text.isBlank r.requestId then [.requestId] else []) ++
  (if Text.isBlank payload.electionId then [.electionId] else []) ++
  (if Text.isBlank payload.setId then [.setId] else []) ++
  (if payload.inputs.isEmpty then [.inputs] else [])

end Message.Generation
end ControlComponent
