import ControlComponent.Proof.Basic

/-!
What a voter sends: the vote with its proofs, and the confirmation message. Both arrive as JSON text
inside other messages.
-/

namespace ControlComponent.Message

/-- A voter's encrypted selections and the proofs about them. -/
structure Vote where
  electionId : String
  cardId : String
  /-- The selections under the election key. -/
  encryptedOptions : List Nat
  /-- The encrypted selections raised to the voter's secret key. -/
  exponentiatedOptions : List Nat
  /-- The partial choice codes under the choice codes encryption key. -/
  encryptedPartialCodes : List Nat
  exponentiationProof : ExponentiationProof
  plaintextEqualityProof : PlaintextEqualityProof
  cardPublicKey : List Nat
  cardPublicKeySignature : Signature
deriving DecidableEq

namespace Vote

/-- The texts that tie a vote's proofs to its card. -/
def auxiliary (vote : Vote) : List String := [vote.electionId, vote.cardId]

/-- The public key of the card as it is signed. -/
def cardPublicKeyBytes (vote : Vote) : Bytes :=
  Bytes.ofText (Text.Decimal.commaSeparated vote.cardPublicKey)

/-- What the signature of the card's public key covers. -/
def signedBytes (vote : Vote) : Bytes :=
  vote.cardPublicKeyBytes ++ Bytes.ofText vote.electionId ++ Bytes.ofText vote.cardId

/-- How votes are written. -/
def codec : Wire.Codec Vote :=
  .record
    (.required "election_event_id" .text <| .required "verification_card_id" .text <|
      .required "encrypted_options" .decimals <|
      .required "cipher_text_exponentiations" .decimals <|
      .required "encrypted_partial_choice_codes" .decimals <|
      .required "exponentiation_proof" ExponentiationProof.codec <|
      .required "plaintext_equality_proof" PlaintextEqualityProof.codec <|
      .required "verification_card_public_key" .decimals <|
      .required "verification_card_public_key_signature" .signature .done)
    (fun v => (v.electionId, v.cardId, v.encryptedOptions, v.exponentiatedOptions,
      v.encryptedPartialCodes, v.exponentiationProof, v.plaintextEqualityProof, v.cardPublicKey,
      v.cardPublicKeySignature, ()))
    (fun (electionId, cardId, encryptedOptions, exponentiatedOptions, encryptedPartialCodes,
        exponentiationProof, plaintextEqualityProof, cardPublicKey, cardPublicKeySignature, ()) =>
      ⟨electionId, cardId, encryptedOptions, exponentiatedOptions, encryptedPartialCodes,
        exponentiationProof, plaintextEqualityProof, cardPublicKey, cardPublicKeySignature⟩)

/-- The vote that a JSON text writes. -/
def ofText (text : String) : Except Wire.Fault Vote := codec.read .json (Bytes.ofText text)

end Vote

/-- A voter's confirmation. -/
structure Confirmation where
  key : Nat
deriving DecidableEq

namespace Confirmation

/-- How confirmations are written. -/
def codec : Wire.Codec Confirmation :=
  .record (.required "confirmation_key" .decimal .done)
    (fun c => (c.key, ()))
    (fun (key, ()) => ⟨key⟩)

/-- The confirmation that a JSON text writes. -/
def ofText (text : String) : Except Wire.Fault Confirmation := codec.read .json (Bytes.ofText text)

end Confirmation
end ControlComponent.Message
