import ControlComponent.Message.Field
import ControlComponent.Proof.Exponentiation
import ControlComponent.Signed
import ControlComponent.Text.Blank

/-!
Messages of the voting phase. Requests of both kinds, decryption and exponentiation, have one form;
which parts of it are filled tells what is wanted. A request names an election event, a card set and
a card, and its response repeats the names.
-/

namespace ControlComponent.Message.Computation

/-! ### Envelopes -/

/-- What a message of the voting phase travels in. -/
structure Envelope (α : Type) where
  correlationId : Uuid
  requestId : String
  electionId : String
  setId : String
  cardId : String
  payload : Option α
deriving DecidableEq

namespace Envelope

/-- Whether a text is an identifier. -/
def isId (text : String) : Bool := !Text.isBlank text && Uuid.isWritten text

/-- The mandatory fields that are blank, malformed or missing. -/
def invalidFields (e : Envelope α) : List Field :=
  (if Text.isBlank e.requestId then [.requestId] else []) ++
  (if isId e.cardId then [] else [.cardId]) ++
  (if isId e.setId then [] else [.setId]) ++
  (if isId e.electionId then [] else [.electionId]) ++
  (if e.payload.isNone then [.payload] else [])

/-- The envelope of the answer to a request. -/
def reply (e : Envelope α) (payload : β) : Envelope β :=
  { e with payload := some payload }

/-- How envelopes are written. A name that is missing reads as a blank one. -/
def codec (c : Wire.Codec α) : Wire.Codec (Envelope α) :=
  .record
    (.required "correlation_id" .uuid <| .defaulted "request_id" .text "" <|
      .defaulted "election_event_id" .text "" <|
      .defaulted "verification_card_set_id" .text "" <|
      .defaulted "verification_card_id" .text "" <|
      .optional "payload" c .done)
    (fun e => (e.correlationId, e.requestId, e.electionId, e.setId, e.cardId, e.payload, ()))
    (fun (correlationId, requestId, electionId, setId, cardId, payload, ()) =>
      ⟨correlationId, requestId, electionId, setId, cardId, payload⟩)

end Envelope

/-! ### Requests -/

/-- The certificates that come with a decryption request. -/
structure CertificateBundle where
  tenantCa : Certificate
  adminBoard : Certificate
deriving DecidableEq

/-- How the certificates of a request are written. -/
def CertificateBundle.codec : Wire.Codec CertificateBundle :=
  .record
    (.required "tenant_ca" Certificate.codec <| .required "admin_board" Certificate.codec .done)
    (fun b => (b.tenantCa, b.adminBoard, ()))
    (fun (tenantCa, adminBoard, ()) => ⟨tenantCa, adminBoard⟩)

/-- The public key of an election event. -/
structure ElectionKey where
  electionId : String
  publicKey : List Nat
deriving DecidableEq

/-- How election keys are written. -/
def ElectionKey.codec : Wire.Codec ElectionKey :=
  .record (.required "election_event_id" .text <| .required "public_key" .decimals .done)
    (fun k => (k.electionId, k.publicKey, ()))
    (fun (electionId, publicKey, ()) => ⟨electionId, publicKey⟩)

/-- What voters and nodes have to know of a card set: the key that partial choice codes are
encrypted under, and who signs the public keys of its cards. -/
structure CardSet where
  setId : String
  choiceCodesKey : List Nat
  issuer : Certificate
deriving DecidableEq

/-- How the data of card sets are written. -/
def CardSet.codec : Wire.Codec CardSet :=
  .record
    (.required "verification_card_set_id" .text <|
      .required "choice_codes_encryption_public_key" .decimals <|
      .required "verification_card_set_issuer_certificate" Certificate.codec .done)
    (fun s => (s.setId, s.choiceCodesKey, s.issuer, ()))
    (fun (setId, choiceCodesKey, issuer, ()) => ⟨setId, choiceCodesKey, issuer⟩)

/-- What a decryption request brings for checking a vote. -/
structure VoteInput where
  /-- The vote, as JSON text. -/
  vote : String
  electionKey : SignedContent ElectionKey
  cardSet : SignedContent CardSet
deriving DecidableEq

/-- How the input for checking a vote is written. -/
def VoteInput.codec : Wire.Codec VoteInput :=
  .record
    (.required "vote" .text <|
      .required "election_public_key" (SignedContent.codec ElectionKey.codec) <|
      .required "verification_card_set_data" (SignedContent.codec CardSet.codec) .done)
    (fun i => (i.vote, i.electionKey, i.cardSet, ()))
    (fun (vote, electionKey, cardSet, ()) => ⟨vote, electionKey, cardSet⟩)

/-- What an exponentiation request brings for checking a confirmation. -/
structure ConfirmationInput where
  /-- The confirmation, as JSON text. -/
  confirmation : String
deriving DecidableEq

/-- How the input for checking a confirmation is written. -/
def ConfirmationInput.codec : Wire.Codec ConfirmationInput :=
  .record (.required "confirmation_message" .text .done)
    (fun i => (i.confirmation, ()))
    (fun (confirmation, ()) => ⟨confirmation⟩)

/-- What a request asks for. -/
structure Input where
  elements : Option (List Nat)
  voteInput : Option VoteInput
  confirmationInput : Option ConfirmationInput
  certificates : Option CertificateBundle
deriving DecidableEq

/-- How the contents of requests are written. -/
def Input.codec : Wire.Codec Input :=
  .record
    (.defaulted "return_codes_input_elements" (.option .decimals) none <|
      .defaulted "partial_choice_return_codes_verification_input" (.option VoteInput.codec) none <|
      .defaulted "confirmation_key_verification_input" (.option ConfirmationInput.codec) none <|
      .defaulted "certificates" (.option CertificateBundle.codec) none .done)
    (fun i => (i.elements, i.voteInput, i.confirmationInput, i.certificates, ()))
    (fun (elements, voteInput, confirmationInput, certificates, ()) =>
      ⟨elements, voteInput, confirmationInput, certificates⟩)

/-- A request. -/
abbrev Request := Envelope Input

/-- How requests are written. -/
def requestCodec : Wire.Codec Request := Envelope.codec Input.codec

/-! ### Responses -/

/-- A node's share in the decryption of partial choice codes. -/
structure DecryptionShare where
  contributions : List Nat
  proof : ExponentiationProof
  publicKey : List Nat
deriving DecidableEq

/-- How decryption shares are written. -/
def DecryptionShare.codec : Wire.Codec DecryptionShare :=
  .record
    (.required "decrypt_contribution_result" .decimals <|
      .required "exponentiation_proof" ExponentiationProof.codec <|
      .required "public_key" .decimals .done)
    (fun s => (s.contributions, s.proof, s.publicKey, ()))
    (fun (contributions, proof, publicKey, ()) => ⟨contributions, proof, publicKey⟩)

/-- A node's share of one long return code, and the code that it is for. -/
structure LongCodeShare where
  input : Nat
  share : Nat
deriving DecidableEq

/-- How shares of long return codes are written. -/
def LongCodeShare.codec : Wire.Codec LongCodeShare :=
  .record (.required "input" .decimal <| .required "share" .decimal .done)
    (fun s => (s.input, s.share, ()))
    (fun (input, share, ()) => ⟨input, share⟩)

/-- A node's shares of all long return codes of a request, in the order of the request. Of the two
public keys only the one of the request's phase is there. -/
structure ExponentiationShare where
  shares : List LongCodeShare
  proof : ExponentiationProof
  choicePublicKey : Option Nat
  voteCastPublicKey : Option Nat
deriving DecidableEq

/-- How the shares of long return codes of a request are written. -/
def ExponentiationShare.codec : Wire.Codec ExponentiationShare :=
  .record
    (.required "pcc_or_ck_to_long_return_code_share" (.list LongCodeShare.codec) <|
      .required "exponentiation_proof" ExponentiationProof.codec <|
      .defaulted "voter_choice_return_code_generation_public_key" (.option .decimal) none <|
      .defaulted "voter_vote_cast_return_code_generation_public_key" (.option .decimal) none .done)
    (fun s => (s.shares, s.proof, s.choicePublicKey, s.voteCastPublicKey, ()))
    (fun (shares, proof, choicePublicKey, voteCastPublicKey, ()) =>
      ⟨shares, proof, choicePublicKey, voteCastPublicKey⟩)

/-- How signed decryption shares are written. -/
def decryptionCodec : Wire.Codec (Envelope (Signed DecryptionShare)) :=
  Envelope.codec (Signed.codec DecryptionShare.codec)

/-- How signed shares of long return codes are written. -/
def exponentiationCodec : Wire.Codec (Envelope (Signed ExponentiationShare)) :=
  Envelope.codec (Signed.codec ExponentiationShare.codec)

end ControlComponent.Message.Computation
