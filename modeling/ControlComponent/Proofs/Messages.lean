import ControlComponent.Proofs.Authentic
import ControlComponent.Proofs.Kinds

/-!
Messages in both encodings.

JSON and CBOR write a message in different ways: keys, signatures and identifiers are text in the
one and bytes in the other, and so are the lengths and the marks of everything around them. Yet what
is read is in both the message that was written. So it makes no difference to a node in which
encoding a request comes, and a signature that was made before a message was written is accepted
after it has been read.
-/

namespace ControlComponent

open Wire (Codec Encoding)
open Wire.Codec
open Signature (Scheme)

variable {nesting : Nat}

/-! ### Well-formed messages -/

theorem SignedContent.keeps_codec {c : Codec α} {signed : SignedContent α}
    (kept : c.Keeps nesting signed.content) (readable : signed.signature.Readable) :
    (codec c).Keeps (nesting + 1) signed := by
  have distinct : ["content", "signature"].Nodup := by decide
  exact keeps_record distinct ⟨kept, keeps_signature readable, trivial⟩ rfl

namespace Message

namespace Generation

/-- A message of the set-up phase with an identifier of sixteen bytes and, if it is signed, with a
well-formed signature. -/
structure Envelope.WellFormed (payload : α → Prop) (e : Envelope α) : Prop where
  correlationId : e.correlationId.bytes.length = 16
  payload : payload e.payload.payload
  signature : ∀ s, e.payload.signature = some s → s.WellFormed

/-- A request whose numbers fit their types: that of the chunk has 32 bits and that of the
selections 64. -/
structure Request.WellFormed (request : Request) : Prop where
  chunkId : request.chunkId < 2 ^ 32
  selections : request.correctness.selections < 2 ^ 64

/-- A response whose numbers fit their types. -/
structure Response.WellFormed (response : Response) : Prop where
  chunkId : response.chunkId < 2 ^ 32
  nodeId : response.nodeId < 2 ^ 32

theorem Input.keeps_codec (input : Input) : codec.Keeps (nesting + 3) input :=
  keeps_record (by decide)
    ⟨keeps_text _, input.partialCodes.keeps_codec, input.confirmationKey.keeps_codec,
      keeps_decimals _, trivial⟩ rfl

theorem Correctness.keeps_codec {correctness : Correctness}
    (selections : correctness.selections < 2 ^ 64) : codec.Keeps (nesting + 1) correctness :=
  keeps_record (by decide)
    ⟨keeps_natural (Nat.le_pred_of_lt selections) (by decide), trivial⟩ rfl

theorem Request.WellFormed.keeps_codec {request : Request} (wellFormed : request.WellFormed) :
    codec.Keeps (nesting + 5) request :=
  keeps_record (by decide)
    ⟨keeps_text _, keeps_text _, keeps_text _,
      keeps_natural (Nat.le_pred_of_lt wellFormed.chunkId) (by decide), keeps_group _,
      keeps_list fun input _ => input.keeps_codec,
      Correctness.keeps_codec wellFormed.selections, trivial⟩ rfl

theorem Envelope.WellFormed.keeps_codec {c : Codec α} {payload : α → Prop} {e : Envelope α}
    (wellFormed : e.WellFormed payload)
    (kept : payload e.payload.payload → c.Keeps (nesting + 3) e.payload.payload) :
    (codec c).Keeps (nesting + 5) e :=
  Envelope.keeps_codec wellFormed.correlationId
    (Signed.keeps_codec (kept wellFormed.payload) wellFormed.signature)

end Generation

namespace Computation

/-- A message of the voting phase with an identifier of sixteen bytes and, if it has a payload, with
a well-formed one. -/
structure Envelope.WellFormed (payload : α → Prop) (e : Envelope α) : Prop where
  correlationId : e.correlationId.bytes.length = 16
  payload : ∀ p, e.payload = some p → payload p

/-- Two certificates that are read back. -/
structure CertificateBundle.WellFormed (bundle : CertificateBundle) : Prop where
  tenantCa : bundle.tenantCa.Readable
  adminBoard : bundle.adminBoard.Readable

/-- Signed contents whose certificate and whose signatures are read back. -/
structure VoteInput.WellFormed (input : VoteInput) : Prop where
  electionKey : input.electionKey.signature.Readable
  cardSet : input.cardSet.signature.Readable
  issuer : input.cardSet.content.issuer.Readable

/-- What a request asks for, with whatever is there of it well-formed. -/
structure Input.WellFormed (input : Input) : Prop where
  voteInput : ∀ i, input.voteInput = some i → i.WellFormed
  certificates : ∀ bundle, input.certificates = some bundle → bundle.WellFormed

theorem CertificateBundle.WellFormed.keeps_codec {bundle : CertificateBundle}
    (wellFormed : bundle.WellFormed) : codec.Keeps (nesting + 2) bundle :=
  keeps_record (by decide)
    ⟨Certificate.keeps_codec wellFormed.tenantCa, Certificate.keeps_codec wellFormed.adminBoard,
      trivial⟩ rfl

theorem ElectionKey.keeps_codec (key : ElectionKey) : codec.Keeps (nesting + 2) key :=
  keeps_record (by decide) ⟨keeps_text _, keeps_decimals _, trivial⟩ rfl

theorem CardSet.keeps_codec {cardSet : CardSet} (issuer : cardSet.issuer.Readable) :
    codec.Keeps (nesting + 2) cardSet :=
  keeps_record (by decide)
    ⟨keeps_text _, keeps_decimals _, Certificate.keeps_codec issuer, trivial⟩ rfl

theorem VoteInput.WellFormed.keeps_codec {input : VoteInput} (wellFormed : input.WellFormed) :
    codec.Keeps (nesting + 4) input :=
  keeps_record (by decide)
    ⟨keeps_text _,
      SignedContent.keeps_codec (ElectionKey.keeps_codec _) wellFormed.electionKey,
      SignedContent.keeps_codec (CardSet.keeps_codec wellFormed.issuer) wellFormed.cardSet,
      trivial⟩ rfl

theorem ConfirmationInput.keeps_codec (input : ConfirmationInput) :
    codec.Keeps (nesting + 1) input :=
  keeps_record (by decide) ⟨keeps_text _, trivial⟩ rfl

/-- Whatever is there of what a request asks for comes back, and whatever is not is still missing.
-/
theorem Input.WellFormed.keeps_codec {input : Input} (wellFormed : input.WellFormed) :
    codec.Keeps (nesting + 5) input := by
  refine keeps_record (by decide)
    ⟨keeps_option (fun elements _ => keeps_decimals elements) ?_,
      keeps_option (fun i there => (wellFormed.voteInput i there).keeps_codec) ?_,
      keeps_option (fun i _ => i.keeps_codec) ?_,
      keeps_option (fun b there => (wellFormed.certificates b there).keeps_codec) ?_,
      trivial⟩ rfl
  all_goals rintro e v ⟨⟩

end Computation

/-! ### Kinds -/

namespace Kind

/-- A request that is well-formed in all its parts. -/
def WellFormedRequest : (kind : Kind) → kind.Request → Prop
  | .generation, request => request.WellFormed Generation.Request.WellFormed
  | .decryption, request => request.WellFormed Computation.Input.WellFormed
  | .exponentiation, request => request.WellFormed Computation.Input.WellFormed

/-- A response that is well-formed in all its parts. -/
def WellFormedResponse : (kind : Kind) → kind.Response → Prop
  | .generation, response => response.WellFormed Generation.Response.WellFormed
  | .decryption, response => response.WellFormed fun signed =>
    ∀ s, signed.signature = some s → s.WellFormed
  | .exponentiation, response => response.WellFormed fun signed =>
    ∀ s, signed.signature = some s → s.WellFormed

theorem keeps_computationRequest {request : Computation.Request}
    (wellFormed : request.WellFormed Computation.Input.WellFormed) :
    Computation.requestCodec.Keeps 7 request := by
  refine Computation.Envelope.keeps_codec wellFormed.correlationId ?_ ?_
  · intro input there
    exact (wellFormed.payload input there).keeps_codec
  · rintro e input ⟨⟩

theorem keeps_computationResponse {c : Codec α} {response : Computation.Envelope (Signed α)}
    (wellFormed : response.WellFormed fun signed => ∀ s, signed.signature = some s → s.WellFormed)
    (kept : ∀ payload, c.Keeps 5 payload) :
    (Computation.Envelope.codec (Signed.codec c)).Keeps 7 response := by
  refine Computation.Envelope.keeps_codec wellFormed.correlationId ?_ ?_
  · intro signed there
    exact Signed.keeps_codec (kept _) (wellFormed.payload signed there)
  · rintro e signed ⟨⟩

/-- Well-formed requests of all kinds come back. -/
theorem keeps_request {kind : Kind} {request : kind.Request}
    (wellFormed : kind.WellFormedRequest request) : kind.requestCodec.Keeps 7 request := by
  cases kind with
  | generation =>
    exact Generation.Envelope.WellFormed.keeps_codec wellFormed fun payload => payload.keeps_codec
  | decryption => exact keeps_computationRequest wellFormed
  | exponentiation => exact keeps_computationRequest wellFormed

/-- Well-formed responses of all kinds come back. -/
theorem keeps_response {kind : Kind} {response : kind.Response}
    (wellFormed : kind.WellFormedResponse response) : kind.responseCodec.Keeps 7 response := by
  cases kind with
  | generation =>
    refine Generation.Envelope.WellFormed.keeps_codec wellFormed ?_
    intro payload
    exact Generation.Response.keeps_codec payload.chunkId payload.nodeId
  | decryption =>
    exact keeps_computationResponse wellFormed fun share => share.keeps_codec
  | exponentiation =>
    exact keeps_computationResponse wellFormed fun share => share.keeps_codec

end Kind
end Message

/-! ### Signatures in messages -/

/-- A content that was signed with the secret key that belongs to a public key. -/
def SignedContent.MadeWith (scheme : Scheme) (c : Codec α) (key : Signature.PublicKey)
    (signed : SignedContent α) : Prop :=
  ∃ secret, scheme.publicKey secret = key ∧ signed = sign scheme c secret signed.content

theorem SignedContent.MadeWith.check {scheme : Scheme} (honest : scheme.Honest) {c : Codec α}
    {key : Signature.PublicKey} {signed : SignedContent α} (made : signed.MadeWith scheme c key) :
    signed.check scheme c key = .ok () := by
  obtain ⟨secret, own, signs⟩ := made
  rw [signs]
  exact Certificate.checkSignature_sign honest own _

namespace Message

variable (scheme : Scheme) (root : Certificate)

/-- Whether the contents of a request have been signed with the key of its administration board. -/
def Computation.ContentsSigned (request : Computation.Request) : Prop :=
  ∀ input voteInput bundle, request.payload = some input → input.voteInput = some voteInput →
    input.certificates = some bundle →
      voteInput.electionKey.MadeWith scheme ElectionKey.codec bundle.adminBoard.publicKey ∧
      voteInput.cardSet.MadeWith scheme CardSet.codec bundle.adminBoard.publicKey

/-- Whether the contents of a request are accepted under the key of its administration board. -/
def Computation.ContentsAccepted (request : Computation.Request) : Prop :=
  ∀ input voteInput bundle, request.payload = some input → input.voteInput = some voteInput →
    input.certificates = some bundle →
      voteInput.electionKey.check scheme ElectionKey.codec bundle.adminBoard.publicKey = .ok () ∧
      voteInput.cardSet.check scheme CardSet.codec bundle.adminBoard.publicKey = .ok ()

theorem Computation.ContentsSigned.accepted {scheme : Scheme} (honest : scheme.Honest)
    {request : Computation.Request} (made : ContentsSigned scheme request) :
    ContentsAccepted scheme request := by
  intro input voteInput bundle payload present certificates
  obtain ⟨electionKey, cardSet⟩ := made input voteInput bundle payload present certificates
  exact ⟨electionKey.check honest, cardSet.check honest⟩

namespace Kind

/-- Whether everything in a request that is signed has been signed by those who should. -/
def SignedRequest : (kind : Kind) → kind.Request → Prop
  | .generation, request => request.payload.MadeUnder scheme Generation.Request.codec root
  | .decryption, request => Computation.ContentsSigned scheme request
  | .exponentiation, request => Computation.ContentsSigned scheme request

/-- Whether every signature in a request is accepted. -/
def AcceptedRequest : (kind : Kind) → kind.Request → Prop
  | .generation, request => request.payload.check scheme Generation.Request.codec root = .ok ()
  | .decryption, request => Computation.ContentsAccepted scheme request
  | .exponentiation, request => Computation.ContentsAccepted scheme request

variable {scheme root} {kind : Kind}

theorem SignedRequest.accepted (honest : scheme.Honest) {request : kind.Request}
    (made : SignedRequest scheme root kind request) : AcceptedRequest scheme root kind request := by
  cases kind with
  | generation => exact Signed.MadeUnder.check honest made
  | decryption => exact Computation.ContentsSigned.accepted honest made
  | exponentiation => exact Computation.ContentsSigned.accepted honest made

end Kind
end Message

/-! ### Frames -/

namespace Node

open Message

/-- **Decoding undoes encoding.** A well-formed message of any kind, request or response, is read
from its frame as it was written, in JSON as in CBOR. So a request has one outcome and leaves one
state, whichever of its two frames a node gets, and the reply is the same response in the encoding
of the frame. What was signed before a message was written is accepted after it has been read. A
frame is a byte string that a machine can hold. -/
theorem messages_come_back (suite : Suite) (settings : Settings) (keys : Key.Service)
    (honest : suite.signing.Honest) (root : Certificate) (kind : Kind) :
    (∀ e request, kind.WellFormedRequest request →
      (kind.requestCodec.writeFrame e request).length < 2 ^ 64 →
      kind.requestCodec.readFrame (kind.requestCodec.writeFrame e request) = .ok (e, request)) ∧
    (∀ e response, kind.WellFormedResponse response →
      (kind.responseCodec.writeFrame e response).length < 2 ^ 64 →
      kind.responseCodec.readFrame (kind.responseCodec.writeFrame e response) =
        .ok (e, response)) ∧
    (∀ request state, kind.WellFormedRequest request →
      (∀ e, (kind.requestCodec.writeFrame e request).length < 2 ^ 64) →
      ∃ (outcome : Except Failure (Option kind.Response)) (after : State), ∀ e,
        let handled :=
          handle suite settings keys kind (kind.requestCodec.writeFrame e request) state
        handled.result = outcome.map (·.map (kind.responseCodec.writeFrame e)) ∧
          handled.state = after) ∧
    (∀ e request e' request', kind.WellFormedRequest request →
      (kind.requestCodec.writeFrame e request).length < 2 ^ 64 →
      kind.SignedRequest suite.signing root request →
      kind.requestCodec.readFrame (kind.requestCodec.writeFrame e request) = .ok (e', request') →
      kind.AcceptedRequest suite.signing root request') ∧
    (∀ e response e' response' signed, kind.WellFormedResponse response →
      (kind.responseCodec.writeFrame e response).length < 2 ^ 64 →
      kind.signed? response = some signed →
      signed.MadeUnder suite.signing kind.payloadCodec root →
      kind.responseCodec.readFrame (kind.responseCodec.writeFrame e response) =
        .ok (e', response') →
      ∃ signed', kind.signed? response' = some signed' ∧
        signed'.check suite.signing kind.payloadCodec root = .ok ()) := by
  have shallow : 7 < Wire.Cbor.depthLimit := by decide
  refine ⟨?_, ?_, ?_, ?_, ?_⟩
  · intro e request wellFormed small
    exact (Kind.keeps_request wellFormed).readFrame shallow small
  · intro e response wellFormed small
    exact (Kind.keeps_response wellFormed).readFrame shallow small
  · intro request state wellFormed small
    refine ⟨(engine suite settings keys kind request state).outcome,
      (engine suite settings keys kind request state).state, ?_⟩
    intro e
    have read := (Kind.keeps_request wellFormed).readFrame shallow (small e)
    exact handle_of_read suite settings keys read state
  · intro e request e' request' wellFormed small made read
    rw [(Kind.keeps_request wellFormed).readFrame shallow small] at read
    cases read
    exact made.accepted honest
  · intro e response e' response' signed wellFormed small there made read
    rw [(Kind.keeps_response wellFormed).readFrame shallow small] at read
    cases read
    exact ⟨signed, there, made.check honest⟩

/-- The request to decrypt for a card, with the contents that come with it. -/
theorem decryption_comes_back :
    Kind.WellFormedRequest .decryption (Small.decryption Small.setB) ∧
    (∀ e, (Computation.requestCodec.writeFrame e (Small.decryption Small.setB)).length < 2 ^ 64) ∧
    (∀ e, Computation.requestCodec.readFrame
      (Computation.requestCodec.writeFrame e (Small.decryption Small.setB)) =
        .ok (e, Small.decryption Small.setB)) ∧
    (∃ (outcome : Except Failure (Option (Kind.Response .decryption))) (after : State), ∀ e,
      let handled := handle Small.suite .default Small.keyring.service .decryption
        (Computation.requestCodec.writeFrame e (Small.decryption Small.setB))
        (Small.ready Small.setB)
      handled.result = outcome.map (·.map (Computation.decryptionCodec.writeFrame e)) ∧
        handled.state = after) ∧
    Computation.ContentsAccepted Small.scheme (Small.decryption Small.setB) := by
  have signature : Small.signature.Readable := Small.readable_scheme.sign Small.secretKey []
  have publicKey : Small.publicKey.Readable := Small.readable_scheme.publicKey Small.secretKey
  have input : (Small.decryptionInput Small.setB).WellFormed := by
    constructor
    · rintro _ ⟨⟩
      exact ⟨signature, signature, publicKey, signature⟩
    · rintro _ ⟨⟩
      exact ⟨⟨publicKey, signature⟩, ⟨publicKey, signature⟩⟩
  have wellFormed : Kind.WellFormedRequest .decryption (Small.decryption Small.setB) := by
    constructor
    · exact List.length_replicate
    · rintro _ ⟨⟩
      exact input
  have small : ∀ e,
      (Computation.requestCodec.writeFrame e (Small.decryption Small.setB)).length < 2 ^ 64 := by
    intro e
    cases e <;> decide +kernel
  have signed : Kind.SignedRequest Small.scheme Small.platform .decryption
      (Small.decryption Small.setB) := by
    rintro _ _ _ ⟨⟩ ⟨⟩ ⟨⟩
    exact ⟨⟨Small.secretKey, rfl, rfl⟩, ⟨Small.secretKey, rfl, rfl⟩⟩
  obtain ⟨requests, -, handles, accepted, -⟩ := messages_come_back Small.suite .default
    Small.keyring.service Small.honest_scheme Small.platform .decryption
  have read := fun e => requests e (Small.decryption Small.setB) wellFormed (small e)
  refine ⟨wellFormed, small, read, handles _ _ wellFormed small, ?_⟩
  exact accepted .json _ .json _ wellFormed (small .json) signed (read .json)

end Node
end ControlComponent
