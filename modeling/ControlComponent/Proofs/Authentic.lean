import ControlComponent.Proofs.Answer
import ControlComponent.Proofs.Key.Sealing
import ControlComponent.Proofs.Replies
import ControlComponent.Proofs.Small
import ControlComponent.Proofs.Wire.Filled

/-!
Replies that their receiver can rely on.

Whoever has sent a request and trusts the platform can read the reply in the encoding of the
request, finds the names of the request in it, and finds its payload signed by a key whose chain
leads to the platform. What is checked is the payload as it was read, written in CBOR once more, so
the reply has to come back exactly as it was made.
-/

namespace ControlComponent

open Signature (Scheme)
open Wire (Codec Encoding)

/-! ### Signed payloads -/

/-- A payload that was signed with a key whose chain leads to a root. -/
def Signed.MadeUnder (scheme : Scheme) (c : Codec α) (root : Certificate) (signed : Signed α) :
    Prop :=
  ∃ secret chain, sign scheme c secret chain signed.payload = .ok signed ∧
    Certificate.checkChain scheme root chain = .ok ()

/-- What was signed with a key whose chain leads to the root is accepted by those who trust it. -/
theorem Signed.MadeUnder.check {scheme : Scheme} (honest : scheme.Honest) {c : Codec α}
    {root : Certificate} {signed : Signed α} (made : signed.MadeUnder scheme c root) :
    signed.check scheme c root = .ok () := by
  obtain ⟨secret, chain, signs, chained⟩ := made
  unfold sign at signs
  split at signs
  · cases signs
  · rename_i leaf rest
    split at signs
    · cases signs
    · rename_i own
      injection signs with signs
      rw [← signs]
      exact bind_eq_ok.2 ⟨(), chained,
        Certificate.checkSignature_sign honest (Decidable.not_not.1 own) _⟩

section Signing

variable {scheme : Scheme} {keyring : Key.Keyring} {c : Codec α} {electionId : String} {payload : α}
  {signed : Signed α}

/-- What is signed with a key of the keyring carries a certificate that the node has issued for the
key, and that of the node. -/
theorem Key.Keyring.Certified.exists_signed (certified : keyring.Certified scheme)
    (signs : keyring.service.Signs scheme c electionId payload signed) :
    ∃ secret certificate subject,
      keyring.nodeCa.issue scheme keyring.nodeCaSecret subject (scheme.publicKey secret) =
        .ok certificate ∧
      signed = ⟨payload, some ⟨scheme.sign secret (Signed.message c payload),
        [certificate, keyring.nodeCa]⟩⟩ := by
  obtain ⟨secret, chain, signing, chained, made⟩ := signs
  obtain ⟨certificate, subject, rfl, issued⟩ := certified.exists_chain signing chained
  exact ⟨secret, certificate, subject, issued, Signed.sign_eq_ok made⟩

/-- Whatever is signed with a key of the keyring is signed under the platform. -/
theorem Key.Keyring.Certified.madeUnder (certified : keyring.Certified scheme)
    (honest : scheme.Honest)
    (signs : keyring.service.Signs scheme c electionId payload signed) :
    signed.MadeUnder scheme c keyring.platformCa := by
  obtain ⟨secret, chain, signing, chained, made⟩ := signs
  obtain ⟨certificate, subject, rfl, issued⟩ := certified.exists_chain signing chained
  obtain rfl := Signed.sign_eq_ok made
  exact ⟨secret, _, made, certified.checkChain honest issued⟩

/-- Whatever is signed with a key of the keyring is accepted by those who trust the platform. -/
theorem Key.Keyring.Certified.check (certified : keyring.Certified scheme) (honest : scheme.Honest)
    (signs : keyring.service.Signs scheme c electionId payload signed) :
    signed.check scheme c keyring.platformCa = .ok () :=
  (certified.madeUnder honest signs).check honest

/-- Whatever is signed with a key of the keyring comes back with its signature and its chain. -/
theorem Key.Keyring.Certified.keeps (certified : keyring.Certified scheme)
    (readable : scheme.Readable) {nesting : Nat}
    (node : keyring.nodeCa.signature.Readable)
    (signs : keyring.service.Signs scheme c electionId payload signed)
    (kept : c.Keeps (nesting + 3) payload) : (Signed.codec c).Keeps (nesting + 4) signed := by
  obtain ⟨secret, certificate, subject, issued, rfl⟩ := certified.exists_signed signs
  have nodeKey := readable.publicKey keyring.nodeCaSecret
  rw [certified.secret] at nodeKey
  refine Signed.keeps_codec kept ?_
  rintro _ ⟨⟩
  refine ⟨readable.sign secret _, ?_⟩
  intro certificate' mem
  simp only [List.mem_cons, List.not_mem_nil, or_false] at mem
  rcases mem with rfl | rfl
  · exact Certificate.readable_of_issue readable issued
  · exact ⟨nodeKey, node⟩

end Signing

/-! ### Requests -/

namespace Message

open Wire.Codec (filled_of_record length_of_uuid le_of_natural)

variable {e : Encoding} {d : Wire.Document}

theorem Generation.length_of_envelope {c : Codec α} {envelope : Generation.Envelope α}
    (read : (Generation.Envelope.codec c).decode e d = .ok envelope) :
    envelope.correlationId.bytes.length = 16 ∧
      ∃ d, (Signed.codec c).decode e d = .ok envelope.payload := by
  obtain ⟨⟨id, requestId, payload, ⟨⟩⟩, filled, rfl⟩ := filled_of_record read
  obtain ⟨⟨_, identifier⟩, others⟩ := filled.required
  exact ⟨length_of_uuid identifier, others.required.2.required.1⟩

/-- A chunk that was read has a number of 32 bits. -/
theorem Generation.chunkId_lt {request : Generation.Request}
    (read : Generation.Request.codec.decode e d = .ok request) : request.chunkId < 2 ^ 32 := by
  obtain ⟨⟨tenantId, electionId, setId, chunkId, others⟩, filled, rfl⟩ := filled_of_record read
  obtain ⟨⟨_, number⟩, -⟩ := filled.required.2.required.2.required.2.required
  exact Nat.lt_of_le_pred (by decide) (le_of_natural number)

/-- A number of selections that was read has 64 bits. -/
theorem Generation.selections_lt {request : Generation.Request}
    (read : Generation.Request.codec.decode e d = .ok request) :
    request.correctness.selections < 2 ^ 64 := by
  obtain ⟨⟨tenantId, electionId, setId, chunkId, group, inputs, correctness, ⟨⟩⟩, filled, rfl⟩ :=
    filled_of_record read
  obtain ⟨⟨_, counted⟩, -⟩ :=
    filled.required.2.required.2.required.2.required.2.required.2.required.2.required
  obtain ⟨⟨selections, ⟨⟩⟩, filled', rfl⟩ := filled_of_record counted
  obtain ⟨⟨_, number⟩, -⟩ := filled'.required
  exact Nat.lt_of_le_pred (by decide) (le_of_natural number)

theorem Computation.length_of_envelope {c : Codec α} {envelope : Computation.Envelope α}
    (read : (Computation.Envelope.codec c).decode e d = .ok envelope) :
    envelope.correlationId.bytes.length = 16 := by
  obtain ⟨⟨id, others⟩, filled, rfl⟩ := filled_of_record read
  obtain ⟨⟨_, identifier⟩, -⟩ := filled.required
  exact length_of_uuid identifier

end Message

/-- A signed payload that was read has a payload that was read. -/
theorem Signed.exists_decode {c : Codec α} {e : Encoding} {d : Wire.Document} {signed : Signed α}
    (read : (Signed.codec c).decode e d = .ok signed) : ∃ d, c.decode e d = .ok signed.payload := by
  obtain ⟨⟨payload, others⟩, filled, rfl⟩ := Wire.Codec.filled_of_record read
  exact filled.required.1

namespace Node

/-! ### What a receiver accepts -/

/-- A response of the set-up phase that a sender accepts: it has the names of the request, and the
platform vouches for its payload. -/
structure Generation.Accepts (scheme : Scheme) (root : Certificate)
    (request : Message.Generation.SignedRequest)
    (response : Message.Generation.Envelope Message.Generation.Response) : Prop where
  correlationId : response.correlationId = request.correlationId
  requestId : response.requestId = request.requestId
  tenantId : response.payload.payload.tenantId = request.payload.payload.tenantId
  electionId : response.payload.payload.electionId = request.payload.payload.electionId
  setId : response.payload.payload.setId = request.payload.payload.setId
  chunkId : response.payload.payload.chunkId = request.payload.payload.chunkId
  check : response.payload.check scheme Message.Generation.Response.codec root = .ok ()

open Message.Computation

/-- A response of the voting phase that a sender accepts: it has the names of the request, and a
payload that the platform vouches for. -/
structure Accepts (scheme : Scheme) (c : Codec α) (root : Certificate) (request : Request)
    (response : Envelope (Signed α)) : Prop where
  correlationId : response.correlationId = request.correlationId
  requestId : response.requestId = request.requestId
  electionId : response.electionId = request.electionId
  setId : response.setId = request.setId
  cardId : response.cardId = request.cardId
  check : ∃ signed, response.payload = some signed ∧ signed.check scheme c root = .ok ()

/-- Whether two frames hold, in one encoding, a request and a response that is accepted for it. -/
def Exchanged (requests : Codec α) (responses : Codec β) (accepts : α → β → Prop)
    (frame reply : Bytes) : Prop :=
  ∃ encoding request response, requests.readFrame frame = .ok (encoding, request) ∧
    responses.readFrame reply = .ok (encoding, response) ∧ accepts request response

/-- Whether a reply to a frame is authentic for whoever trusts the root. -/
def Authentic (scheme : Scheme) (root : Certificate) : Message.Kind → (frame reply : Bytes) → Prop
  | .generation => Exchanged Message.Generation.requestCodec Message.Generation.responseCodec
      (Generation.Accepts scheme root)
  | .decryption =>
    Exchanged requestCodec decryptionCodec (Accepts scheme DecryptionShare.codec root)
  | .exponentiation =>
    Exchanged requestCodec exponentiationCodec (Accepts scheme ExponentiationShare.codec root)

/-- A reply is exchanged for its frame if the responses to what can be read come back and are
accepted. -/
theorem exchanged_of_handleWith {kind : Message.Kind} {requests : Codec α} {responses : Codec β}
    {process : α → State → Step β} {accepts : α → β → Prop} {frame reply : Bytes} {state : State}
    {nesting : Nat} (shallow : nesting < Wire.Cbor.depthLimit) (small : reply.length < 2 ^ 64)
    (each : ∀ e d request response, requests.decode e d = .ok request →
      (process request state).result = .ok response →
      responses.Keeps nesting response ∧ accepts request response)
    (replied : (handleWith kind requests responses process frame state).result =
      .ok (some reply)) : Exchanged requests responses accepts frame reply := by
  cases read : requests.readFrame frame with
  | error error =>
    rw [handleWith_unread read] at replied
    cases replied
  | ok pair =>
    obtain ⟨encoding, request⟩ := pair
    obtain ⟨response, done, rfl⟩ := (result_handleWith_some read).1 replied
    obtain ⟨d, decoded⟩ := Wire.Codec.exists_decode_of_readFrame read
    obtain ⟨kept, accepted⟩ := each encoding d request response decoded done
    exact ⟨encoding, request, response, read, kept.readFrame shallow small, accepted⟩

/-! ### The engines -/

section Engines

variable {suite : Suite} {keyring : Key.Keyring} {nodeId : Nat} {e : Encoding} {d : Wire.Document}
  (honest : suite.signing.Honest) (readable : suite.signing.Readable)
  (certified : keyring.Certified suite.signing) (node : keyring.nodeCa.signature.Readable)

include honest readable certified node

/-- What the set-up phase answers comes back and is accepted, if the node's number has 32 bits. -/
theorem Generation.accepts_of_process (number : nodeId < 2 ^ 32)
    {request : Message.Generation.SignedRequest} {state : State}
    {response : Message.Generation.Envelope Message.Generation.Response}
    (read : Message.Generation.requestCodec.decode e d = .ok request)
    (done : (process suite keyring.service nodeId request state).result = .ok response) :
    Message.Generation.responseCodec.Keeps 7 response ∧
      Accepts suite.signing keyring.platformCa request response := by
  obtain ⟨secret, outputs, signed, -, -, signs, rfl⟩ := answered done
  obtain ⟨sixteen, _, payloadRead⟩ := Message.Generation.length_of_envelope read
  obtain ⟨_, requestRead⟩ := Signed.exists_decode payloadRead
  have chunk := Message.Generation.chunkId_lt requestRead
  constructor
  · exact Message.Generation.Envelope.keeps_codec sixteen
      (certified.keeps readable node signs (Message.Generation.Response.keeps_codec chunk number))
  · have accepted := certified.check honest signs
    obtain ⟨signature, rfl⟩ := signs.exists_signature
    exact ⟨rfl, rfl, rfl, rfl, rfl, rfl, accepted⟩

/-- A signed payload under the names of the request comes back and is accepted. -/
theorem accepts_of_signs {c : Codec α} {request : Request} {electionId : String} {payload : α}
    {signed : Signed α}
    (read : requestCodec.decode e d = .ok request)
    (signs : keyring.service.Signs suite.signing c electionId payload signed)
    (kept : c.Keeps 3 payload) :
    (Envelope.codec (Signed.codec c)).Keeps 5 (request.reply signed) ∧
      Accepts suite.signing c keyring.platformCa request (request.reply signed) := by
  have sixteen := Message.Computation.length_of_envelope read
  constructor
  · refine Envelope.keeps_codec sixteen ?_ ?_
    · rintro _ ⟨⟩
      exact certified.keeps readable node signs kept
    · rintro e signed ⟨⟩
  · exact ⟨rfl, rfl, rfl, rfl, rfl, signed, rfl, certified.check honest signs⟩

end Engines

/-- **Every reply is authentic.** It comes in the encoding of the request, repeats the names of the
request, and is signed by a key whose chain leads to the platform, provided that the scheme accepts
what it signs. That its keys and signatures are readable follows from that in the case of Ed25519
(`Signature.Ed25519.readable_of_honest`). The node's number has 32 bits, the signature of its
certificate is a well-formed one, and the reply is a byte string that a machine can hold. -/
theorem replies_are_authentic {suite : Suite} {settings : Settings} {keyring : Key.Keyring}
    {kind : Message.Kind} {frame reply : Bytes} {state : State}
    (honest : suite.signing.Honest) (readable : suite.signing.Readable)
    (reachable : keyring.Reachable .standard suite.signing)
    (node : keyring.nodeCa.signature.Readable) (number : settings.nodeId < 2 ^ 32)
    (small : reply.length < 2 ^ 64)
    (replied : (handle suite settings keyring.service kind frame state).result = .ok (some reply)) :
    Authentic suite.signing keyring.platformCa kind frame reply := by
  have certified := reachable.certified Key.Sealing.honest_standard
  cases kind with
  | generation =>
    refine exchanged_of_handleWith (show 7 < Wire.Cbor.depthLimit by decide) small ?_ replied
    intro e d request response read done
    exact Generation.accepts_of_process honest readable certified node number read done
  | decryption =>
    refine exchanged_of_handleWith (show 5 < Wire.Cbor.depthLimit by decide) small ?_ replied
    intro e d request response read done
    obtain ⟨_, _, _, _, _, share, signed, -, -, signs, rfl⟩ := Decryption.answered done
    exact accepts_of_signs honest readable certified node read signs share.keeps_codec
  | exponentiation =>
    refine exchanged_of_handleWith (show 5 < Wire.Cbor.depthLimit by decide) small ?_ replied
    intro e d request response read done
    obtain ⟨_, _, _, _, _, share, signed, -, signs, rfl⟩ := Exponentiation.answered done
    exact accepts_of_signs honest readable certified node read signs share.keeps_codec

theorem result_handle_decryption {suite : Suite} {settings : Settings} {keys : Key.Service}
    {frame reply : Bytes} {encoding : Encoding} {request : Request} {state : State}
    (read : requestCodec.readFrame frame = .ok (encoding, request)) :
    (handle suite settings keys .decryption frame state).result = .ok (some reply) ↔
      ∃ response, (Decryption.process suite keys settings.nodeId state.store request state).result =
        .ok response ∧ reply = decryptionCodec.writeFrame encoding response :=
  result_handleWith_some read

/-- The reply to a request to decrypt, of a node that has registered the card. -/
theorem reply_is_authentic_of_small :
    Small.suite.signing.Honest ∧ Small.suite.signing.Readable ∧
    ∃ reply, reply.length < 2 ^ 64 ∧
      (handle Small.suite .default Small.keyring.service .decryption
        (Small.decryptionFrame Small.setB) (Small.ready Small.setB)).result = .ok (some reply) ∧
      Authentic Small.suite.signing Small.platform .decryption (Small.decryptionFrame Small.setB)
        reply := by
  have done : ((Decryption.process Small.suite Small.keyring.service 1
      (Small.ready Small.setB).store (Small.decryption Small.setB)
      (Small.ready Small.setB)).result.toOption.any
      fun response => (decryptionCodec.writeFrame .cbor response).length < 2 ^ 64) = true := by
    decide +kernel
  obtain ⟨response, answered, small⟩ := (Option.any_eq_true _ _).1 done
  have short := of_decide_eq_true small
  have replied : (handle Small.suite .default Small.keyring.service .decryption
      (Small.decryptionFrame Small.setB) (Small.ready Small.setB)).result =
        .ok (some (decryptionCodec.writeFrame .cbor response)) :=
    (result_handle_decryption Small.readFrame_decryptionFrame).2
      ⟨response, toOption_eq_some.1 answered, rfl⟩
  refine ⟨Small.honest_scheme, Small.readable_scheme, _, short, replied, ?_⟩
  exact replies_are_authentic Small.honest_scheme Small.readable_scheme
    (Small.keyring_reachable .standard) (Small.readable_scheme.sign Small.secretKey []) (by decide)
    short replied

end Node
end ControlComponent
