import ControlComponent.Message.Computation
import ControlComponent.Message.Generation
import ControlComponent.Message.Vote
import ControlComponent.Node.Decryption
import ControlComponent.Node.Exponentiation
import ControlComponent.Node.Generation
import ControlComponent.Proofs.Key.Reachable
import ControlComponent.Proofs.Signature
import ControlComponent.Proofs.Wire.CborRead

/-!
A control component that is small enough to be looked at as a whole.

Its group has eleven elements, its keys are never looked at, and whatever is signed has one and the
same signature, which is the only one that is accepted. Its keyring has keys for two card sets of
one election event.
-/

namespace ControlComponent.Small

/-! ### Functions -/

/-- The squares modulo 23. -/
def group : Group := ⟨23, 11, 2, by decide, by decide, by decide, by decide, by decide⟩

/-- The only public key. -/
def publicKey : Signature.PublicKey := ⟨1 :: List.replicate 31 0⟩

/-- The only signature. -/
def signature : Signature := ⟨List.replicate 64 0⟩

/-- The scheme that accepts the only signature. -/
def scheme : Signature.Scheme where
  publicKey _ := publicKey
  sign _ _ := signature
  verify _ _ s := if s = signature then .ok () else .error .equation

theorem honest_scheme : scheme.Honest := by
  intro secret message
  show (if signature = signature then Except.ok () else .error .equation) = .ok ()
  exact if_pos rfl

theorem readable_scheme : scheme.Readable := by
  constructor
  · intro secret
    show Signature.Ed25519.publicKeyOfBytes publicKey.bytes = .ok publicKey
    exact toOption_eq_some.1 (by decide +kernel)
  · intro secret message
    show Signature.Ed25519.signatureOfBytes signature.bytes = .ok signature
    exact toOption_eq_some.1 (by decide +kernel)

/-- Every value has the empty digest, and what is expanded is one. -/
def suite : Suite where
  hash _ := []
  expand _ length := List.replicate (length - 1) 0 ++ [1]
  signing := scheme
  overflow := .stops

/-- The endless stream of a byte. -/
def stream (b : UInt8) : Randomness := ⟨fun _ => b, 0⟩

/-! ### Keys -/

/-- The platform's certificate. -/
def platform : Certificate := ⟨"platform", "platform", publicKey, signature⟩

/-- The node's certificate. -/
def node : Certificate := ⟨"node", "platform", publicKey, signature⟩

/-- The certificate of the platform's only tenant. -/
def tenant : Certificate := ⟨"tenant", "platform", publicKey, signature⟩

/-- The certificate of the tenant's administration board. -/
def board : Certificate := ⟨"board", "tenant", publicKey, signature⟩

/-- The election event. -/
def electionId : String := "00000000000000000000000000000001"

/-- One card set. -/
def setA : String := "0000000000000000000000000000000a"

/-- The other card set. -/
def setB : String := "0000000000000000000000000000000b"

/-- The keys of a card set, with one exponent in both places. -/
def setKeys (setId : String) (exponent : Nat) : Key.SetKeys :=
  let pair : ElGamal.KeyPair := .ofSecret ⟨group, [exponent], by simp⟩
  ⟨electionId, setId, group, pair, signature, pair, signature⟩

/-- The bytes of every secret key for signing. -/
def secretKey : Signature.SecretKey := ⟨List.replicate 32 48⟩

/-- The signing key of the election event. -/
def signingKey : Key.SigningKey :=
  ⟨electionId, secretKey, ⟨Key.Keyring.signingSubject electionId, "node", publicKey, signature⟩⟩

/-- The keyring before there are keys. -/
def keyless : Key.Keyring := ⟨platform, node, secretKey, .empty, .empty⟩

/-- The keyring with the signing key. -/
def signer : Key.Keyring := { keyless with signingKeys := keyless.signingKeys.put signingKey }

/-- The keyring with the keys of one card set. -/
def halfway : Key.Keyring := { signer with setKeys := signer.setKeys.put (setKeys setA 3) }

/-- The keyring. -/
def keyring : Key.Keyring := { halfway with setKeys := halfway.setKeys.put (setKeys setB 5) }

theorem new_keyless : Key.Keyring.new scheme platform node secretKey = .ok keyless := rfl

/-- The keyring comes about by the creation of its three keys. -/
theorem keyring_reachable (sealing : Key.Sealing) : keyring.Reachable sealing scheme := by
  have signing : (Key.Keyring.createSigningKey scheme keyless electionId (stream 48)).keyring =
      signer := rfl
  have first : (Key.Keyring.createSetKeys scheme signer ⟨electionId, setA, group, 1⟩
      (stream 48)).keyring = halfway := rfl
  have second : (Key.Keyring.createSetKeys scheme halfway ⟨electionId, setB, group, 1⟩
      (stream 80)).keyring = keyring := rfl
  rw [← second, ← first, ← signing]
  exact .setKeys (.setKeys (.signingKey (.new new_keyless)))

/-! ### Requests -/

/-- One card. -/
def cardC : String := "0000000000000000000000000000000c"

/-- Another card. -/
def cardD : String := "0000000000000000000000000000000d"

/-- The request to generate return codes for one card of a card set. -/
def generation (setId cardId : String) : Message.Generation.SignedRequest where
  correlationId := ⟨List.replicate 16 0⟩
  requestId := "generation"
  payload :=
    { payload :=
        { tenantId := "tenant"
          electionId := electionId
          setId := setId
          chunkId := 0
          group := group
          inputs := [⟨cardId, ⟨2, [2]⟩, ⟨2, [2]⟩, [2]⟩]
          correctness := ⟨1⟩ }
      signature := some ⟨signature, [tenant]⟩ }

/-- The vote of a card, all of whose values are the generator. -/
def vote : String :=
  "\x7b\"election_event_id\":\"00000000000000000000000000000001\"," ++
  "\"verification_card_id\":\"0000000000000000000000000000000c\"," ++
  "\"encrypted_options\":[\"2\",\"2\"],\"cipher_text_exponentiations\":[\"2\",\"2\"]," ++
  "\"encrypted_partial_choice_codes\":[\"2\",\"2\"]," ++
  "\"exponentiation_proof\":\x7b\"e\":\"0\",\"z\":\"0\"\x7d," ++
  "\"plaintext_equality_proof\":\x7b\"e\":\"0\",\"z\":[\"0\",\"0\"]\x7d," ++
  "\"verification_card_public_key\":[\"2\"],\"verification_card_public_key_signature\":\"" ++
  "0000000000000000000000000000000000000000000000000000000000000000" ++
  "0000000000000000000000000000000000000000000000000000000000000000\"\x7d"

/-- A vote of the card with these partial choice codes and this public key. -/
def voteWith (codes cardKey : String) : String :=
  "\x7b\"election_event_id\":\"00000000000000000000000000000001\"," ++
  "\"verification_card_id\":\"0000000000000000000000000000000c\"," ++
  "\"encrypted_options\":[\"2\",\"2\"],\"cipher_text_exponentiations\":[\"2\",\"2\"]," ++
  "\"encrypted_partial_choice_codes\":" ++ codes ++ "," ++
  "\"exponentiation_proof\":\x7b\"e\":\"0\",\"z\":\"0\"\x7d," ++
  "\"plaintext_equality_proof\":\x7b\"e\":\"0\",\"z\":[\"0\",\"0\"]\x7d," ++
  "\"verification_card_public_key\":" ++ cardKey ++
  ",\"verification_card_public_key_signature\":\"" ++
  "0000000000000000000000000000000000000000000000000000000000000000" ++
  "0000000000000000000000000000000000000000000000000000000000000000\"\x7d"

/-- The vote as it is read. -/
def readVote : Message.Vote where
  electionId := electionId
  cardId := cardC
  encryptedOptions := [2, 2]
  exponentiatedOptions := [2, 2]
  encryptedPartialCodes := [2, 2]
  exponentiationProof := ⟨0, 0⟩
  plaintextEqualityProof := ⟨0, [0, 0]⟩
  cardPublicKey := [2]
  cardPublicKeySignature := signature

theorem ofText_vote : Message.Vote.ofText vote = .ok readVote :=
  toOption_eq_some.1 (by decide +kernel)

/-- What a request to decrypt brings for checking the vote. -/
def voteInput (setId : String) : Message.Computation.VoteInput where
  vote := vote
  electionKey := ⟨⟨electionId, [2]⟩, signature⟩
  cardSet := ⟨⟨setId, [2], board⟩, signature⟩

/-- What a request to decrypt asks for. -/
def decryptionInput (setId : String) : Message.Computation.Input where
  elements := some [2]
  voteInput := some (voteInput setId)
  confirmationInput := none
  certificates := some ⟨tenant, board⟩

/-- The request to decrypt for the card, under a card set. -/
def decryption (setId : String) : Message.Computation.Request where
  correlationId := ⟨List.replicate 16 0⟩
  requestId := "decryption"
  electionId := electionId
  setId := setId
  cardId := cardC
  payload := some (decryptionInput setId)

/-- The request for the share of the card's only code. -/
def choice (setId : String) : Message.Computation.Request where
  correlationId := ⟨List.replicate 16 0⟩
  requestId := "choice"
  electionId := electionId
  setId := setId
  cardId := cardC
  payload := some ⟨some [2], none, none, none⟩

/-- The request for the share of the vote cast code, with the voter's confirmation. -/
def cast (setId : String) : Message.Computation.Request where
  correlationId := ⟨List.replicate 16 0⟩
  requestId := "cast"
  electionId := electionId
  setId := setId
  cardId := cardC
  payload := some ⟨some [2], none, some ⟨"\x7b\"confirmation_key\":\"2\"\x7d"⟩, none⟩

/-- The store after the registration of a card. -/
def registered (setId cardId : String) (store : Store) : Store :=
  let payload := (generation setId cardId).payload.payload
  (Node.Generation.register payload store).addCount (Node.Generation.count payload)

/-- A node at which the card has been registered. -/
def ready (setId : String) : Node.State := .initial (registered setId cardC .empty) (stream 48)

/-- A node at which the card has been decrypted. -/
def decrypted (setId : String) : Node.State :=
  .initial ((registered setId cardC .empty).putCard (.new electionId cardC)) (stream 48)

/-- A node at which the codes of the card have been raised as well. -/
def exponentiated (setId : String) : Node.State :=
  .initial ((registered setId cardC .empty).putCard
    (Node.Exponentiation.Phase.choice.advance (.new electionId cardC))) (stream 48)

/-- The decryption for the card completes. -/
theorem exists_response : ∃ response,
    (Node.Decryption.process suite keyring.service 1 (ready setA).store (decryption setA)
      (ready setA)).result = .ok response :=
  exists_eq_ok (by decide +kernel)

/-! ### Frames -/

/-- A generation request in a frame. -/
def generationFrame (setId cardId : String) : Bytes :=
  Message.Generation.requestCodec.writeFrame .cbor (generation setId cardId)

/-- A decryption request in a frame. -/
def decryptionFrame (setId : String) : Bytes :=
  Message.Computation.requestCodec.writeFrame .cbor (decryption setId)

theorem readFrame_generationFrame {setId cardId : String}
    (known : (setId, cardId) ∈ [(setA, cardC), (setB, cardD)]) :
    Message.Generation.requestCodec.readFrame (generationFrame setId cardId) =
      .ok (.cbor, generation setId cardId) := by
  simp only [List.mem_cons, List.not_mem_nil, or_false, Prod.mk.injEq] at known
  rcases known with ⟨rfl, rfl⟩ | ⟨rfl, rfl⟩ <;>
    exact Wire.Codec.readFrame_writeFrame 9 (by decide +kernel) (by decide) (by decide +kernel)
      (toOption_eq_some.1 (by decide +kernel))

theorem readFrame_decryptionFrame :
    Message.Computation.requestCodec.readFrame (decryptionFrame setB) =
      .ok (.cbor, decryption setB) :=
  Wire.Codec.readFrame_writeFrame 9 (by decide +kernel) (by decide) (by decide +kernel)
    (toOption_eq_some.1 (by decide +kernel))

end ControlComponent.Small
