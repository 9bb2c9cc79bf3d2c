import ControlComponent.Proofs.Course
import ControlComponent.Proofs.Key.Reachable
import ControlComponent.Proofs.Key.Sealing
import ControlComponent.Proofs.Key.Service
import ControlComponent.Proofs.Small

/-!
No message is half done.

All three engines change the store before they sign their answer, and a failure to sign it would
leave the change without a reply. With the keys of a node this cannot happen: what an engine has
computed it has computed with the keys of a card set, and with these come a signing key and a chain
that fit each other. So a message without a reply leaves the store as it was.
-/

namespace ControlComponent.Node

open Key (Keyring)
open Message.Computation

/-- A key whose public key the first certificate of the chain holds can sign anything. -/
theorem sign_ok {scheme : Signature.Scheme} (c : Wire.Codec α) {secret : Signature.SecretKey}
    {leaf : Certificate} (rest : List Certificate)
    (fits : scheme.publicKey secret = leaf.publicKey) (payload : α) :
    ∃ signed, Signed.sign scheme c secret (leaf :: rest) payload = .ok signed := by
  rw [Signed.sign, if_neg (not_not_intro fits)]
  exact ⟨_, rfl⟩

variable {suite : Suite} {keyring : Keyring}

/-! ### Answers -/

section Answers

variable (sound : keyring.Sound suite.signing) {electionId setId : String} {keys : Key.SetKeys}

include sound

theorem Decryption.respond_ok {request : Request} (share : DecryptionShare) (state : State)
    (found : keyring.setKeysOf request.electionId request.setId = .ok keys) :
    ∃ response, (respond suite keyring.service request share state).result = .ok response := by
  obtain ⟨secret, leaf, rest, signing, chain, fits⟩ := sound.exists_signer found
  obtain ⟨signed, done⟩ := sign_ok DecryptionShare.codec rest fits share
  simp only [respond, Keyring.service, signing, chain, done]
  exact ⟨_, rfl⟩

theorem Exponentiation.respond_ok {request : Request} (share : ExponentiationShare) (state : State)
    (found : keyring.setKeysOf request.electionId request.setId = .ok keys) :
    ∃ response, (respond suite keyring.service request share state).result = .ok response := by
  obtain ⟨secret, leaf, rest, signing, chain, fits⟩ := sound.exists_signer found
  obtain ⟨signed, done⟩ := sign_ok ExponentiationShare.codec rest fits share
  simp only [respond, Keyring.service, signing, chain, done]
  exact ⟨_, rfl⟩

theorem Generation.respond_ok {payload : Message.Generation.Request} (nodeId : Nat) (group : Group)
    (outputs : List Message.Generation.Output)
    (found : keyring.setKeysOf payload.electionId payload.setId = .ok keys) :
    ∃ response, respond suite keyring.service nodeId payload group outputs = .ok response := by
  obtain ⟨secret, leaf, rest, signing, chain, fits⟩ := sound.exists_signer found
  obtain ⟨signed, done⟩ := sign_ok Message.Generation.Response.codec rest fits
    ⟨payload.tenantId, payload.electionId, payload.setId, payload.chunkId, group, outputs, nodeId⟩
  refine ⟨signed, bind_eq_ok.2 ⟨secret, mapError_eq_ok.2 signing, bind_eq_ok.2 ⟨leaf :: rest,
    mapError_eq_ok.2 chain, mapError_eq_ok.2 done⟩⟩⟩

end Answers

/-! ### Messages -/

/-- A message to which a node sends no reply, be it rejected or a failure, leaves the node's store
as it was, whatever keyring the node has come to have. -/
theorem store_eq_of_silent (reachable : keyring.Reachable .standard suite.signing)
    (settings : Settings) (kind : Message.Kind) (frame : Bytes) (state : State)
    (silent : ∀ reply,
      (handle suite settings keyring.service kind frame state).result ≠ .ok (some reply)) :
    (handle suite settings keyring.service kind frame state).state.store = state.store := by
  have sound := reachable.sound Key.Sealing.honest_standard
  cases exchange_course suite settings ⟨keyring.service, kind, frame⟩
    state with
  | refused same => exact same
  | generated _ _ _ authorized _ _ answer =>
    obtain ⟨keys, found, -⟩ :=
      Keyring.setKeysOf_of_generationKey (Generation.authorize_ok authorized).1
    obtain ⟨signed, done⟩ := Generation.respond_ok sound settings.nodeId _ _ found
    exact absurd ((answer _).2 ⟨signed, done, rfl⟩) (silent _)
  | decrypted _ _ _ _ passed _ _ answer =>
    obtain ⟨keys, found, -⟩ := Keyring.setKeysOf_of_decryptionKey passed.unlocked
    obtain ⟨response, done⟩ := Decryption.respond_ok sound _ _ found
    exact absurd ((answer _).2 ⟨response, done, rfl⟩) (silent _)
  | exponentiated _ _ _ _ _ _ passed _ answer =>
    obtain ⟨keys, found, -⟩ := Keyring.setKeysOf_of_generationKey passed.unlocked
    obtain ⟨response, done⟩ := Exponentiation.respond_ok sound _ _ found
    exact absurd ((answer _).2 ⟨response, done, rfl⟩) (silent _)

/-- A node without the keys of the card set refuses to decrypt and keeps what generation stored. -/
theorem store_eq_of_keyless :
    let before : State :=
      .initial (Small.registered Small.setB Small.cardC .empty) (Small.stream 48)
    let handled := handle Small.suite .default Small.keyless.service .decryption
      (Small.decryptionFrame Small.setB) before
    Small.keyless.Reachable .standard Small.suite.signing ∧
    (∀ reply, handled.result ≠ .ok (some reply)) ∧ handled.state.store = before.store := by
  intro before handled
  have reachable : Small.keyless.Reachable .standard Small.suite.signing := .new Small.new_keyless
  have refused : (Decryption.process Small.suite Small.keyless.service Settings.default.nodeId
      before.store (Small.decryption Small.setB) before).result.isOk = false := by decide +kernel
  have silent : ∀ reply, handled.result ≠ .ok (some reply) := by
    intro reply result
    have replied := replied_decryption Small.suite .default Small.keyless.service
      Small.readFrame_decryptionFrame before
    rw [refused] at replied
    exact Bool.eq_false_iff.1 replied (replied_iff.2 ⟨reply, result⟩)
  exact ⟨reachable, silent, store_eq_of_silent reachable .default .decryption _ before silent⟩

end ControlComponent.Node
