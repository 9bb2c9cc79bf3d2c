import ControlComponent.Proofs.Key.Reachable
import ControlComponent.Proofs.Signature

/-!
The certificates in a keyring.

A keyring begins with a node certificate that the platform has issued for the node's secret key, and
every signing key comes with a certificate that the node has issued for it. So the chain of every
signing key leads to the platform, and whatever is signed with the key is accepted by whoever trusts
the platform, provided that the scheme accepts what it signs.
-/

namespace ControlComponent

open Signature (Scheme)

/-! ### Certificates -/

namespace Certificate

variable {scheme : Scheme} {issuer certificate : Certificate} {secret : Signature.SecretKey}
  {subject : String} {key : Signature.PublicKey}

/-- A certificate whose key and signature are read back. -/
structure Readable (certificate : Certificate) : Prop where
  publicKey : certificate.publicKey.Readable
  signature : certificate.signature.Readable

/-- What is signed with the key that belongs to a public key is accepted under the public key. -/
theorem checkSignature_sign (honest : scheme.Honest) (own : scheme.publicKey secret = key)
    (message : Bytes) :
    checkSignature scheme key message (scheme.sign secret message) = .ok () := by
  rw [checkSignature, ← own, honest]

/-- A certificate that an issuer has made is accepted as the issuer's. -/
theorem checkIssuer_of_issue (honest : scheme.Honest)
    (issued : issuer.issue scheme secret subject key = .ok certificate) :
    certificate.checkIssuer scheme issuer = .ok () := by
  have own : scheme.publicKey secret = issuer.publicKey := by
    unfold issue at issued
    split at issued
    · cases issued
    · rename_i own
      exact Decidable.not_not.1 own
  rw [eq_of_issue issued, checkIssuer, if_neg (not_not_intro rfl)]
  exact checkSignature_sign honest own _

/-- A certificate for a key of the scheme is read back. -/
theorem readable_of_issue (readable : scheme.Readable) {owner : Signature.SecretKey}
    (issued : issuer.issue scheme secret subject (scheme.publicKey owner) = .ok certificate) :
    certificate.Readable := by
  rw [eq_of_issue issued]
  exact ⟨readable.publicKey owner, readable.sign secret _⟩

end Certificate

/-! ### Keyrings -/

namespace Key.Keyring

/-- A keyring all of whose certificates have been issued by those who should. -/
structure Certified (scheme : Scheme) (keyring : Keyring) : Prop where
  node : Certificate.checkChain scheme keyring.platformCa [keyring.nodeCa] = .ok ()
  secret : scheme.publicKey keyring.nodeCaSecret = keyring.nodeCa.publicKey
  issued : ∀ electionId key, keyring.signingKeys.get? electionId = some key →
    ∃ subject, keyring.nodeCa.issue scheme keyring.nodeCaSecret subject
      (scheme.publicKey key.secret) = .ok key.certificate

variable {scheme : Scheme} {keyring keyring' : Keyring}

theorem certified_new {platformCa nodeCa : Certificate} {secret : Signature.SecretKey}
    (made : new scheme platformCa nodeCa secret = .ok keyring) : keyring.Certified scheme := by
  obtain ⟨issued, own, rfl⟩ := new_eq_ok made
  refine ⟨issued, own, ?_⟩
  rintro electionId key ⟨⟩

theorem Certified.signingKey (certified : keyring.Certified scheme) {electionId : String}
    {r : Randomness} {certificate : Certificate}
    (created : createSigningKey scheme keyring electionId r = ⟨.ok certificate, keyring'⟩) :
    keyring'.Certified scheme := by
  obtain ⟨secret, -, -, issued, rfl⟩ := createSigningKey_eq_ok created
  refine ⟨certified.node, certified.secret, ?_⟩
  intro electionId' key found
  rw [Table.get?_put] at found
  split at found
  · cases found
    exact ⟨_, issued⟩
  · exact certified.issued electionId' key found

/-- Keys for a card set come without certificates. -/
theorem Certified.setKeys (certified : keyring.Certified scheme) {spec : Spec} {r : Randomness}
    {published : Published}
    (created : createSetKeys scheme keyring spec r = ⟨.ok published, keyring'⟩) :
    keyring'.Certified scheme := by
  obtain ⟨keys, signer, -, -, -, -, rfl⟩ := createSetKeys_eq_ok created
  exact ⟨certified.node, certified.secret, certified.issued⟩

/-- In every keyring that can come about, all certificates have been issued by those who should. -/
theorem Reachable.certified {sealing : Sealing} (honest : sealing.Honest)
    (reachable : Reachable sealing scheme keyring) : keyring.Certified scheme :=
  reachable.invariant honest certified_new Certified.signingKey Certified.setKeys

/-! ### Signed payloads -/

variable {electionId : String}

/-- The chain of a signing key is its certificate, which the node has issued, and that of the
node. -/
theorem Certified.exists_chain (certified : keyring.Certified scheme)
    {secret : Signature.SecretKey} {chain : List Certificate}
    (signing : keyring.signingKey electionId = .ok secret)
    (chained : keyring.chain electionId = .ok chain) :
    ∃ certificate subject, chain = [certificate, keyring.nodeCa] ∧
      keyring.nodeCa.issue scheme keyring.nodeCaSecret subject (scheme.publicKey secret) =
        .ok certificate := by
  unfold Keyring.signingKey at signing
  unfold Keyring.chain at chained
  split at signing
  · rename_i key found
    cases signing
    rw [found] at chained
    cases chained
    obtain ⟨subject, issued⟩ := certified.issued electionId key found
    exact ⟨key.certificate, subject, rfl, issued⟩
  · cases signing

/-- The chain of a signing key leads to the platform. -/
theorem Certified.checkChain (certified : keyring.Certified scheme) (honest : scheme.Honest)
    {certificate : Certificate} {subject : String} {key : Signature.PublicKey}
    (issued : keyring.nodeCa.issue scheme keyring.nodeCaSecret subject key = .ok certificate) :
    Certificate.checkChain scheme keyring.platformCa [certificate, keyring.nodeCa] = .ok () :=
  bind_eq_ok.2 ⟨(), Certificate.checkIssuer_of_issue honest issued, certified.node⟩

end Key.Keyring
end ControlComponent
