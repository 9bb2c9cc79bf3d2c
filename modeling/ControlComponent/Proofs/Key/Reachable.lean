import ControlComponent.Proofs.Key.Service
import ControlComponent.Proofs.Key.Stored

/-!
Keyrings that a node can come to have.

A keyring begins without keys. From then on signing keys and keys for card sets are created, and the
keyring is sealed and opened again; a creation that fails leaves it as it is. In every such keyring
the keys of a card set come with a signing key for the event, and a signing key with a certificate
for it. So whatever the keys of a card set have computed can be signed.
-/

namespace ControlComponent

open Signature (Scheme)

/-- What an issuer certifies is as it was asked to. -/
theorem Certificate.eq_of_issue {scheme : Scheme} {issuer certificate : Certificate}
    {secret : Signature.SecretKey} {subject : String} {key : Signature.PublicKey}
    (issued : issuer.issue scheme secret subject key = .ok certificate) :
    certificate = ⟨subject, issuer.subject, key,
      scheme.sign secret (package subject issuer.subject key)⟩ := by
  unfold issue at issued
  split at issued
  · cases issued
  · cases issued
    rfl

namespace Key.Keyring

/-- The keyrings that can come about, by creations that succeed and by creations that fail. A sealed
keyring is a byte string of less than 2^64 bytes, as all are that a machine can hold. -/
inductive Reachable (sealing : Sealing) (scheme : Scheme) : Keyring → Prop where
  | new {platformCa nodeCa : Certificate} {secret : Signature.SecretKey} {keyring : Keyring} :
      Keyring.new scheme platformCa nodeCa secret = .ok keyring →
      Reachable sealing scheme keyring
  | signingKey {keyring : Keyring} {electionId : String} {r : Randomness} :
      Reachable sealing scheme keyring →
      Reachable sealing scheme (createSigningKey scheme keyring electionId r).keyring
  | setKeys {keyring : Keyring} {spec : Spec} {r : Randomness} :
      Reachable sealing scheme keyring →
      Reachable sealing scheme (createSetKeys scheme keyring spec r).keyring
  | opened {keyring keyring' : Keyring} {password : String} {salt nonce : Bytes} :
      Reachable sealing scheme keyring → keyring.toBytes.length < 2 ^ 64 →
      salt.length = Vault.saltLength → nonce.length = Vault.nonceLength →
      unwrap sealing scheme (keyring.wrap sealing password salt nonce) password = .ok keyring' →
      Reachable sealing scheme keyring'

/-- A keyring whose card sets have their keys in their group and a signing key for their event, and
whose signing keys are the certified ones. -/
structure Sound (scheme : Scheme) (keyring : Keyring) : Prop where
  grouped : ∀ keys ∈ keyring.setKeys.entries, keys.Grouped
  signer : ∀ place keys, keyring.setKeys.get? place = some keys →
    (keyring.signingKeys.get? place.electionId).isSome
  certified : ∀ electionId key, keyring.signingKeys.get? electionId = some key →
    scheme.publicKey key.secret = key.certificate.publicKey

variable {scheme : Scheme} {keyring keyring' : Keyring}

/-! ### What a creation leaves behind -/

/-- Whether a call, if it has failed, has left the keyring as it was. -/
def Step.Spares (keyring : Keyring) (step : Step α) : Prop :=
  ∀ fault, step.result = .error fault → step.keyring = keyring

/-- What holds before a call that spares the keyring and after every success of it holds after it.
-/
theorem Step.Spares.holds {P : Keyring → Prop} {step : Step α} (spares : step.Spares keyring)
    (before : P keyring) (success : ∀ a keyring', step = ⟨.ok a, keyring'⟩ → P keyring') :
    P step.keyring := by
  obtain ⟨result, after⟩ := step
  cases result with
  | error fault => exact (spares fault rfl).symm ▸ before
  | ok a => exact success a after rfl

theorem spares_fail (fault : Fault) : (keyring.fail fault : Step α).Spares keyring :=
  fun _ _ => rfl

theorem spares_success (a : α) : Step.Spares keyring ⟨.ok a, keyring'⟩ := by
  intro fault failed
  cases failed

theorem spares_createSigningKey (electionId : String) (r : Randomness) :
    (createSigningKey scheme keyring electionId r).Spares keyring := by
  unfold createSigningKey
  split
  · exact spares_fail _
  · dsimp only
    split
    · exact spares_fail _
    · exact spares_success _

theorem spares_createSetKeys (spec : Spec) (r : Randomness) :
    (createSetKeys scheme keyring spec r).Spares keyring := by
  unfold createSetKeys
  split
  · exact spares_fail _
  split
  · exact spares_fail _
  split
  · exact spares_fail _
  · -- Both draws stay closed: opening one would run the rejection loop.
    cases drawKey spec.group 0 r with
    | mk generation r₁ =>
      dsimp only
      cases drawKey spec.group (spec.length - 1) r₁ with
      | mk encryption r₂ => exact spares_success _

/-- A signing key is created for an election event that has none, from 32 bytes, and certified by
the node. -/
theorem createSigningKey_eq_ok {electionId : String} {r : Randomness} {certificate : Certificate}
    (created : createSigningKey scheme keyring electionId r = ⟨.ok certificate, keyring'⟩) :
    ∃ secret, keyring.signingKeys.get? electionId = none ∧ secret.bytes.length = 32 ∧
      keyring.nodeCa.issue scheme keyring.nodeCaSecret (signingSubject electionId)
        (scheme.publicKey secret) = .ok certificate ∧
      keyring' = { keyring with
        signingKeys := keyring.signingKeys.put ⟨electionId, secret, certificate⟩ } := by
  unfold createSigningKey at created
  split at created
  · cases created
  · rename_i absent
    dsimp only at created
    split at created
    · cases created
    · rename_i issued
      cases created
      refine ⟨(drawSecret r).1, ?_, ?_, issued, rfl⟩
      · simpa [Table.contains] using absent
      · simp [drawSecret, Randomness.take]

/-- A key of so many exponents of a group. -/
structure Drawn (group : Group) (length : Nat) (secret : ElGamal.SecretKey) : Prop where
  group_eq : secret.group = group
  length_eq : secret.exponents.length = length
  lt_q : ∀ x ∈ secret.exponents, x < group.q

theorem drawn_drawKey (group : Group) (more : Nat) (r : Randomness) :
    Drawn group (more + 1) (drawKey group more r).1.secret := by
  have first := Randomness.below_lt group.q_pos r
  unfold drawKey
  cases drawn : r.below group.q with
  | mk x rest =>
    rw [drawn] at first
    refine ⟨rfl, ?_, ?_⟩
    · simp [Randomness.length_manyBelow]
    · intro y mem
      rcases List.mem_cons.1 mem with rfl | mem
      · exact first
      · exact Randomness.manyBelow_lt group.q_pos more rest y mem

/-- Keys of a card set as they are created: one exponent to generate from and up to `maxLength` to
decrypt with, and the public keys of both signed with a secret key. -/
structure Created (scheme : Scheme) (signer : Signature.SecretKey) (keys : SetKeys) : Prop where
  generation : Drawn keys.group 1 keys.generation.secret
  encryption : ∃ length, 1 ≤ length ∧ length ≤ maxLength ∧
    Drawn keys.group length keys.encryption.secret
  generationSignature : keys.generationSignature = scheme.sign signer
    (SignedPublicKey.message keys.generation.publicKey keys.electionId keys.setId)
  encryptionSignature : keys.encryptionSignature = scheme.sign signer
    (SignedPublicKey.message keys.encryption.publicKey keys.electionId keys.setId)

theorem Created.grouped {signer : Signature.SecretKey} {keys : SetKeys}
    (created : Created scheme signer keys) : keys.Grouped := by
  obtain ⟨_, -, -, encryption⟩ := created.encryption
  exact ⟨created.generation.group_eq, encryption.group_eq⟩

theorem exists_signingKey {electionId : String} {secret : Signature.SecretKey}
    (found : keyring.signingKey electionId = .ok secret) :
    ∃ key, keyring.signingKeys.get? electionId = some key ∧ key.secret = secret := by
  unfold signingKey at found
  split at found
  · rename_i key present
    cases found
    exact ⟨key, present, rfl⟩
  · cases found

/-- Keys are created for a card set that has none, in an election event that has a signing key, with
which they are signed. -/
theorem createSetKeys_eq_ok {spec : Spec} {r : Randomness} {published : Published}
    (created : createSetKeys scheme keyring spec r = ⟨.ok published, keyring'⟩) :
    ∃ keys signer, keys.place = ⟨spec.electionId, spec.setId⟩ ∧
      keyring.setKeys.get? keys.place = none ∧
      keyring.signingKeys.get? spec.electionId = some signer ∧
      Created scheme signer.secret keys ∧
      keyring' = { keyring with setKeys := keyring.setKeys.put keys } := by
  unfold createSetKeys at created
  split at created
  · cases created
  rename_i bounded
  split at created
  · cases created
  rename_i absent
  split at created
  · cases created
  · rename_i secret found
    obtain ⟨signer, present, rfl⟩ := exists_signingKey found
    have generationDrawn := drawn_drawKey spec.group 0 r
    -- The draws stay closed here as well.
    cases first : drawKey spec.group 0 r with
    | mk generation r₁ =>
      rw [first] at created generationDrawn
      have encryptionDrawn := drawn_drawKey spec.group (spec.length - 1) r₁
      dsimp only at created
      cases second : drawKey spec.group (spec.length - 1) r₁ with
      | mk encryption r₂ =>
        rw [second] at created encryptionDrawn
        cases created
        have length : 1 ≤ spec.length - 1 + 1 ∧ spec.length - 1 + 1 ≤ maxLength := by omega
        refine ⟨_, signer, rfl, ?_, present,
          ⟨generationDrawn, ⟨_, length.1, length.2, encryptionDrawn⟩, rfl, rfl⟩, rfl⟩
        simpa [hasSetKeys, Table.contains, SetKeys.place] using absent

/-! ### Soundness -/

theorem sound_new {platformCa nodeCa : Certificate} {secret : Signature.SecretKey}
    (made : new scheme platformCa nodeCa secret = .ok keyring) : keyring.Sound scheme := by
  obtain ⟨-, -, rfl⟩ := new_eq_ok made
  exact ⟨nofun, nofun, nofun⟩

theorem Sound.signingKey (sound : keyring.Sound scheme) {electionId : String} {r : Randomness}
    {certificate : Certificate}
    (created : createSigningKey scheme keyring electionId r = ⟨.ok certificate, keyring'⟩) :
    keyring'.Sound scheme := by
  obtain ⟨secret, -, -, issued, rfl⟩ := createSigningKey_eq_ok created
  refine ⟨sound.grouped, ?_, ?_⟩
  · intro place keys found
    rw [Table.get?_put]
    split
    · rfl
    · exact sound.signer place keys found
  · intro electionId' key found
    rw [Table.get?_put] at found
    split at found
    · cases found
      rw [Certificate.eq_of_issue issued]
    · exact sound.certified electionId' key found

theorem Sound.setKeys (sound : keyring.Sound scheme) {spec : Spec} {r : Randomness}
    {published : Published}
    (created : createSetKeys scheme keyring spec r = ⟨.ok published, keyring'⟩) :
    keyring'.Sound scheme := by
  obtain ⟨keys, signer, place, -, present, made, rfl⟩ := createSetKeys_eq_ok created
  refine ⟨?_, ?_, sound.certified⟩
  · intro keys' mem
    rcases Table.mem_putEntry mem with rfl | mem
    · exact made.grouped
    · exact sound.grouped keys' mem
  · intro place' keys' found
    rw [Table.get?_put] at found
    split at found
    · rename_i same
      rw [← same, place, present]
      rfl
    · exact sound.signer place' keys' found

/-- Every keyring that can come about is sound. -/
theorem Reachable.sound {sealing : Sealing} (honest : sealing.Honest)
    (reachable : Reachable sealing scheme keyring) : keyring.Sound scheme := by
  induction reachable with
  | new made => exact sound_new made
  | signingKey _ ih =>
    exact (spares_createSigningKey _ _).holds ih fun _ _ created => ih.signingKey created
  | setKeys _ ih =>
    exact (spares_createSetKeys _ _).holds ih fun _ _ created => ih.setKeys created
  | opened _ small hsalt hnonce opened ih =>
    obtain rfl := Keyring.unwrap_wrap honest ih.grouped small hsalt hnonce opened
    exact ih

/-- What holds of every keyring without keys and is kept by both creations when they succeed holds
of every keyring that can come about: a creation that fails leaves it as it is, and so does to be
sealed and opened again. -/
theorem Reachable.invariant {sealing : Sealing} {P : Keyring → Prop} (honest : sealing.Honest)
    (new : ∀ {platformCa nodeCa secret keyring},
      Keyring.new scheme platformCa nodeCa secret = .ok keyring → P keyring)
    (signingKey : ∀ {keyring keyring'}, P keyring → ∀ {electionId r certificate},
      createSigningKey scheme keyring electionId r = ⟨.ok certificate, keyring'⟩ → P keyring')
    (setKeys : ∀ {keyring keyring'}, P keyring → ∀ {spec r published},
      createSetKeys scheme keyring spec r = ⟨.ok published, keyring'⟩ → P keyring')
    (reachable : Reachable sealing scheme keyring) : P keyring := by
  induction reachable with
  | new made => exact new made
  | signingKey _ ih =>
    exact (spares_createSigningKey _ _).holds ih fun _ _ created => signingKey ih created
  | setKeys _ ih =>
    exact (spares_createSetKeys _ _).holds ih fun _ _ created => setKeys ih created
  | opened before small hsalt hnonce opened ih =>
    have sound := before.sound honest
    obtain rfl := Keyring.unwrap_wrap honest sound.grouped small hsalt hnonce opened
    exact ih

/-- The keys of a card set are in its group. -/
theorem Sound.grouped_service (sound : keyring.Sound scheme) : keyring.service.Grouped := by
  intro electionId setId group secret known unlocked
  obtain ⟨keys, found, rfl⟩ := setKeysOf_of_parameters known
  obtain ⟨keys', found', rfl⟩ := setKeysOf_of_generationKey unlocked
  cases found.symm.trans found'
  exact (sound.grouped keys (mem_of_setKeysOf found)).1

/-- With keys for a card set come a signing key for its event and a chain that begins with that
key's certificate. -/
theorem Sound.exists_signer (sound : keyring.Sound scheme) {electionId setId : String}
    {keys : SetKeys} (found : keyring.setKeysOf electionId setId = .ok keys) :
    ∃ secret leaf rest, keyring.signingKey electionId = .ok secret ∧
      keyring.chain electionId = .ok (leaf :: rest) ∧
      scheme.publicKey secret = leaf.publicKey := by
  unfold setKeysOf at found
  split at found
  · rename_i keys' present
    obtain ⟨key, signing⟩ := Option.isSome_iff_exists.1 (sound.signer _ _ present)
    refine ⟨key.secret, key.certificate, [keyring.nodeCa], ?_, ?_,
      sound.certified electionId key signing⟩
    · rw [Keyring.signingKey, signing]
    · rw [Keyring.chain, signing]
  · cases found

end Key.Keyring
end ControlComponent
