import ControlComponent.Proofs.Key.Certified
import ControlComponent.Proofs.Key.Sealing
import ControlComponent.Proofs.Small

/-!
Calls to a keyring, one after another.

A keyring is asked for signing keys and for keys for card sets, and is sealed and opened again. In
whatever order that is done and whichever of the calls fail, the keys of a card set stay as they
were created: exponents of the group of the card set, with public keys that are signed with the
signing key of the event, whose certificate leads to the platform. A call that fails leaves the
keyring as it is, and one that succeeds takes nothing away.
-/

namespace ControlComponent.Key.Keyring

open Signature (Scheme)

variable {sealing : Sealing} {scheme : Scheme} {keyring keyring' : Keyring}

/-! ### Keys as they were created -/

/-- A keyring whose keys are as they were created. -/
structure Intact (scheme : Scheme) (keyring : Keyring) : Prop where
  created : ∀ place keys, keyring.setKeys.get? place = some keys →
    ∃ signer, keyring.signingKeys.get? place.electionId = some signer ∧
      Created scheme signer.secret keys
  length_secret : ∀ electionId key, keyring.signingKeys.get? electionId = some key →
    key.secret.bytes.length = 32

theorem intact_new {platformCa nodeCa : Certificate} {secret : Signature.SecretKey}
    (made : new scheme platformCa nodeCa secret = .ok keyring) : keyring.Intact scheme := by
  obtain ⟨-, -, rfl⟩ := new_eq_ok made
  constructor
  · rintro place keys ⟨⟩
  · rintro electionId key ⟨⟩

/-- The signing keys that card sets rely on are there already, and are not replaced. -/
theorem Intact.signingKey (intact : keyring.Intact scheme) {electionId : String} {r : Randomness}
    {certificate : Certificate}
    (created : createSigningKey scheme keyring electionId r = ⟨.ok certificate, keyring'⟩) :
    keyring'.Intact scheme := by
  obtain ⟨secret, absent, length, -, rfl⟩ := createSigningKey_eq_ok created
  constructor
  · intro place keys found
    obtain ⟨signer, present, made⟩ := intact.created place keys found
    have other : electionId ≠ place.electionId := by
      rintro rfl
      cases absent.symm.trans present
    exact ⟨signer, (Table.get?_put_of_ne _ other).trans present, made⟩
  · intro electionId' key found
    rw [Table.get?_put] at found
    split at found
    · cases found
      exact length
    · exact intact.length_secret electionId' key found

theorem Intact.setKeys (intact : keyring.Intact scheme) {spec : Spec} {r : Randomness}
    {published : Published}
    (created : createSetKeys scheme keyring spec r = ⟨.ok published, keyring'⟩) :
    keyring'.Intact scheme := by
  obtain ⟨keys, signer, place, -, present, made, rfl⟩ := createSetKeys_eq_ok created
  refine ⟨?_, intact.length_secret⟩
  intro place' keys' found
  rw [Table.get?_put] at found
  split at found
  · rename_i same
    cases found
    rw [← same, place]
    exact ⟨signer, present, made⟩
  · exact intact.created place' keys' found

/-- In every keyring that can come about, the keys are as they were created. -/
theorem Reachable.intact (honest : sealing.Honest) (reachable : Reachable sealing scheme keyring) :
    keyring.Intact scheme :=
  reachable.invariant honest intact_new Intact.signingKey Intact.setKeys

/-! ### Keys that serve -/

/-- The public key that belongs to a drawn key: the powers of the generator. -/
theorem Drawn.publicKey {group : Group} {length : Nat} {pair : ElGamal.KeyPair}
    (drawn : Drawn group length pair.secret) :
    pair.publicKey.group = group ∧
      pair.publicKey.values = pair.secret.exponents.map fun x => group.g ^ x % group.p := by
  obtain rfl := drawn.group_eq
  rw [pair.publicKey_eq]
  refine ⟨rfl, ?_⟩
  refine List.map_congr_left ?_
  intro x _
  exact Modular.power_eq _ _ _

/-- Keys of a card set that everything which computes with them can rely on: both key pairs are of
the card set's group and of the right lengths, the event has a signing key with a certificate that
leads to the platform, and both public keys are signed with it, for this event and card set. -/
structure Serves (scheme : Scheme) (keyring : Keyring) (electionId setId : String)
    (keys : SetKeys) : Prop where
  generation : Drawn keys.group 1 keys.generation.secret
  encryption : ∃ length, 1 ≤ length ∧ length ≤ 120 ∧ Drawn keys.group length keys.encryption.secret
  publicKeys : ∀ pair ∈ [keys.generation, keys.encryption],
    pair.publicKey.group = keys.group ∧
      pair.publicKey.values = pair.secret.exponents.map fun x => keys.group.g ^ x % keys.group.p
  signed : ∃ secret leaf issuers, keyring.signingKey electionId = .ok secret ∧
    keyring.chain electionId = .ok (leaf :: issuers) ∧
    scheme.publicKey secret = leaf.publicKey ∧
    Certificate.checkChain scheme keyring.platformCa (leaf :: issuers) = .ok () ∧
    SignedPublicKey.check scheme leaf.publicKey electionId setId
      ⟨keys.generation.publicKey, keys.generationSignature⟩ = .ok () ∧
    SignedPublicKey.check scheme leaf.publicKey electionId setId
      ⟨keys.encryption.publicKey, keys.encryptionSignature⟩ = .ok ()

/-- In every keyring that can come about, the keys of every card set serve. -/
theorem Reachable.serves (sealed : sealing.Honest) (honest : scheme.Honest)
    (reachable : Reachable sealing scheme keyring) {electionId setId : String} {keys : SetKeys}
    (found : keyring.setKeysOf electionId setId = .ok keys) :
    keyring.Serves scheme electionId setId keys := by
  have present : keyring.setKeys.get? ⟨electionId, setId⟩ = some keys := by
    unfold setKeysOf at found
    split at found
    · cases found
      assumption
    · cases found
  obtain ⟨signer, signing, made⟩ := (reachable.intact sealed).created _ _ present
  obtain ⟨subject, issued⟩ := (reachable.certified sealed).issued electionId signer signing
  have place : keys.place = ⟨electionId, setId⟩ := Table.key_of_get? present
  have own : scheme.publicKey signer.secret = signer.certificate.publicKey :=
    (reachable.sound sealed).certified electionId signer signing
  obtain ⟨length, least, most, encryption⟩ := made.encryption
  refine ⟨made.generation, ⟨length, least, most, encryption⟩, ?_, ?_⟩
  · intro pair mem
    simp only [List.mem_cons, List.not_mem_nil, or_false] at mem
    rcases mem with rfl | rfl
    · exact made.generation.publicKey
    · exact encryption.publicKey
  · refine ⟨signer.secret, signer.certificate, [keyring.nodeCa], ?_, ?_, own, ?_, ?_, ?_⟩
    · rw [Keyring.signingKey, signing]
    · rw [Keyring.chain, signing]
    · exact (reachable.certified sealed).checkChain honest issued
    · cases place
      rw [made.generationSignature]
      exact Certificate.checkSignature_sign honest own _
    · cases place
      rw [made.encryptionSignature]
      exact Certificate.checkSignature_sign honest own _

/-! ### Calls -/

/-- What a keyring can be asked for. -/
inductive Call where
  | createSigningKey (electionId : String) (r : Randomness)
  | createSetKeys (spec : Spec) (r : Randomness)
  /-- To be sealed under a password, with a salt and a nonce drawn at random, and opened again. -/
  | reopen (password : String) (r : Randomness)

/-- The step without what it hands back. -/
def Step.forget (step : Step α) : Step Unit := ⟨step.result.map fun _ => (), step.keyring⟩

/-- What a call leaves behind. If a sealed keyring does not open, there is the one that was sealed.
-/
def perform (sealing : Sealing) (scheme : Scheme) (keyring : Keyring) : Call → Step Unit
  | .createSigningKey electionId r => (createSigningKey scheme keyring electionId r).forget
  | .createSetKeys spec r => (createSetKeys scheme keyring spec r).forget
  | .reopen password r =>
    let (salt, nonce) := (Vault.draw r).1
    match unwrap sealing scheme (keyring.wrap sealing password salt nonce) password with
    | .error fault => keyring.fail fault
    | .ok opened => ⟨.ok (), opened⟩

/-- The keyring after a call. -/
def after (sealing : Sealing) (scheme : Scheme) (keyring : Keyring) (call : Call) : Keyring :=
  (keyring.perform sealing scheme call).keyring

/-- The keyring after calls one after another. -/
def afterAll (sealing : Sealing) (scheme : Scheme) (keyring : Keyring) (calls : List Call) :
    Keyring :=
  calls.foldl (after sealing scheme) keyring

/-- A keyring that has everything which another one has. -/
structure Keeps (keyring keyring' : Keyring) : Prop where
  platformCa : keyring'.platformCa = keyring.platformCa
  nodeCa : keyring'.nodeCa = keyring.nodeCa
  nodeCaSecret : keyring'.nodeCaSecret = keyring.nodeCaSecret
  setKeys : ∀ place keys, keyring.setKeys.get? place = some keys →
    keyring'.setKeys.get? place = some keys
  signingKeys : ∀ electionId key, keyring.signingKeys.get? electionId = some key →
    keyring'.signingKeys.get? electionId = some key

theorem Keeps.refl (keyring : Keyring) : Keeps keyring keyring := by
  refine ⟨rfl, rfl, rfl, ?_, ?_⟩
  · intro _ _ found
    exact found
  · intro _ _ found
    exact found

theorem Keeps.trans {keyring'' : Keyring} (first : Keeps keyring keyring')
    (second : Keeps keyring' keyring'') : Keeps keyring keyring'' where
  platformCa := second.platformCa.trans first.platformCa
  nodeCa := second.nodeCa.trans first.nodeCa
  nodeCaSecret := second.nodeCaSecret.trans first.nodeCaSecret
  setKeys place keys found := second.setKeys place keys (first.setKeys place keys found)
  signingKeys electionId key found :=
    second.signingKeys electionId key (first.signingKeys electionId key found)

theorem Step.Spares.forget {step : Step α} (spares : step.Spares keyring) :
    step.forget.Spares keyring :=
  fun fault failed => spares fault (map_eq_error.1 failed)

/-- A call that fails leaves the keyring as it was. -/
theorem spares_perform (call : Call) : (keyring.perform sealing scheme call).Spares keyring := by
  cases call with
  | createSigningKey electionId r => exact (spares_createSigningKey electionId r).forget
  | createSetKeys spec r => exact (spares_createSetKeys spec r).forget
  | reopen password r =>
    unfold perform
    dsimp only
    split
    · exact spares_fail _
    · exact spares_success _

/-- To be sealed and opened again leaves a keyring as it is, also if it does not open. -/
theorem Reachable.after_reopen (sealed : sealing.Honest)
    (reachable : Reachable sealing scheme keyring) (small : keyring.toBytes.length < 2 ^ 64)
    (password : String) (r : Randomness) :
    keyring.after sealing scheme (.reopen password r) = keyring := by
  have hsalt : (Vault.draw r).1.1.length = Vault.saltLength := by
    simp [Vault.draw, Randomness.take]
  have hnonce : (Vault.draw r).1.2.length = Vault.nonceLength := by
    simp [Vault.draw, Randomness.take]
  have grouped := (reachable.sound sealed).grouped
  unfold Keyring.after perform
  dsimp only
  split
  · rfl
  · rename_i opened
    exact Keyring.unwrap_wrap sealed grouped small hsalt hnonce opened

theorem keeps_createSigningKey (electionId : String) (r : Randomness) :
    Keeps keyring (createSigningKey scheme keyring electionId r).keyring := by
  refine (spares_createSigningKey electionId r).holds (.refl _) ?_
  intro certificate keyring' created
  obtain ⟨secret, absent, -, -, rfl⟩ := createSigningKey_eq_ok created
  refine ⟨rfl, rfl, rfl, fun _ _ found => found, ?_⟩
  intro electionId' key found
  have other : electionId ≠ electionId' := by
    rintro rfl
    cases absent.symm.trans found
  exact (Table.get?_put_of_ne _ other).trans found

theorem keeps_createSetKeys (spec : Spec) (r : Randomness) :
    Keeps keyring (createSetKeys scheme keyring spec r).keyring := by
  refine (spares_createSetKeys spec r).holds (.refl _) ?_
  intro published keyring' created
  obtain ⟨keys, signer, -, absent, -, -, rfl⟩ := createSetKeys_eq_ok created
  refine ⟨rfl, rfl, rfl, ?_, fun _ _ found => found⟩
  intro place keys' found
  have other : keys.place ≠ place := by
    rintro rfl
    cases absent.symm.trans found
  exact (Table.get?_put_of_ne _ other).trans found

/-- What a call leaves behind can come about and has everything that was there, whether or not the
call has succeeded. -/
theorem Reachable.after (sealed : sealing.Honest) (reachable : Reachable sealing scheme keyring)
    (small : keyring.toBytes.length < 2 ^ 64) (call : Call) :
    Reachable sealing scheme (keyring.after sealing scheme call) ∧
      Keeps keyring (keyring.after sealing scheme call) := by
  cases call with
  | createSigningKey electionId r =>
    exact ⟨.signingKey reachable, keeps_createSigningKey electionId r⟩
  | createSetKeys spec r => exact ⟨.setKeys reachable, keeps_createSetKeys spec r⟩
  | reopen password r =>
    rw [reachable.after_reopen sealed small]
    exact ⟨reachable, .refl _⟩

/-- After any calls, a keyring has everything that it had. -/
theorem Reachable.afterAll (sealed : sealing.Honest) (reachable : Reachable sealing scheme keyring)
    (calls : List Call)
    (small : ∀ past, past <+: calls →
      (keyring.afterAll sealing scheme past).toBytes.length < 2 ^ 64) :
    Reachable sealing scheme (keyring.afterAll sealing scheme calls) ∧
      Keeps keyring (keyring.afterAll sealing scheme calls) := by
  induction calls generalizing keyring with
  | nil => exact ⟨reachable, .refl _⟩
  | cons call rest ih =>
    obtain ⟨next, kept⟩ := reachable.after sealed (small [] List.nil_prefix) call
    obtain ⟨last, keptAll⟩ := ih next fun past ahead =>
      small (call :: past) (List.cons_prefix_cons.2 ⟨rfl, ahead⟩)
    exact ⟨last, kept.trans keptAll⟩

/-- Whatever a new keyring is asked for, in whatever order and whichever calls fail: the keys that
it has for a card set serve; it has everything that it has had before; a call that fails leaves it
as it is, and what a call that succeeds leaves behind has everything that was there. A keyring as a
byte string has less than 2^64 bytes, as all have that a machine can hold. -/
theorem serves_afterAll (sealed : sealing.Honest) (honest : scheme.Honest)
    {platformCa nodeCa : Certificate} {secret : Signature.SecretKey} {blank : Keyring}
    (made : new scheme platformCa nodeCa secret = .ok blank) (calls : List Call)
    (small : ∀ past, past <+: calls →
      (blank.afterAll sealing scheme past).toBytes.length < 2 ^ 64) :
    (∀ electionId setId keys,
      (blank.afterAll sealing scheme calls).setKeysOf electionId setId = .ok keys →
        (blank.afterAll sealing scheme calls).Serves scheme electionId setId keys) ∧
    (∀ past, past <+: calls →
      Keeps (blank.afterAll sealing scheme past) (blank.afterAll sealing scheme calls)) ∧
    ∀ call,
      let step := (blank.afterAll sealing scheme calls).perform sealing scheme call
      blank.afterAll sealing scheme (calls ++ [call]) = step.keyring ∧
      (∀ fault, step.result = .error fault →
        step.keyring = blank.afterAll sealing scheme calls) ∧
      (step.result = .ok () → Keeps (blank.afterAll sealing scheme calls) step.keyring) := by
  have reachable := ((Reachable.new made).afterAll sealed calls small).1
  refine ⟨?_, ?_, ?_⟩
  · intro electionId setId keys found
    exact reachable.serves sealed honest found
  · rintro past ⟨later, rfl⟩
    have before := (Reachable.new made).afterAll sealed past fun past' ahead =>
      small past' (ahead.trans (List.prefix_append past later))
    have joined : ∀ past', blank.afterAll sealing scheme (past ++ past') =
        (blank.afterAll sealing scheme past).afterAll sealing scheme past' := by
      intro past'
      exact List.foldl_append
    have kept := before.1.afterAll sealed later fun past' ahead => by
      rw [← joined]
      exact small (past ++ past') ((List.prefix_append_right_inj past).2 ahead)
    rw [joined]
    exact kept.2
  · intro call step
    refine ⟨?_, spares_perform call, fun _ => ?_⟩
    · simp [Keyring.afterAll, Keyring.after, step]
    · exact (reachable.after sealed (small calls List.prefix_rfl) call).2

/-- Keys for a card set are asked for too early, then for a signing key; the keyring is reopened,
and the keys are asked for again. -/
def smallCalls : List Call :=
  [.createSetKeys ⟨Small.electionId, Small.setA, Small.group, 1⟩ (Small.stream 48),
    .createSigningKey Small.electionId (Small.stream 48),
    .reopen "password" (Small.stream 7),
    .createSetKeys ⟨Small.electionId, Small.setA, Small.group, 1⟩ (Small.stream 48)]

theorem serves_smallCalls :
    (∀ past, past <+: smallCalls →
      (Small.keyless.afterAll .standard Small.scheme past).toBytes.length < 2 ^ 64) ∧
    (Small.keyless.afterAll .standard Small.scheme smallCalls).Serves Small.scheme
      Small.electionId Small.setA (Small.setKeys Small.setA 3) := by
  have early : Small.keyless.after .standard Small.scheme (.createSetKeys
      ⟨Small.electionId, Small.setA, Small.group, 1⟩ (Small.stream 48)) = Small.keyless := rfl
  have signing : Small.keyless.after .standard Small.scheme
      (.createSigningKey Small.electionId (Small.stream 48)) = Small.signer := rfl
  have created : Small.signer.after .standard Small.scheme (.createSetKeys
      ⟨Small.electionId, Small.setA, Small.group, 1⟩ (Small.stream 48)) = Small.halfway := rfl
  have keyless : Small.keyless.toBytes.length < 2 ^ 64 := by decide +kernel
  have signer : Small.signer.toBytes.length < 2 ^ 64 := by decide +kernel
  have halfway : Small.halfway.toBytes.length < 2 ^ 64 := by decide +kernel
  have reachable : Reachable .standard Small.scheme Small.signer := by
    rw [← signing]
    exact ((Reachable.new Small.new_keyless).after Sealing.honest_standard keyless _).1
  have reopened := reachable.after_reopen Sealing.honest_standard signer "password"
    (Small.stream 7)
  have small : ∀ past, past <+: smallCalls →
      (Small.keyless.afterAll .standard Small.scheme past).toBytes.length < 2 ^ 64 := by
    intro past ahead
    simp only [smallCalls, List.prefix_cons_iff, List.prefix_nil] at ahead
    rcases ahead with rfl | ⟨_, rfl, rfl | ⟨_, rfl, rfl | ⟨_, rfl, rfl | ⟨_, rfl, rfl⟩⟩⟩⟩ <;>
      simp only [Keyring.afterAll, List.foldl_cons, List.foldl_nil, early, signing, reopened,
        created]
    · exact keyless
    · exact keyless
    · exact signer
    · exact signer
    · exact halfway
  refine ⟨small, ?_⟩
  have all := serves_afterAll Sealing.honest_standard Small.honest_scheme Small.new_keyless
    smallCalls small
  refine all.1 _ _ _ ?_
  simp only [smallCalls, Keyring.afterAll, List.foldl_cons, List.foldl_nil, early, signing,
    reopened, created]
  rfl

end ControlComponent.Key.Keyring
