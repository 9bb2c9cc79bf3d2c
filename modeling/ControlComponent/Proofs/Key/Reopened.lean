import ControlComponent.Proofs.Key.Calls
import ControlComponent.Proofs.Replies

/-!
Sealing a keyring loses nothing.

Only secret keys are stored, in text, and whatever is read is checked again. In a keyring that can
come about all these checks succeed: the node's certificate is still the platform's, the exponents
of all keys are below the orders of their groups, and the secret keys for signing have their 32
bytes. So a keyring that has been sealed always opens, to itself.
-/

namespace ControlComponent.Key

open Wire.Codec
open Signature (Scheme)

variable {nesting : Nat}

/-! ### Codecs -/

theorem StoredSetKeys.keeps_codec {keys : StoredSetKeys}
    (generation : keys.generationSignature.Readable)
    (encryption : keys.encryptionSignature.Readable) : codec.Keeps (nesting + 2) keys :=
  keeps_record (by decide)
    ⟨keeps_text _, keeps_text _, keeps_group _, keeps_decimals _, keeps_signature generation,
      keeps_decimals _, keeps_signature encryption, trivial⟩ rfl

theorem StoredSigningKey.keeps_codec {key : StoredSigningKey}
    (readable : key.certificate.Readable) : codec.Keeps (nesting + 2) key :=
  keeps_record (by decide)
    ⟨keeps_text _, keeps_text _, Certificate.keeps_codec readable, trivial⟩ rfl

theorem Contents.keeps_codec {contents : Contents} (platformCa : contents.platformCa.Readable)
    (nodeCa : contents.nodeCa.Readable)
    (setKeys : ∀ keys ∈ contents.setKeys,
      keys.generationSignature.Readable ∧ keys.encryptionSignature.Readable)
    (signingKeys : ∀ key ∈ contents.signingKeys, key.certificate.Readable) :
    codec.Keeps (nesting + 4) contents := by
  refine keeps_record (by decide)
    ⟨Certificate.keeps_codec platformCa, Certificate.keeps_codec nodeCa, keeps_text _,
      keeps_list ?_, keeps_list ?_, trivial⟩ rfl
  · intro keys mem
    exact StoredSetKeys.keeps_codec (setKeys keys mem).1 (setKeys keys mem).2
  · intro key mem
    exact StoredSigningKey.keeps_codec (signingKeys key mem)

/-! ### Entries -/

namespace Contents

theorem loadSecret_eq_ok {secret : Signature.SecretKey} (length : secret.bytes.length = 32) :
    loadSecret (Text.Hex.encode secret.bytes) = .ok secret := by
  simp only [loadSecret, Text.Hex.decode_encode]
  rw [Signature.SecretKey.ofBytes, if_pos length]
  rfl

/-- A key whose exponents are below the order of its group is made of them again. -/
theorem ofValues_exponents {group : Group} {length : Nat} {secret : ElGamal.SecretKey}
    (drawn : Keyring.Drawn group length secret) :
    ElGamal.SecretKey.ofValues group secret.exponents = .ok secret := by
  have checked : secret.exponents.mapM group.exponent = .ok secret.exponents := by
    have each : ∀ x ∈ secret.exponents, group.exponent (id x) = .ok x := by
      intro x mem
      exact if_pos (drawn.lt_q x mem)
    have all := mapM_map_ok each
    rwa [List.map_id] at all
  refine bind_eq_ok.2 ⟨secret.exponents, checked, ?_⟩
  rw [ElGamal.SecretKey.ofExponents, dif_neg secret.exponents_ne]
  exact congrArg Except.ok (secretKey_eq drawn.group_eq.symm rfl)

theorem loadSetKeys_eq_ok {scheme : Scheme} {signer : Signature.SecretKey} {keys : SetKeys}
    (created : Keyring.Created scheme signer keys) :
    loadSetKeys (storeSetKeys keys) = .ok keys := by
  obtain ⟨length, -, -, encryption⟩ := created.encryption
  refine bind_eq_ok.2 ⟨keys.generation.secret, ?_, bind_eq_ok.2 ⟨keys.encryption.secret, ?_, ?_⟩⟩
  · exact mapError_eq_ok.2 (ofValues_exponents created.generation)
  · exact mapError_eq_ok.2 (ofValues_exponents encryption)
  · rw [ElGamal.KeyPair.ofSecret_secret, ElGamal.KeyPair.ofSecret_secret]
    rfl

theorem loadSigningKey_eq_ok {key : SigningKey} (length : key.secret.bytes.length = 32) :
    loadSigningKey (storeSigningKey key) = .ok key :=
  bind_eq_ok.2 ⟨key.secret, loadSecret_eq_ok length, rfl⟩

end Contents

/-! ### Keyrings -/

namespace Keyring

variable {sealing : Sealing} {scheme : Scheme} {keyring : Keyring}

theorem new_of_certified (certified : keyring.Certified scheme) :
    new scheme keyring.platformCa keyring.nodeCa keyring.nodeCaSecret =
      .ok ⟨keyring.platformCa, keyring.nodeCa, keyring.nodeCaSecret, .empty, .empty⟩ := by
  unfold new
  rw [certified.node]
  simp only
  rw [if_neg (not_not_intro certified.secret)]

/-- All checks of what is stored succeed. -/
theorem toKeyring_eq_ok (intact : keyring.Intact scheme) (certified : keyring.Certified scheme)
    (length : keyring.nodeCaSecret.bytes.length = 32) :
    (Contents.ofKeyring keyring).toKeyring scheme = .ok keyring := by
  have setKeys : (keyring.setKeys.entries.map Contents.storeSetKeys).mapM Contents.loadSetKeys =
      .ok keyring.setKeys.entries := by
    refine mapM_map_ok ?_
    intro keys mem
    obtain ⟨signer, -, created⟩ := intact.created _ keys (Table.get?_of_mem mem)
    exact Contents.loadSetKeys_eq_ok created
  have signingKeys : (keyring.signingKeys.entries.map Contents.storeSigningKey).mapM
      Contents.loadSigningKey = .ok keyring.signingKeys.entries := by
    refine mapM_map_ok ?_
    intro key mem
    exact Contents.loadSigningKey_eq_ok (intact.length_secret _ key (Table.get?_of_mem mem))
  refine bind_eq_ok.2 ⟨keyring.nodeCaSecret, Contents.loadSecret_eq_ok length,
    bind_eq_ok.2 ⟨_, new_of_certified certified,
      bind_eq_ok.2 ⟨_, setKeys, bind_eq_ok.2 ⟨_, signingKeys, ?_⟩⟩⟩⟩
  rw [Table.ofList_entries, Table.ofList_entries]
  rfl

/-- Everything in a keyring that is stored is read back. -/
theorem keeps_ofKeyring (readable : scheme.Readable) (intact : keyring.Intact scheme)
    (certified : keyring.Certified scheme) (platformCa : keyring.platformCa.Readable)
    (nodeCa : keyring.nodeCa.signature.Readable) :
    Contents.codec.Keeps (nesting + 4) (Contents.ofKeyring keyring) := by
  have nodeKey := readable.publicKey keyring.nodeCaSecret
  rw [certified.secret] at nodeKey
  refine Contents.keeps_codec platformCa ⟨nodeKey, nodeCa⟩ ?_ ?_
  · intro stored mem
    obtain ⟨keys, among, rfl⟩ := List.mem_map.1 mem
    obtain ⟨signer, -, created⟩ := intact.created _ keys (Table.get?_of_mem among)
    constructor
    · rw [Contents.storeSetKeys, created.generationSignature]
      exact readable.sign _ _
    · rw [Contents.storeSetKeys, created.encryptionSignature]
      exact readable.sign _ _
  · intro stored mem
    obtain ⟨key, among, rfl⟩ := List.mem_map.1 mem
    obtain ⟨subject, issued⟩ := certified.issued _ key (Table.get?_of_mem among)
    exact Certificate.readable_of_issue readable issued

theorem ofBytes_eq_ok (readable : scheme.Readable) (intact : keyring.Intact scheme)
    (certified : keyring.Certified scheme) (platformCa : keyring.platformCa.Readable)
    (nodeCa : keyring.nodeCa.signature.Readable)
    (length : keyring.nodeCaSecret.bytes.length = 32) (small : keyring.toBytes.length < 2 ^ 64) :
    ofBytes scheme keyring.toBytes = .ok keyring := by
  have kept : Contents.codec.Keeps 4 (Contents.ofKeyring keyring) :=
    keeps_ofKeyring readable intact certified platformCa nodeCa
  have read : Contents.codec.read .cbor keyring.toBytes = .ok (Contents.ofKeyring keyring) :=
    kept.read (by decide) small
  rw [ofBytes, read]
  exact toKeyring_eq_ok intact certified length

/-- **Sealing loses nothing.** Every keyring that can come about opens under the password that it
was sealed under, to itself, whatever the salt and the nonce; so the opened keyring answers every
question as the sealed one does. What is shorter than 48 bytes or does not begin with the mark is no
sealed keyring.

The certificates that a keyring begins with and the node's secret key are well-formed, as everything
made by the scheme is, and a keyring is a byte string that a machine can hold. -/
theorem unwrap_wrap_eq_ok (sealed : sealing.Honest) (readable : scheme.Readable)
    (reachable : Reachable sealing scheme keyring) (platformCa : keyring.platformCa.Readable)
    (nodeCa : keyring.nodeCa.signature.Readable)
    (length : keyring.nodeCaSecret.bytes.length = 32) (small : keyring.toBytes.length < 2 ^ 64) :
    (∀ password salt nonce, salt.length = 16 → nonce.length = 12 →
      unwrap sealing scheme (keyring.wrap sealing password salt nonce) password = .ok keyring) ∧
    ∀ container password, container.length < 48 ∨ ¬ Bytes.ofText "RCKS" <+: container →
      unwrap sealing scheme container password = .error (.invalidStore .notSealed) := by
  constructor
  · intro password salt nonce hsalt hnonce
    refine bind_eq_ok.2 ⟨keyring.toBytes, Vault.unwrap_wrap sealed hsalt hnonce _, ?_⟩
    exact ofBytes_eq_ok readable (reachable.intact sealed) (reachable.certified sealed) platformCa
      nodeCa length small
  · intro container password wrong
    have mark : Bytes.ofText "RCKS" = Vault.mark := by decide
    have refused : container.length < Vault.minLength ∨
        container.take Vault.mark.length ≠ Vault.mark := by
      refine wrong.imp_right ?_
      intro unmarked marked
      refine unmarked ?_
      rw [mark, List.prefix_iff_eq_take, marked]
    rw [unwrap, Vault.unwrap, if_pos refused]
    rfl

/-- The keyring with keys for two card sets, sealed and opened. -/
theorem unwrap_wrap_small :
    Small.keyring.Reachable .standard Small.scheme ∧ Small.keyring.toBytes.length < 2 ^ 64 ∧
    unwrap .standard Small.scheme
      (Small.keyring.wrap .standard "password" (List.replicate 16 7) (List.replicate 12 7))
      "password" = .ok Small.keyring ∧
    unwrap .standard Small.scheme (Bytes.ofText "RCKS") "password" =
      .error (.invalidStore .notSealed) := by
  have reachable := Small.keyring_reachable .standard
  have small : Small.keyring.toBytes.length < 2 ^ 64 := by decide +kernel
  have signature : Small.signature.Readable := Small.readable_scheme.sign Small.secretKey []
  have platform : Small.platform.Readable :=
    ⟨Small.readable_scheme.publicKey Small.secretKey, signature⟩
  obtain ⟨opens, refuses⟩ := unwrap_wrap_eq_ok Sealing.honest_standard Small.readable_scheme
    reachable platform signature rfl small
  refine ⟨reachable, small, opens _ _ _ ?_ ?_, refuses _ _ (.inl ?_)⟩
  · exact List.length_replicate
  · exact List.length_replicate
  · decide

end Keyring
end ControlComponent.Key
