import ControlComponent.Key.Contents
import ControlComponent.Proofs.Lookup
import ControlComponent.Proofs.Wire.CborRead
import ControlComponent.Proofs.Wire.Faithful

/-!
Stored keyrings.

A keyring that is sealed and opened again under its password, if it opens, is the keyring that was
sealed. What makes it so is that the keys of every card set are in the group that stands beside
them.
-/

namespace ControlComponent.Key

open Wire (Codec)
open Signature (Scheme)

/-! ### Codecs -/

theorem faithful_certificate : Certificate.codec.Faithful :=
  Codec.faithful_record (.required Codec.faithful_text (.required Codec.faithful_text
    (.required Codec.faithful_publicKey (.required Codec.faithful_signature .done)))) fun _ => rfl

theorem faithful_storedSetKeys : StoredSetKeys.codec.Faithful :=
  Codec.faithful_record (.required Codec.faithful_text (.required Codec.faithful_text
    (.required Codec.faithful_group (.required Codec.faithful_decimals
      (.required Codec.faithful_signature (.required Codec.faithful_decimals
        (.required Codec.faithful_signature .done))))))) fun _ => rfl

theorem faithful_storedSigningKey : StoredSigningKey.codec.Faithful :=
  Codec.faithful_record (.required Codec.faithful_text (.required Codec.faithful_text
    (.required faithful_certificate .done))) fun _ => rfl

theorem faithful_contents : Contents.codec.Faithful :=
  Codec.faithful_record (.required faithful_certificate (.required faithful_certificate
    (.required Codec.faithful_text (.required (Codec.faithful_list faithful_storedSetKeys)
      (.required (Codec.faithful_list faithful_storedSigningKey) .done))))) fun _ => rfl

theorem fitsIn_certificate {nesting : Nat} : Certificate.codec.FitsIn (nesting + 1) :=
  Codec.fitsIn_checkedRecord (.required Codec.fitsIn_text (.required Codec.fitsIn_text
    (.required Codec.fitsIn_publicKey (.required Codec.fitsIn_signature .done))))

theorem fitsIn_storedSetKeys : StoredSetKeys.codec.FitsIn 2 :=
  Codec.fitsIn_checkedRecord (.required Codec.fitsIn_text (.required Codec.fitsIn_text
    (.required Codec.fitsIn_group (.required Codec.fitsIn_decimals
      (.required Codec.fitsIn_signature (.required Codec.fitsIn_decimals
        (.required Codec.fitsIn_signature .done)))))))

theorem fitsIn_storedSigningKey : StoredSigningKey.codec.FitsIn 2 :=
  Codec.fitsIn_checkedRecord (.required Codec.fitsIn_text (.required Codec.fitsIn_text
    (.required fitsIn_certificate .done)))

/-- A stored keyring is written four levels deep. -/
theorem fitsIn_contents : Contents.codec.FitsIn 4 :=
  Codec.fitsIn_checkedRecord (.required fitsIn_certificate (.required fitsIn_certificate
    (.required Codec.fitsIn_text (.required (Codec.fitsIn_list fitsIn_storedSetKeys)
      (.required (Codec.fitsIn_list fitsIn_storedSigningKey) .done)))))

/-! ### Entries -/

/-- Keys that are in the group which stands beside them. -/
def SetKeys.Grouped (keys : SetKeys) : Prop :=
  keys.generation.secret.group = keys.group ∧ keys.encryption.secret.group = keys.group

namespace Contents

theorem loadSecret_encode {bytes : Bytes} {secret : Signature.SecretKey}
    (loaded : loadSecret (Text.Hex.encode bytes) = .ok secret) : secret = ⟨bytes⟩ := by
  simp only [loadSecret, Text.Hex.decode_encode] at loaded
  have checked := mapError_eq_ok.1 loaded
  unfold Signature.SecretKey.ofBytes at checked
  split at checked
  · cases checked
    rfl
  · cases checked

theorem loadSigningKey_store {k k' : SigningKey}
    (loaded : loadSigningKey (storeSigningKey k) = .ok k') : k' = k := by
  obtain ⟨secret, read, ⟨⟩⟩ := bind_eq_ok.1 loaded
  obtain rfl := loadSecret_encode read
  rfl

/-- Exponents are read as they are. -/
theorem ofValues_eq {group : Group} {values : List Nat} {key : ElGamal.SecretKey}
    (made : ElGamal.SecretKey.ofValues group values = .ok key) :
    key.group = group ∧ key.exponents = values := by
  obtain ⟨exponents, checked, built⟩ := bind_eq_ok.1 made
  have same : exponents = values := by
    rw [← List.map_id values] at checked
    refine mapM_map_eq ?_ checked
    intro n _ n' one
    unfold Group.exponent at one
    split at one
    · cases one
      rfl
    · cases one
  unfold ElGamal.SecretKey.ofExponents at built
  split at built
  · cases built
  · cases built
    exact ⟨rfl, same⟩

theorem secretKey_eq {key key' : ElGamal.SecretKey} (group : key'.group = key.group)
    (exponents : key'.exponents = key.exponents) : key' = key := by
  cases key
  cases key'
  congr

theorem loadSetKeys_store {k k' : SetKeys} (grouped : k.Grouped)
    (loaded : loadSetKeys (storeSetKeys k) = .ok k') : k' = k := by
  obtain ⟨generation, first, loading⟩ := bind_eq_ok.1 loaded
  obtain ⟨encryption, second, ⟨⟩⟩ := bind_eq_ok.1 loading
  obtain ⟨group, exponents⟩ := ofValues_eq (mapError_eq_ok.1 first)
  obtain ⟨group', exponents'⟩ := ofValues_eq (mapError_eq_ok.1 second)
  obtain rfl : generation = k.generation.secret :=
    secretKey_eq (group.trans grouped.1.symm) exponents
  obtain rfl : encryption = k.encryption.secret :=
    secretKey_eq (group'.trans grouped.2.symm) exponents'
  rw [ElGamal.KeyPair.ofSecret_secret, ElGamal.KeyPair.ofSecret_secret]
  rfl

end Contents

/-! ### Keyrings -/

namespace Keyring

theorem new_eq_ok {scheme : Scheme} {platformCa nodeCa : Certificate}
    {secret : Signature.SecretKey} {keyring : Keyring}
    (made : new scheme platformCa nodeCa secret = .ok keyring) :
    Certificate.checkChain scheme platformCa [nodeCa] = .ok () ∧
      scheme.publicKey secret = nodeCa.publicKey ∧
      keyring = ⟨platformCa, nodeCa, secret, .empty, .empty⟩ := by
  unfold new at made
  split at made
  · cases made
  · rename_i issued
    split at made
    · cases made
    · rename_i own
      cases made
      exact ⟨issued, Decidable.not_not.1 own, rfl⟩

theorem toKeyring_ofKeyring {scheme : Scheme} {keyring keyring' : Keyring}
    (grouped : ∀ keys ∈ keyring.setKeys.entries, keys.Grouped)
    (loaded : (Contents.ofKeyring keyring).toKeyring scheme = .ok keyring') :
    keyring' = keyring := by
  obtain ⟨secret, secretRead, loaded₁⟩ := bind_eq_ok.1 loaded
  obtain ⟨blank, made, loaded₂⟩ := bind_eq_ok.1 loaded₁
  obtain ⟨setKeys, setKeysRead, loaded₃⟩ := bind_eq_ok.1 loaded₂
  obtain ⟨signingKeys, signingKeysRead, ⟨⟩⟩ := bind_eq_ok.1 loaded₃
  obtain ⟨-, -, rfl⟩ := new_eq_ok made
  have secret_eq := Contents.loadSecret_encode secretRead
  have setKeys_eq := mapM_map_eq
    (fun k mem k' one => Contents.loadSetKeys_store (grouped k mem) one) setKeysRead
  have signingKeys_eq := mapM_map_eq
    (fun k _ k' one => Contents.loadSigningKey_store one) signingKeysRead
  rw [secret_eq, setKeys_eq, signingKeys_eq, Table.ofList_entries, Table.ofList_entries]
  rfl

/-- What a keyring's bytes hold is the keyring. -/
theorem ofBytes_toBytes {scheme : Scheme} {keyring keyring' : Keyring}
    (grouped : ∀ keys ∈ keyring.setKeys.entries, keys.Grouped)
    (small : keyring.toBytes.length < 2 ^ 64)
    (loaded : ofBytes scheme keyring.toBytes = .ok keyring') : keyring' = keyring := by
  unfold ofBytes at loaded
  split at loaded
  · cases loaded
  · rename_i contents read
    obtain rfl : contents = Contents.ofKeyring keyring :=
      faithful_contents.read (e := .cbor)
        (Wire.Cbor.read_write (fitsIn_contents _) (by decide) small) read
    exact toKeyring_ofKeyring grouped loaded

end Keyring

/-! ### Vaults -/

/-- A container opens to what was sealed in it. -/
theorem Vault.unwrap_wrap {sealing : Sealing} (honest : sealing.Honest) {password : String}
    {salt nonce : Bytes} (hsalt : salt.length = saltLength) (hnonce : nonce.length = nonceLength)
    (content : Bytes) :
    unwrap sealing password (wrap sealing password salt nonce content) = .ok content := by
  have decrypted := honest.decrypt_encrypt (Bytes.ofText password) salt nonce content hsalt hnonce
  have hencrypted := honest.length_encrypt (Bytes.ofText password) salt nonce content hsalt hnonce
  unfold wrap
  generalize sealing.encrypt (sealing.deriveKey (Bytes.ofText password) salt) nonce content =
    encrypted at decrypted hencrypted ⊢
  have length : (mark ++ salt ++ nonce ++ encrypted).length = minLength + content.length := by
    simp only [List.length_append, hsalt, hnonce, hencrypted, minLength, headLength]
    omega
  have salt_eq :
      ((mark ++ salt ++ nonce ++ encrypted).drop mark.length).take saltLength = salt := by
    rw [List.append_assoc, List.append_assoc, List.drop_left, ← hsalt, List.take_left]
  have nonce_eq : ((mark ++ salt ++ nonce ++ encrypted).drop (mark.length + saltLength)).take
      nonceLength = nonce := by
    rw [List.append_assoc, ← hsalt, ← List.length_append, List.drop_left, ← hnonce, List.take_left]
  have encrypted_eq : (mark ++ salt ++ nonce ++ encrypted).drop headLength = encrypted := by
    rw [headLength, ← hsalt, ← hnonce, ← List.length_append, ← List.length_append, List.drop_left]
  have begins : (mark ++ salt ++ nonce ++ encrypted).take mark.length = mark := by
    rw [List.append_assoc, List.append_assoc, List.take_left]
  unfold unwrap
  rw [if_neg (by rw [length, begins]; simp), salt_eq, nonce_eq, encrypted_eq]
  simp only [decrypted]

/-- A sealed keyring, if it opens, opens to itself. -/
theorem Keyring.unwrap_wrap {sealing : Sealing} {scheme : Scheme} (honest : sealing.Honest)
    {keyring keyring' : Keyring} {password : String} {salt nonce : Bytes}
    (grouped : ∀ keys ∈ keyring.setKeys.entries, keys.Grouped)
    (small : keyring.toBytes.length < 2 ^ 64) (hsalt : salt.length = Vault.saltLength)
    (hnonce : nonce.length = Vault.nonceLength)
    (opened : unwrap sealing scheme (keyring.wrap sealing password salt nonce) password =
      .ok keyring') : keyring' = keyring := by
  obtain ⟨bytes, unwrapped, loaded⟩ := bind_eq_ok.1 opened
  rw [Keyring.wrap, Vault.unwrap_wrap honest hsalt hnonce] at unwrapped
  cases unwrapped
  exact ofBytes_toBytes grouped small loaded

end ControlComponent.Key
