import ControlComponent.Key.Keyring
import ControlComponent.Key.Vault
import ControlComponent.Wire.Record

/-!
Keyrings as they are stored: listed with their entries in order, written in CBOR and sealed under a
password. Reading a stored keyring checks the node's certificate and every exponent again; of two
entries for the same thing the last holds.
-/

namespace ControlComponent.Key

open Signature (SecretKey Scheme)

/-- The stored keys of a card set. -/
structure StoredSetKeys where
  electionId : String
  setId : String
  group : Group
  generation : List Nat
  generationSignature : Signature
  encryption : List Nat
  encryptionSignature : Signature
deriving DecidableEq

/-- How the keys of card sets are stored. -/
def StoredSetKeys.codec : Wire.Codec StoredSetKeys :=
  .record
    (.required "election_event_id" .text <| .required "verification_card_set_id" .text <|
      .required "group" .group <| .required "generation_secret_key" .decimals <|
      .required "generation_public_key_signature" .signature <|
      .required "choice_codes_encryption_secret_key" .decimals <|
      .required "choice_codes_encryption_public_key_signature" .signature .done)
    (fun k => (k.electionId, k.setId, k.group, k.generation, k.generationSignature, k.encryption,
      k.encryptionSignature, ()))
    (fun (electionId, setId, group, generation, generationSignature, encryption,
        encryptionSignature, ()) =>
      ⟨electionId, setId, group, generation, generationSignature, encryption, encryptionSignature⟩)

/-- The stored signing key of an election event. -/
structure StoredSigningKey where
  electionId : String
  secret : String
  certificate : Certificate
deriving DecidableEq

/-- How signing keys are stored. -/
def StoredSigningKey.codec : Wire.Codec StoredSigningKey :=
  .record
    (.required "election_event_id" .text <| .required "secret_key" .text <|
      .required "certificate" Certificate.codec .done)
    (fun k => (k.electionId, k.secret, k.certificate, ()))
    (fun (electionId, secret, certificate, ()) => ⟨electionId, secret, certificate⟩)

/-- A stored keyring. Secret keys for signing stand in hexadecimal text. -/
structure Contents where
  platformCa : Certificate
  nodeCa : Certificate
  nodeCaSecret : String
  setKeys : List StoredSetKeys
  signingKeys : List StoredSigningKey
deriving DecidableEq

namespace Contents

/-- How keyrings are stored. -/
def codec : Wire.Codec Contents :=
  .record
    (.required "platform_ca" Certificate.codec <| .required "node_ca" Certificate.codec <|
      .required "node_ca_secret" .text <|
      .required "return_codes_keys" (.list StoredSetKeys.codec) <|
      .required "election_signing_keys" (.list StoredSigningKey.codec) .done)
    (fun c => (c.platformCa, c.nodeCa, c.nodeCaSecret, c.setKeys, c.signingKeys, ()))
    (fun (platformCa, nodeCa, nodeCaSecret, setKeys, signingKeys, ()) =>
      ⟨platformCa, nodeCa, nodeCaSecret, setKeys, signingKeys⟩)

/-- The keys of a card set as they are stored. -/
def storeSetKeys (k : SetKeys) : StoredSetKeys :=
  ⟨k.electionId, k.setId, k.group, k.generation.secret.exponents, k.generationSignature,
    k.encryption.secret.exponents, k.encryptionSignature⟩

/-- A signing key as it is stored. -/
def storeSigningKey (k : SigningKey) : StoredSigningKey :=
  ⟨k.electionId, Text.Hex.encode k.secret.bytes, k.certificate⟩

/-- A keyring as it is stored. -/
def ofKeyring (keyring : Keyring) : Contents where
  platformCa := keyring.platformCa
  nodeCa := keyring.nodeCa
  nodeCaSecret := Text.Hex.encode keyring.nodeCaSecret.bytes
  setKeys := keyring.setKeys.entries.map storeSetKeys
  signingKeys := keyring.signingKeys.entries.map storeSigningKey

/-- The secret key that a hexadecimal text writes. -/
def loadSecret (text : String) : Except Fault SecretKey :=
  match Text.Hex.decode text with
  | .error fault => .error (.invalidStore (.hex fault))
  | .ok bytes => (SecretKey.ofBytes bytes).mapError fun fault => .invalidStore (.secretKey fault)

/-- The keys of a card set that are stored. The public keys are computed again. -/
def loadSetKeys (k : StoredSetKeys) : Except Fault SetKeys := do
  let load (values : List Nat) : Except Fault ElGamal.SecretKey :=
    (ElGamal.SecretKey.ofValues k.group values).mapError fun error => .invalidStore (.values error)
  let generation ← load k.generation
  let encryption ← load k.encryption
  return ⟨k.electionId, k.setId, k.group, .ofSecret generation, k.generationSignature,
    .ofSecret encryption, k.encryptionSignature⟩

/-- The signing key that is stored. -/
def loadSigningKey (k : StoredSigningKey) : Except Fault SigningKey := do
  return ⟨k.electionId, ← loadSecret k.secret, k.certificate⟩

/-- The keyring that is stored. -/
def toKeyring (scheme : Scheme) (c : Contents) : Except Fault Keyring := do
  let nodeCaSecret ← loadSecret c.nodeCaSecret
  let keyring ← Keyring.new scheme c.platformCa c.nodeCa nodeCaSecret
  let setKeys ← c.setKeys.mapM loadSetKeys
  let signingKeys ← c.signingKeys.mapM loadSigningKey
  return { keyring with setKeys := .ofList setKeys, signingKeys := .ofList signingKeys }

end Contents

namespace Keyring

/-- A keyring as a byte string. -/
def toBytes (keyring : Keyring) : Bytes := Contents.codec.write .cbor (Contents.ofKeyring keyring)

/-- The keyring that a byte string holds. -/
def ofBytes (scheme : Scheme) (bytes : Bytes) : Except Fault Keyring :=
  match Contents.codec.read .cbor bytes with
  | .error fault => .error (.invalidStore (.undecodable fault))
  | .ok contents => contents.toKeyring scheme

/-- A keyring sealed under a password. -/
def wrap (sealing : Sealing) (keyring : Keyring) (password : String) (salt nonce : Bytes) : Bytes :=
  Vault.wrap sealing password salt nonce keyring.toBytes

/-- The keyring that was sealed under a password. -/
def unwrap (sealing : Sealing) (scheme : Scheme) (container : Bytes) (password : String) :
    Except Fault Keyring := do
  let bytes ← Vault.unwrap sealing password container
  ofBytes scheme bytes

end Keyring
end ControlComponent.Key
