import ControlComponent.CommandLine.Surroundings

/-!
The commands that make keys and certificates.
-/

namespace ControlComponent.CommandLine.Surroundings

open Signature (SecretKey)

/-- Makes a key pair. -/
def newKey (s : Surroundings) : Script Unit := do
  let (secret, _) := Key.Keyring.drawSecret s.randomness
  Script.output ("secret-key: " ++ Text.Hex.encode secret.bytes)
  Script.output ("public-key: " ++ Text.Hex.encode (s.suite.signing.publicKey secret).bytes)

/-- Makes a certificate that its own key issues. The secret key is not part of the output. -/
def newRoot (s : Surroundings) (subject : String) : Script Unit := do
  let (secret, _) := Key.Keyring.drawSecret s.randomness
  Script.complain ("secret-key: " ++ Text.Hex.encode secret.bytes)
  outputCertificate (.selfSigned s.suite.signing subject secret)

/-- Issues a certificate for a public key. -/
def issue (s : Surroundings) (subject issuer issuerSecret publicKey : String) : Script Unit := do
  let issuer ← s.readJson Certificate.codec issuer
  let secret ← readKey "issuer-secret" issuerSecret SecretKey.ofBytes
  let key ← readKey "public-key" publicKey Signature.Ed25519.publicKeyOfBytes
  match issuer.issue s.suite.signing secret subject key with
  | .ok certificate => outputCertificate certificate
  | .error _ =>
    Script.fail "returncodes certificate: issuer-secret does not match the issuer certificate"

/-- Makes a keyring for a node. -/
def newKeyring (s : Surroundings) (access : Access) (platformCa nodeCa nodeCaSecret : String) :
    Script Unit := do
  let place ← s.locate access
  if ← Script.found place.path then
    Script.fail ("returncodes init: keystore " ++ place.path ++ " already exists")
  let platformCa ← s.readJson Certificate.codec platformCa
  let nodeCa ← s.readJson Certificate.codec nodeCa
  let secret ← readKey "node-ca-secret" nodeCaSecret SecretKey.ofBytes
  let keyring ← Script.orFail (fun fault => "returncodes init: " ++ fault.message)
    (Key.Keyring.new s.suite.signing platformCa nodeCa secret)
  s.save place keyring
  Script.log (.of .info ("created keystore " ++ place.path))

/-- A signed public key as data. -/
def publicKeyData (signed : Key.SignedPublicKey) : Wire.Data :=
  .record [("publicKey", Wire.Codec.decimals.encode .json signed.key.values),
    ("signature", Wire.Codec.signature.encode .json signed.signature)]

/-- Makes the keys of a card set. -/
def newSetKeys (s : Surroundings) (access : Access) (electionId setId group length : String) :
    Script Unit := do
  let place ← s.locate access
  let keyring ← s.load place
  let group ← s.readJson Wire.Codec.group group
  let length ← Script.orFail (fun fault => "returncodes keys: invalid length: " ++ fault.message)
    (Text.Decimal.parseAtMost (2 ^ 64 - 1) length)
  let spec : Key.Keyring.Spec := ⟨electionId, setId, group, length⟩
  let created := keyring.createSetKeys s.suite.signing spec s.rest
  let published ← Script.orFail (fun fault => "returncodes keys: " ++ fault.message) created.result
  Script.log (Key.Keyring.createLine spec)
  s.save place created.keyring
  outputData (.record
    [("choiceCodesEncryptionPublicKey", publicKeyData published.encryption),
      ("electionEventId", .text electionId),
      ("generationPublicKey", publicKeyData published.generation),
      ("verificationCardSetId", .text setId)])

/-- Makes the signing key of an election event. -/
def newSigningKey (s : Surroundings) (access : Access) (electionId : String) : Script Unit := do
  let place ← s.locate access
  let keyring ← s.load place
  let created := keyring.createSigningKey s.suite.signing electionId s.rest
  let certificate ← Script.orFail (fun fault => "returncodes keys: " ++ fault.message)
    created.result
  s.save place created.keyring
  outputCertificate certificate

end ControlComponent.CommandLine.Surroundings
