import ControlComponent.Key.Service
import ControlComponent.Log
import ControlComponent.Randomness
import ControlComponent.Store.Record
import ControlComponent.Store.Table

/-!
The keys of a node.

A node has a certificate of its own, issued by the platform. For every election event it makes a
signing key, to which it issues a certificate, and for every card set two key pairs, whose public
keys it signs with the signing key of the event. Nothing is ever replaced.
-/

namespace ControlComponent.Key

open Signature (PublicKey SecretKey Scheme)

/-! ### Entries -/

/-- The keys of a card set: one pair to derive the keys of its cards from and one to decrypt with,
each with a signature of its public key. -/
structure SetKeys where
  electionId : String
  setId : String
  group : Group
  generation : ElGamal.KeyPair
  generationSignature : Signature
  encryption : ElGamal.KeyPair
  encryptionSignature : Signature
deriving DecidableEq

/-- Where the keys of a card set are found. -/
def SetKeys.place (keys : SetKeys) : Place := ⟨keys.electionId, keys.setId⟩

/-- The signing key of an election event. -/
structure SigningKey where
  electionId : String
  secret : SecretKey
  certificate : Certificate
deriving DecidableEq

/-! ### Signed public keys -/

/-- A public key, signed for an election event and a card set. -/
structure SignedPublicKey where
  key : ElGamal.PublicKey
  signature : Signature
deriving DecidableEq

namespace SignedPublicKey

/-- What is signed of a public key. -/
def message (key : ElGamal.PublicKey) (electionId resourceId : String) : Bytes :=
  key.toBytes ++ Bytes.ofText electionId ++ Bytes.ofText resourceId

/-- A public key with its signature. -/
def sign (scheme : Scheme) (secret : SecretKey) (key : ElGamal.PublicKey)
    (electionId resourceId : String) : SignedPublicKey :=
  ⟨key, scheme.sign secret (message key electionId resourceId)⟩

/-- Checks the signature of a public key. -/
def check (scheme : Scheme) (signer : PublicKey) (electionId resourceId : String)
    (signed : SignedPublicKey) : Except Error Unit :=
  Certificate.checkSignature scheme signer (message signed.key electionId resourceId)
    signed.signature

end SignedPublicKey

/-! ### Keyrings -/

/-- The keys of a node. -/
structure Keyring where
  platformCa : Certificate
  nodeCa : Certificate
  nodeCaSecret : SecretKey
  setKeys : Table SetKeys.place
  signingKeys : Table SigningKey.electionId

namespace Keyring

/-- A keyring without keys. The node's certificate must have been issued by the platform, for the
node's secret key. -/
def new (scheme : Scheme) (platformCa nodeCa : Certificate) (nodeCaSecret : SecretKey) :
    Except Fault Keyring :=
  match Certificate.checkChain scheme platformCa [nodeCa] with
  | .error error => .error (.invalidNodeCa (.notIssued error))
  | .ok () =>
    if scheme.publicKey nodeCaSecret ≠ nodeCa.publicKey then .error (.invalidNodeCa .wrongSecret)
    else .ok ⟨platformCa, nodeCa, nodeCaSecret, .empty, .empty⟩

/-- The keys of a card set. -/
def setKeysOf (keyring : Keyring) (electionId setId : String) : Except Fault SetKeys :=
  match keyring.setKeys.get? ⟨electionId, setId⟩ with
  | some keys => .ok keys
  | none => .error (.notFound (.returnCodesKeys setId))

/-- Whether there are keys for a card set. -/
def hasSetKeys (keyring : Keyring) (electionId setId : String) : Bool :=
  keyring.setKeys.contains ⟨electionId, setId⟩

/-- The group of a card set. -/
def parameters (keyring : Keyring) (electionId setId : String) : Except Fault Group :=
  match keyring.setKeys.get? ⟨electionId, setId⟩ with
  | some keys => .ok keys.group
  | none => .error (.notFound (.parameters setId))

/-- The signing key of an election event. -/
def signingKey (keyring : Keyring) (electionId : String) : Except Fault SecretKey :=
  match keyring.signingKeys.get? electionId with
  | some key => .ok key.secret
  | none => .error (.notFound (.signingKey electionId))

/-- The chain of the signing key of an election event: its certificate and that of the node. -/
def chain (keyring : Keyring) (electionId : String) : Except Fault (List Certificate) :=
  match keyring.signingKeys.get? electionId with
  | some key => .ok [key.certificate, keyring.nodeCa]
  | none => .error (.notFound (.signingCertificate electionId))

/-- The answers to all questions about keys. -/
def service (keyring : Keyring) : Service where
  platformCa := .ok keyring.platformCa
  parameters := keyring.parameters
  generationKey electionId setId := (keyring.setKeysOf electionId setId).map (·.generation.secret)
  decryptionKey electionId setId := (keyring.setKeysOf electionId setId).map (·.encryption.secret)
  signingKey := keyring.signingKey
  chain := keyring.chain

/-! ### New keys -/

/-- What a call leaves behind: its result, and the keyring. -/
structure Step (α : Type) where
  result : Except Fault α
  keyring : Keyring

/-- The result of a call that fails, with the keyring as it is. -/
def fail (keyring : Keyring) (fault : Fault) : Step α := ⟨.error fault, keyring⟩

/-- A secret key for signing, drawn at random. -/
def drawSecret (r : Randomness) : SecretKey × Randomness :=
  let (bytes, r) := r.take 32
  (⟨bytes⟩, r)

/-- The name that a signing key is certified under. -/
def signingSubject (electionId : String) : String := "election-signing-" ++ electionId

/-- Creates a signing key for an election event, and hands back its certificate. -/
def createSigningKey (scheme : Scheme) (keyring : Keyring) (electionId : String) (r : Randomness) :
    Step Certificate :=
  if keyring.signingKeys.contains electionId then
    keyring.fail (.alreadyExists (.signingKeys electionId))
  else
    let (secret, _) := drawSecret r
    match keyring.nodeCa.issue scheme keyring.nodeCaSecret (signingSubject electionId)
        (scheme.publicKey secret) with
    | .error error => keyring.fail (.invalidNodeCa (.notIssued error))
    | .ok certificate =>
      ⟨.ok certificate, { keyring with
        signingKeys := keyring.signingKeys.put ⟨electionId, secret, certificate⟩ }⟩

/-- What keys to create for a card set. -/
structure Spec where
  electionId : String
  setId : String
  group : Group
  length : Nat

/-- The public keys of a card set. -/
structure Published where
  generation : SignedPublicKey
  encryption : SignedPublicKey

/-- A key pair of one exponent or more, drawn at random. -/
def drawKey (group : Group) (more : Nat) (r : Randomness) : ElGamal.KeyPair × Randomness :=
  let (first, r) := r.below group.q
  let (rest, r) := r.manyBelow group.q more
  (.ofSecret ⟨group, first :: rest, by simp⟩, r)

/-- Creates keys for a card set, and hands back their signed public keys. -/
def createSetKeys (scheme : Scheme) (keyring : Keyring) (spec : Spec) (r : Randomness) :
    Step Published :=
  if spec.length = 0 ∨ maxLength < spec.length then keyring.fail (.invalidLength spec.length)
  else if keyring.hasSetKeys spec.electionId spec.setId then
    keyring.fail (.alreadyExists (.returnCodesKeys spec.setId))
  else
    match keyring.signingKey spec.electionId with
    | .error fault => keyring.fail fault
    | .ok signer =>
      let (generation, r) := drawKey spec.group 0 r
      let (encryption, _) := drawKey spec.group (spec.length - 1) r
      let sign (key : ElGamal.PublicKey) : SignedPublicKey :=
        SignedPublicKey.sign scheme signer key spec.electionId spec.setId
      let published : Published := ⟨sign generation.publicKey, sign encryption.publicKey⟩
      let keys : SetKeys :=
        { electionId := spec.electionId
          setId := spec.setId
          group := spec.group
          generation := generation
          generationSignature := published.generation.signature
          encryption := encryption
          encryptionSignature := published.encryption.signature }
      ⟨.ok published, { keyring with setKeys := keyring.setKeys.put keys }⟩

/-- What is logged when keys for a card set have been created. -/
def createLine (spec : Spec) : Log.Line :=
  .of .info ("created return codes keys for election event " ++ spec.electionId ++
    " verification card set " ++ spec.setId)

end Keyring
end ControlComponent.Key
