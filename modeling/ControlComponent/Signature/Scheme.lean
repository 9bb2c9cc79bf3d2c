import ControlComponent.Bytes

/-!
Keys, signatures, and what a signature scheme does with them.

The library never looks inside a key or a signature except to read and write it; whatever signs or
checks takes the scheme as an argument, so that what it does is stated for every scheme.
-/

namespace ControlComponent

/-- A signature, as its 64 bytes. -/
structure Signature where
  bytes : Bytes
deriving DecidableEq

namespace Signature

/-- A public key, as its 32 bytes. -/
structure PublicKey where
  bytes : Bytes
deriving DecidableEq

/-- A secret key, as its 32 bytes. -/
structure SecretKey where
  bytes : Bytes
deriving DecidableEq

/-- What can be wrong with a key or a signature. -/
inductive Fault where
  | malformed
  | equation
  | scalar
  | point
  | publicKeyLength
  | secretKeyLength
deriving DecidableEq

/-- What is said of a fault. -/
def Fault.message : Fault → String
  | .malformed => "signature error"
  | .equation => "signature error: Verification equation was not satisfied"
  | .scalar => "signature error: Cannot use scalar with high-bit set"
  | .point => "signature error: Cannot decompress Edwards point"
  | .publicKeyLength => "signature error: PublicKey must be 32 bytes in length"
  | .secretKeyLength => "signature error: SecretKey must be 32 bytes in length"

/-- A way to sign byte strings and to check their signatures. -/
structure Scheme where
  publicKey : SecretKey → PublicKey
  sign : SecretKey → Bytes → Signature
  verify : PublicKey → Bytes → Signature → Except Fault Unit

/-- A scheme that accepts every signature it made, under the key that belongs to it. -/
def Scheme.Honest (scheme : Scheme) : Prop :=
  ∀ secret message, scheme.verify (scheme.publicKey secret) message (scheme.sign secret message) =
    .ok ()

/-- A secret key of 32 bytes. -/
def SecretKey.ofBytes (bytes : Bytes) : Except Fault SecretKey :=
  if bytes.length = 32 then .ok ⟨bytes⟩ else .error .secretKeyLength

end Signature

end ControlComponent
