import ControlComponent.Hash.Sha512
import ControlComponent.Signature.Edwards
import ControlComponent.Signature.Scheme

/-!
Ed25519: the signature scheme over the Edwards curve, with strict verification.

A signature is a point `R` and a scalar `s`. It is accepted when `s` is below the order of the base
point, `R` decodes, neither `R` nor the public key has small order, and `R` is the point
`s·B - k·A`, where `k` is the digest of `R`, the key and the message.
-/

namespace ControlComponent.Signature.Ed25519

open Edwards

/-- A SHA-512 digest as a scalar. -/
def scalarDigest (message : Bytes) : Nat := Bytes.toNatLE (Hash.Sha512.digest message) % order

/-- A secret key's scalar: the first half of its digest with the three lowest bits and the highest
bit cleared and the second highest bit set. -/
def secretScalar (digest : Bytes) : Nat :=
  let n := Bytes.toNatLE (digest.take 32)
  n % 2 ^ 254 / 8 * 8 + 2 ^ 254

/-- The public key that belongs to a secret key. -/
def publicKey (secret : SecretKey) : PublicKey :=
  ⟨(base.scale (secretScalar (Hash.Sha512.digest secret.bytes))).encode⟩

/-- The signature of a message under a secret key. -/
def sign (secret : SecretKey) (message : Bytes) : Signature :=
  let digest := Hash.Sha512.digest secret.bytes
  let a := secretScalar digest
  let r := scalarDigest (digest.drop 32 ++ message)
  let point := (base.scale r).encode
  let k := scalarDigest (point ++ (publicKey secret).bytes ++ message)
  ⟨point ++ Bytes.ofNatLE 32 ((k * a + r) % order)⟩

/-- Strict verification of a signature. -/
def verify (key : PublicKey) (message : Bytes) (signature : Signature) : Except Fault Unit :=
  let s := Bytes.toNatLE (signature.bytes.drop 32)
  if order ≤ s then .error .scalar
  else
    match Point.decode? (signature.bytes.take 32), Point.decode? key.bytes with
    | some r, some a =>
      if r.isSmallOrder || a.isSmallOrder then .error .equation
      else
        let k := scalarDigest (signature.bytes.take 32 ++ key.bytes ++ message)
        if ((base.scale s).add (a.neg.scale k)).same r then .ok () else .error .equation
    | _, _ => .error .equation

/-- The scheme of Ed25519. -/
def scheme : Scheme := ⟨publicKey, sign, verify⟩

/-- A public key: 32 bytes that encode a point. -/
def publicKeyOfBytes (bytes : Bytes) : Except Fault PublicKey :=
  if bytes.length ≠ 32 then .error .publicKeyLength
  else if (Point.decode? bytes).isNone then .error .point
  else .ok ⟨bytes⟩

/-- A signature: 64 bytes, the highest three bits of the last one clear. -/
def signatureOfBytes (bytes : Bytes) : Except Fault Signature :=
  if bytes.length = 64 ∧ bytes.getLastD 0 &&& 0xe0 = 0 then .ok ⟨bytes⟩ else .error .malformed

end ControlComponent.Signature.Ed25519
