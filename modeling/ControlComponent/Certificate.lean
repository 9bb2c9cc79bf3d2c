import ControlComponent.Error
import ControlComponent.Wire.Record

/-!
Certificates: a named public key that its issuer has signed. A chain starts with the certificate in
question; every certificate in it is issued by the next one, and the last one by the root.
-/

namespace ControlComponent

open Signature (PublicKey SecretKey Scheme)

/-- A named public key, signed by its issuer. -/
structure Certificate where
  subject : String
  issuer : String
  publicKey : PublicKey
  signature : Signature
deriving DecidableEq

namespace Certificate

/-- What the issuer of a certificate signs: the two names and the key, the latter as a list of its
bytes. -/
def package (subject issuer : String) (key : PublicKey) : Bytes :=
  Wire.Cbor.write (.record [("subject", .text subject), ("issuer", .text issuer),
    ("public_key", .list (key.bytes.map fun b => .nat b.toNat))])

/-- The certificate that a key issues for itself. -/
def selfSigned (scheme : Scheme) (subject : String) (secret : SecretKey) : Certificate :=
  let key := scheme.publicKey secret
  ⟨subject, subject, key, scheme.sign secret (package subject subject key)⟩

/-- The certificate that an issuer makes for a key. The secret key must be the issuer's own. -/
def issue (scheme : Scheme) (issuer : Certificate) (secret : SecretKey) (subject : String)
    (key : PublicKey) : Except Error Certificate :=
  if scheme.publicKey secret ≠ issuer.publicKey then .error .mismatchedPublicKeys
  else .ok ⟨subject, issuer.subject, key,
    scheme.sign secret (package subject issuer.subject key)⟩

/-- Checks a signature. -/
def checkSignature (scheme : Scheme) (key : PublicKey) (message : Bytes)
    (signature : Signature) : Except Error Unit :=
  match scheme.verify key message signature with
  | .ok () => .ok ()
  | .error fault => .error (.signature fault)

/-- Checks that a certificate was issued by another one. -/
def checkIssuer (scheme : Scheme) (certificate issuer : Certificate) : Except Error Unit :=
  if certificate.issuer ≠ issuer.subject then
    .error (.certificateIssuerMismatch certificate.subject issuer.subject)
  else
    checkSignature scheme issuer.publicKey
      (package certificate.subject certificate.issuer certificate.publicKey) certificate.signature

/-- Checks a chain against a root. -/
def checkChain (scheme : Scheme) (root : Certificate) : List Certificate → Except Error Unit
  | [] => .error .emptyCertificateChain
  | [last] => last.checkIssuer scheme root
  | certificate :: issuer :: rest => do
    certificate.checkIssuer scheme issuer
    checkChain scheme root (issuer :: rest)

/-- How certificates are written. -/
def codec : Wire.Codec Certificate :=
  .record
    (.required "subject" .text <| .required "issuer" .text <|
      .required "public_key" .publicKey <| .required "signature" .signature .done)
    (fun c => (c.subject, c.issuer, c.publicKey, c.signature, ()))
    (fun (subject, issuer, publicKey, signature, ()) => ⟨subject, issuer, publicKey, signature⟩)

end Certificate
end ControlComponent
