import ControlComponent.Certificate

/-!
Signed values.

A `Signed` payload carries the chain of the key that signed it, or no signature at all. A
`SignedContent` was signed by a key that the receiver knows. In both, what is signed is the value
in CBOR.
-/

namespace ControlComponent

open Signature (PublicKey SecretKey Scheme)

/-- A signature and the chain of the key that made it. -/
structure PayloadSignature where
  signature : Signature
  chain : List Certificate
deriving DecidableEq

/-- How signatures with their chains are written. -/
def PayloadSignature.codec : Wire.Codec PayloadSignature :=
  .record
    (.required "signature" .signature <|
      .required "certificate_chain" (.list Certificate.codec) .done)
    (fun s => (s.signature, s.chain, ()))
    (fun (signature, chain, ()) => ⟨signature, chain⟩)

/-! ### Payloads -/

/-- A payload, which may be signed. -/
structure Signed (α : Type) where
  payload : α
  signature : Option PayloadSignature
deriving DecidableEq

namespace Signed

/-- What is signed of a payload. -/
def message (c : Wire.Codec α) (payload : α) : Bytes := c.write .cbor payload

/-- A payload without a signature. -/
def unsigned (payload : α) : Signed α := ⟨payload, none⟩

/-- A payload signed with the key of the first certificate in a chain. -/
def sign (scheme : Scheme) (c : Wire.Codec α) (secret : SecretKey) (chain : List Certificate)
    (payload : α) : Except Error (Signed α) :=
  match chain with
  | [] => .error .emptyCertificateChain
  | leaf :: _ =>
    if scheme.publicKey secret ≠ leaf.publicKey then .error .mismatchedPublicKeys
    else .ok ⟨payload, some ⟨scheme.sign secret (message c payload), chain⟩⟩

/-- Checks the chain of a signed payload against a root, and its signature against the first key of
the chain. -/
def check (scheme : Scheme) (c : Wire.Codec α) (root : Certificate) (signed : Signed α) :
    Except Error Unit :=
  match signed.signature with
  | none => .error .missingSignature
  | some ⟨_, []⟩ => .error .emptyCertificateChain
  | some ⟨signature, leaf :: rest⟩ => do
    Certificate.checkChain scheme root (leaf :: rest)
    Certificate.checkSignature scheme leaf.publicKey (message c signed.payload) signature

/-- How payloads and their signatures are written. -/
def codec (c : Wire.Codec α) : Wire.Codec (Signed α) :=
  .record
    (.required "payload" c <|
      .defaulted "signature" (.option PayloadSignature.codec) none .done)
    (fun s => (s.payload, s.signature, ()))
    (fun (payload, signature, ()) => ⟨payload, signature⟩)

end Signed

/-! ### Contents -/

/-- Content signed by a known key. -/
structure SignedContent (α : Type) where
  content : α
  signature : Signature
deriving DecidableEq

namespace SignedContent

/-- Content signed with a key. -/
def sign (scheme : Scheme) (c : Wire.Codec α) (secret : SecretKey) (content : α) :
    SignedContent α :=
  ⟨content, scheme.sign secret (c.write .cbor content)⟩

/-- Checks the signature of a content. -/
def check (scheme : Scheme) (c : Wire.Codec α) (key : PublicKey) (signed : SignedContent α) :
    Except Error Unit :=
  Certificate.checkSignature scheme key (c.write .cbor signed.content) signed.signature

/-- How contents and their signatures are written. -/
def codec (c : Wire.Codec α) : Wire.Codec (SignedContent α) :=
  .record (.required "content" c <| .required "signature" .signature .done)
    (fun s => (s.content, s.signature, ()))
    (fun (content, signature, ()) => ⟨content, signature⟩)

end SignedContent
end ControlComponent
