import ControlComponent.Signature.Scheme
import ControlComponent.Text.Decimal
import ControlComponent.Text.Quoted
import ControlComponent.Wire.Document
import ControlComponent.Wire.Fault

/-!
What can go wrong, as causes, and what is said of each.
-/

namespace ControlComponent

/-- What can be wrong with the input of a proof or of an encryption. -/
inductive ProofInputFault where
  | lengths
  | noElements
  | notSingle
  | wrongStatement
  | messageCount
deriving DecidableEq

/-- What is said of a fault. -/
def ProofInputFault.message : ProofInputFault → String
  | .lengths => "bases and exponentiated differ in length"
  | .noElements => "no elements"
  | .notSingle => "plaintext equality needs single-element ciphertexts"
  | .wrongStatement => "proof does not match its statement"
  | .messageCount => "message count does not fit the public key"

/-- Why a voter key cannot be derived. -/
inductive DerivationFault where
  | tooLong (length : Nat)
  | exhausted (seed : String)
deriving DecidableEq

/-- What is said of a fault. -/
def DerivationFault.message : DerivationFault → String
  | .tooLong length => "cannot expand to " ++ Text.Decimal.render length ++ " bytes"
  | .exhausted seed => "no value below q reachable from seed " ++ seed

/-- What can be wrong with a setting. -/
inductive SettingFault where
  | notNumber (name value : String)
  | blank (name : String)
  | zero (name : String)
deriving DecidableEq

/-- What is said of a fault. -/
def SettingFault.message : SettingFault → String
  | .notNumber name value =>
    name ++ " must be a non-negative integer, got " ++ Text.quoted value
  | .blank name => name ++ " must not be blank"
  | .zero name => name ++ " must be at least 1"

/-- What can go wrong with cryptographic values and messages. -/
inductive Error where
  | signature (fault : Signature.Fault)
  | mismatchedPublicKeys
  | missingSignature
  | emptyCertificateChain
  | certificateIssuerMismatch (subject issuer : String)
  | undecodable (encoding : Wire.Encoding) (fault : Wire.Fault)
  | emptyMessage
  | unknownEncoding (tag : UInt8)
  | unknownMessageKind (kind : String)
  | invalidGroup (fault : Group.Fault)
  | notGroupMember (value : Nat)
  | invalidExponent
  | groupMismatch
  | emptyKey
  | invalidProofInput (fault : ProofInputFault)
  | keyDerivation (fault : DerivationFault)
  | invalidConfiguration (fault : SettingFault)
deriving DecidableEq

/-- What is said of an error. -/
def Error.message : Error → String
  | .signature fault => "returncodes: signature error: " ++ fault.message
  | .mismatchedPublicKeys => "returncodes: mismatched public keys"
  | .missingSignature => "returncodes: missing signature"
  | .emptyCertificateChain => "returncodes: empty certificate chain"
  | .certificateIssuerMismatch subject issuer =>
    "returncodes: certificate " ++ subject ++ " was not issued by " ++ issuer
  | .undecodable .json fault => "returncodes: JSON error: " ++ fault.message
  | .undecodable .cbor fault => "returncodes: CBOR error: " ++ fault.message
  | .emptyMessage => "returncodes: empty message"
  | .unknownEncoding tag =>
    "returncodes: unknown message encoding tag " ++ Text.Decimal.render tag.toNat
  | .unknownMessageKind kind => "returncodes: unknown message kind " ++ kind
  | .invalidGroup fault => "returncodes: invalid group: " ++ fault.message
  | .notGroupMember value =>
    "returncodes: value " ++ Text.Decimal.render value ++ " is not a member of the group"
  | .invalidExponent => "returncodes: exponent out of range"
  | .groupMismatch => "returncodes: elements belong to different groups"
  | .emptyKey => "returncodes: an ElGamal key must have at least one element"
  | .invalidProofInput fault => "returncodes: invalid proof input: " ++ fault.message
  | .keyDerivation fault => "returncodes: key derivation failed: " ++ fault.message
  | .invalidConfiguration fault => "returncodes: invalid configuration: " ++ fault.message

/-- The name of an error's cause. -/
def Error.name : Error → String
  | .signature _ => "SignatureError"
  | .mismatchedPublicKeys => "MismatchedPublicKeys"
  | .missingSignature => "MissingSignature"
  | .emptyCertificateChain => "EmptyCertificateChain"
  | .certificateIssuerMismatch _ _ => "CertificateIssuerMismatch"
  | .undecodable .json _ => "JSON"
  | .undecodable .cbor _ => "CBOR"
  | .emptyMessage => "EmptyMessage"
  | .unknownEncoding _ => "UnknownEncoding"
  | .unknownMessageKind _ => "UnknownMessageKind"
  | .invalidGroup _ => "InvalidGroup"
  | .notGroupMember _ => "NotGroupMember"
  | .invalidExponent => "InvalidExponent"
  | .groupMismatch => "GroupMismatch"
  | .emptyKey => "EmptyKey"
  | .invalidProofInput _ => "InvalidProofInput"
  | .keyDerivation _ => "KeyDerivation"
  | .invalidConfiguration _ => "InvalidConfiguration"

end ControlComponent
