import ControlComponent.Proof.Exponentiation
import ControlComponent.Proof.PlaintextEquality
import ControlComponent.Wire.Variant

/-!
Proofs of either kind, and statements of either kind. A proof can only be checked against a
statement of its own kind.
-/

namespace ControlComponent

/-- A proof of either kind. -/
inductive Proof where
  | exponentiation (proof : ExponentiationProof)
  | plaintextEquality (proof : PlaintextEqualityProof)
deriving DecidableEq

namespace Proof

/-- What a proof is about. -/
inductive Statement where
  | exponentiation (statement : ExponentiationProof.Statement)
  | plaintextEquality (statement : PlaintextEqualityProof.Statement)

/-- Whether a proof fits a statement, if that can be one. -/
def verify (suite : Suite) (auxiliary : List String) : Proof → Statement → Except Error Bool
  | .exponentiation proof, .exponentiation s => proof.verify suite s auxiliary
  | .plaintextEquality proof, .plaintextEquality s => proof.verify suite s auxiliary
  | _, _ => .error (.invalidProofInput .wrongStatement)

/-- The name of the field that tells the kind of a proof. -/
def tag : String := "type"

/-- A record with the kind of a proof in front of its fields. -/
def withTag (name : String) : Wire.Data → Wire.Data
  | .record fields => .record ((tag, .text name) :: fields)
  | data => data

/-- How proofs are written: as the proof of their kind, with the kind in front. -/
def codec : Wire.Codec Proof where
  encode e
    | .exponentiation proof => withTag "exponentiation" (ExponentiationProof.codec.encode e proof)
    | .plaintextEquality proof =>
      withTag "plaintext_equality" (PlaintextEqualityProof.codec.encode e proof)
  decode := Wire.Codec.decodeTagged tag
    [("exponentiation", fun e d => (ExponentiationProof.codec.decode e d).map .exponentiation),
      ("plaintext_equality",
        fun e d => (PlaintextEqualityProof.codec.decode e d).map .plaintextEquality)]

end Proof
end ControlComponent
