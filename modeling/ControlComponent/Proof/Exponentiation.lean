import ControlComponent.Proof.Transcript
import ControlComponent.Wire.Record

/-!
Proofs that several bases have been raised to one secret exponent.

The prover commits to the bases raised to a random number; the verifier rebuilds that commitment
from the challenge and the response, and checks that the challenge is that of the rebuilt
commitment. An input that cannot be a statement, such as lists of different lengths, is an error. A
proof that does not fit its statement is just invalid.
-/

namespace ControlComponent

/-- A proof that several bases have been raised to one exponent. -/
structure ExponentiationProof where
  challenge : Nat
  response : Nat
deriving DecidableEq

namespace ExponentiationProof

/-- That each image is the power of its base, with one exponent for all of them. -/
structure Statement where
  bases : List Element
  images : List Element

namespace Statement

/-- The group of a statement that can be proved or checked. -/
def group (s : Statement) : Except Error Group :=
  if s.bases.length ≠ s.images.length then .error (.invalidProofInput .lengths)
  else Proof.commonGroup (s.bases ++ s.images)

/-- A statement has a group if it has an image for every base, and at least one, and all of them are
of that group. -/
theorem group_eq_ok {s : Statement} {group : Group} :
    s.group = .ok group ↔ s.bases ≠ [] ∧ s.bases.length = s.images.length ∧
      ∀ a ∈ s.bases ++ s.images, a.group = group := by
  unfold Statement.group
  by_cases lengths : s.bases.length = s.images.length
  · rw [if_neg (not_not_intro lengths), Proof.commonGroup_eq_ok]
    constructor
    · rintro ⟨nonempty, same⟩
      refine ⟨?_, lengths, same⟩
      intro empty
      rw [empty, List.length_nil, eq_comm, List.length_eq_zero_iff] at lengths
      exact nonempty (by rw [empty, lengths, List.append_nil])
    · rintro ⟨nonempty, -, same⟩
      exact ⟨List.append_ne_nil_of_left_ne_nil nonempty _, same⟩
  · rw [if_pos lengths]
    constructor
    · rintro ⟨⟩
    · rintro ⟨-, lengths', -⟩
      exact absurd lengths' lengths

/-- The values of the bases. -/
def baseValues (s : Statement) : List Nat := s.bases.map (·.value)

/-- The values of the images. -/
def imageValues (s : Statement) : List Nat := s.images.map (·.value)

end Statement

/-- The bases raised to the number behind a commitment. -/
def commit (group : Group) (bases : List Nat) (nonce : Nat) : List Nat :=
  bases.map (group.pow · nonce)

/-- The commitment that belongs to a challenge and a response. -/
def recommit (group : Group) (bases images : List Nat) (challenge response : Nat) : List Nat :=
  List.zipWith
    (fun base image => group.mul (group.pow base response) (group.inv (group.pow image challenge)))
    bases images

/-- What is hashed for the challenge. -/
def transcript (group : Group) (bases images commitment : List Nat) (auxiliary : List String) :
    HashTree :=
  Proof.transcript group (bases ++ images) commitment auxiliary

/-- The proof that a random number leads to. -/
def prove (suite : Suite) (group : Group) (bases images : List Nat) (exponent : Nat)
    (auxiliary : List String) (nonce : Nat) : ExponentiationProof :=
  let challenge :=
    suite.hashToExponent (transcript group bases images (commit group bases nonce) auxiliary) group
  ⟨challenge, Proof.respond group nonce challenge exponent⟩

/-- Whether a proof fits its statement. -/
def isValid (suite : Suite) (group : Group) (bases images : List Nat) (auxiliary : List String)
    (proof : ExponentiationProof) : Bool :=
  proof.challenge < group.q && proof.response < group.q &&
    suite.hashToExponent
      (transcript group bases images
        (recommit group bases images proof.challenge proof.response) auxiliary) group
      == proof.challenge

/-- A proof of a statement, with randomness drawn for it. -/
def generate (suite : Suite) (s : Statement) (exponent : Nat) (auxiliary : List String)
    (r : Randomness) : Except Error (ExponentiationProof × Randomness) := do
  let group ← s.group
  let (nonce, r) := r.below group.q
  return (prove suite group s.baseValues s.imageValues exponent auxiliary nonce, r)

/-- Whether a proof fits a statement, if that can be one. -/
def verify (suite : Suite) (s : Statement) (auxiliary : List String) (proof : ExponentiationProof) :
    Except Error Bool := do
  let group ← s.group
  return isValid suite group s.baseValues s.imageValues auxiliary proof

/-- How proofs are written. -/
def codec : Wire.Codec ExponentiationProof :=
  .record (.required "e" .decimal <| .required "z" .decimal .done)
    (fun proof => (proof.challenge, proof.response, ()))
    (fun (challenge, response, ()) => ⟨challenge, response⟩)

end ExponentiationProof
end ControlComponent
