import ControlComponent.ElGamal
import ControlComponent.Proof.Transcript
import ControlComponent.Wire.Record

/-!
Proofs that two ciphertexts of one message each, under different keys, hold the same message.

With the two ciphertexts `(g^r1, h^r1 · m)` and `(g^r2, h'^r2 · m)`, the prover knows `r1` and `r2`
with which the map `(x1, x2) ↦ (g^x1, g^x2, h^x1 / h'^x2)` gives the two first values and the
quotient of the two second ones.
-/

namespace ControlComponent

/-- A proof that two ciphertexts hold the same message. -/
structure PlaintextEqualityProof where
  challenge : Nat
  responses : List Nat
deriving DecidableEq

namespace PlaintextEqualityProof

/-- That two ciphertexts hold the same message, each under its key. -/
structure Statement where
  primary : ElGamal.Ciphertext
  primaryKey : Element
  secondary : ElGamal.Ciphertext
  secondaryKey : Element

/-- The values of a statement that can be proved or checked. -/
structure Claim where
  group : Group
  gamma : Nat
  phi : Nat
  key : Nat
  gamma' : Nat
  phi' : Nat
  key' : Nat
deriving DecidableEq

/-- The values of a statement: both ciphertexts must hold one message, and all must be of one
group. -/
def Statement.claim (s : Statement) : Except Error Claim :=
  match s.primary.phis, s.secondary.phis with
  | [phi], [phi'] =>
    let group := s.primary.group
    if s.secondary.group ≠ group ∨ s.primaryKey.group ≠ group ∨ s.secondaryKey.group ≠ group then
      .error .groupMismatch
    else
      .ok ⟨group, s.primary.gamma, phi, s.primaryKey.value, s.secondary.gamma, phi',
        s.secondaryKey.value⟩
  | _, _ => .error (.invalidProofInput .notSingle)

namespace Claim

/-- The map of which a proof shows that the prover knows a preimage. -/
def map (c : Claim) (x x' : Nat) : List Nat :=
  let group := c.group
  [group.pow group.g x, group.pow group.g x',
    group.mul (group.pow c.key x) (group.inv (group.pow c.key' x'))]

/-- What the map gives for the randomness of the two ciphertexts. -/
def image (c : Claim) : List Nat := [c.gamma, c.gamma', c.group.mul c.phi (c.group.inv c.phi')]

/-- The commitment that belongs to a challenge and two responses. -/
def recommit (c : Claim) (challenge response response' : Nat) : List Nat :=
  List.zipWith (fun phi y => c.group.mul phi (c.group.inv (c.group.pow y challenge)))
    (c.map response response') c.image

/-- What is hashed for the challenge. -/
def transcript (c : Claim) (commitment : List Nat) (auxiliary : List String) : HashTree :=
  Proof.transcript c.group c.image commitment auxiliary

end Claim

/-- The proof that two random numbers lead to. -/
def prove (suite : Suite) (c : Claim) (secret secret' : Nat) (auxiliary : List String)
    (nonce nonce' : Nat) : PlaintextEqualityProof :=
  let challenge :=
    suite.hashToExponent (c.transcript (c.map nonce nonce') auxiliary) c.group
  ⟨challenge, [Proof.respond c.group nonce challenge secret,
    Proof.respond c.group nonce' challenge secret']⟩

/-- Whether a proof fits its claim. -/
def isValid (suite : Suite) (c : Claim) (auxiliary : List String) (proof : PlaintextEqualityProof) :
    Bool :=
  match proof.responses with
  | [response, response'] =>
    proof.challenge < c.group.q && response < c.group.q && response' < c.group.q &&
      suite.hashToExponent
        (c.transcript (c.recommit proof.challenge response response') auxiliary) c.group
        == proof.challenge
  | _ => false

/-- A proof of a statement from the randomness of its two ciphertexts, with randomness of its own
drawn for it. -/
def generate (suite : Suite) (s : Statement) (secret secret' : Nat) (auxiliary : List String)
    (r : Randomness) : Except Error (PlaintextEqualityProof × Randomness) := do
  let c ← s.claim
  let (nonce, r) := r.below c.group.q
  let (nonce', r) := r.below c.group.q
  return (prove suite c secret secret' auxiliary nonce nonce', r)

/-- Whether a proof fits a statement, if that can be one. -/
def verify (suite : Suite) (s : Statement) (auxiliary : List String)
    (proof : PlaintextEqualityProof) : Except Error Bool := do
  let c ← s.claim
  return isValid suite c auxiliary proof

/-- How proofs are written. -/
def codec : Wire.Codec PlaintextEqualityProof :=
  .record (.required "e" .decimal <| .required "z" .decimals .done)
    (fun proof => (proof.challenge, proof.responses, ()))
    (fun (challenge, responses, ()) => ⟨challenge, responses⟩)

end PlaintextEqualityProof
end ControlComponent
