import ControlComponent.Node.Decryption
import ControlComponent.Node.Exponentiation
import ControlComponent.Node.Generation

/-!
What the proofs of a node are about. Whoever has a request and its response can rebuild the
statement of every proof in the response, and check it with nothing else but the group.
-/

namespace ControlComponent.Node

/-- A statement with the texts that tie its proof to its occasion. -/
structure Claimed where
  statement : ExponentiationProof.Statement
  auxiliary : List String

/-- Whether a proof fits a claimed statement. -/
def Claimed.isProved (suite : Suite) (c : Claimed) (proof : ExponentiationProof) : Bool :=
  match proof.verify suite c.statement c.auxiliary with
  | .ok valid => valid
  | .error _ => false

/-- The texts that tie a proof to its election event, card, phase and node. -/
def auxiliary (electionId cardId context : String) (nodeId : Nat) : List String :=
  [electionId, cardId, context, Text.Decimal.render nodeId]

namespace Generation

open ElGamal (CiphertextValues)
open Message.Generation

/-- That a ciphertext has been raised to the key of which `publicKey` is the public one. -/
def ciphertextStatement (group : Group) (c raised : CiphertextValues) (publicKey : List Nat) :
    ExponentiationProof.Statement :=
  ⟨group.lift (group.g :: c.gamma :: c.phis), group.lift (publicKey ++ raised.gamma :: raised.phis)⟩

/-- What the two proofs for a card are about. -/
def claims (response : Response) (input : Input) (output : Output) : Claimed × Claimed :=
  let texts := auxiliary response.electionId output.cardId context response.nodeId
  (⟨ciphertextStatement response.group input.partialCodes output.partialCodes
      output.choicePublicKey, texts⟩,
    ⟨ciphertextStatement response.group input.confirmationKey output.confirmationKey
      output.voteCastPublicKey, texts⟩)

/-- Whether each proof of a response fits, two for every card. -/
def checkProofs (suite : Suite) (request : Request) (response : Response) : List Bool :=
  (List.zipWith (fun input output =>
    let (codes, confirmation) := claims response input output
    [codes.isProved suite output.partialCodesProof,
      confirmation.isProved suite output.confirmationKeyProof])
    request.inputs response.outputs).flatten

end Generation

namespace Decryption

open Message.Computation

/-- What the proof of a decryption of `gamma` is about. -/
def claim (group : Group) (nodeId : Nat) (electionId cardId : String) (gamma : Nat)
    (share : DecryptionShare) : Claimed :=
  ⟨⟨group.lift [group.g, gamma],
      group.lift [group.product share.publicKey, group.product share.contributions]⟩,
    auxiliary electionId cardId context nodeId⟩

/-- Whether the proof of a response fits. -/
def checkProof (suite : Suite) (group : Group) (nodeId : Nat) (request : Request)
    (share : DecryptionShare) : Bool :=
  match request.payload.bind (·.elements) with
  | some (gamma :: _) =>
    (claim group nodeId request.electionId request.cardId gamma share).isProved suite share.proof
  | _ => false

end Decryption

namespace Exponentiation

open Message.Computation

/-- What the proof of a share is about. -/
def claim (suite : Suite) (group : Group) (nodeId : Nat) (electionId cardId : String)
    (phase : Phase) (share : ExponentiationShare) : Claimed :=
  let publicKey := match phase with
    | .choice => share.choicePublicKey
    | .voteCast => share.voteCastPublicKey
  ⟨⟨group.generator :: share.shares.map fun s => suite.hashAndSquare ⟨group, s.input⟩,
      group.lift (publicKey.toList ++ share.shares.map (·.share))⟩,
    auxiliary electionId cardId phase.context nodeId⟩

/-- Whether the proof of a response fits. -/
def checkProof (suite : Suite) (group : Group) (nodeId : Nat) (request : Request)
    (share : ExponentiationShare) : Bool :=
  match request.payload with
  | some input =>
    (claim suite group nodeId request.electionId request.cardId (.of input) share).isProved suite
      share.proof
  | none => false

end Exponentiation
end ControlComponent.Node
