import ControlComponent.Key.Service
import ControlComponent.Message.Generation
import ControlComponent.Node.Step
import ControlComponent.VoterKey

/-!
The set-up phase: the encrypted partial choice codes and the encrypted confirmation key of every
card of a request are raised to the keys of the card.

A request is answered as a whole or not at all. Everything is computed before the public keys of the
cards and the number of selections are stored; cards up to the first one that cannot be answered do
use up randomness.
-/

namespace ControlComponent.Node.Generation

open Message.Generation

/-- What ties the proofs of this phase to it. -/
def context : String := "GenEncLongCodeShares"

/-- Checks who signed a request and which group it is in, and finds the key for it. -/
def authorize (suite : Suite) (keys : Key.Service) (request : SignedRequest) :
    Except Refusal ElGamal.SecretKey :=
  let payload := request.payload.payload
  match keys.platformCa with
  | .error fault => .error (.failed (.keys fault))
  | .ok root =>
    match request.payload.check suite.signing Request.codec root with
    | .error .missingSignature => .error (.rejected .missingSignature)
    | .error error => .error (.rejected (.invalidSignature error))
    | .ok () =>
      match keys.generationKey payload.electionId payload.setId with
      | .error fault => .error (.failed (.keys fault))
      | .ok secret =>
        if secret.group ≠ payload.group then .error (.rejected .groupMismatch) else .ok secret

/-! ### Cards -/

/-- A card that can be answered: its ciphertexts and the two keys derived for it. -/
structure Ready where
  cardId : String
  choiceKey : Nat
  voteCastKey : Nat
  partialCodes : ElGamal.Ciphertext
  confirmationKey : ElGamal.Ciphertext

/-- The keys and ciphertexts of a card. -/
def derive (suite : Suite) (group : Group) (master : Nat) (input : Input) :
    Except Error Ready := do
  let choiceKey ← VoterKey.deriveFor suite master .choice input.cardId group
  let voteCastKey ← VoterKey.deriveFor suite master .voteCast input.cardId group
  let partialCodes ← ElGamal.Ciphertext.ofValues group input.partialCodes
  let confirmationKey ← ElGamal.Ciphertext.ofValues group input.confirmationKey
  return ⟨input.cardId, choiceKey, voteCastKey, partialCodes, confirmationKey⟩

/-- Checks a card and prepares its answer. -/
def prepare (suite : Suite) (group : Group) (master : Nat) (input : Input) :
    Except Rejection Ready :=
  if group.areMembers input.cardPublicKey then
    (derive suite group master input).mapError .cryptographic
  else .error (.notMember .verificationCardPublicKey)

/-- The cards up to the first one that cannot be answered, and that one with the reason. -/
def prepareAll (suite : Suite) (group : Group) (master : Nat) :
    List Input → List Ready × Option (String × Rejection)
  | [] => ([], none)
  | input :: rest =>
    match prepare suite group master input with
    | .error reason => ([], some (input.cardId, reason))
    | .ok ready =>
      let (readies, obstacle) := prepareAll suite group master rest
      (ready :: readies, obstacle)

/-- A proof that the values of a ciphertext, and the generator, have been raised to a key. -/
def proveCiphertext (suite : Suite) (group : Group) (key : Nat)
    (ciphertext : ElGamal.Ciphertext) (auxiliary : List String) (nonce : Nat) :
    ExponentiationProof :=
  let bases := group.g :: ciphertext.gamma :: ciphertext.phis
  ExponentiationProof.prove suite group bases (bases.map (group.pow · key)) key auxiliary nonce

/-- The answer for a card, given the randomness of its two proofs. -/
def answer (suite : Suite) (group : Group) (electionId : String) (nodeId : Nat) (ready : Ready)
    (nonce nonce' : Nat) : Output :=
  let auxiliary := [electionId, ready.cardId, context, Text.Decimal.render nodeId]
  { cardId := ready.cardId
    choicePublicKey := [group.pow group.g ready.choiceKey]
    voteCastPublicKey := [group.pow group.g ready.voteCastKey]
    partialCodes := (ready.partialCodes.pow ready.choiceKey).toValues
    partialCodesProof :=
      proveCiphertext suite group ready.choiceKey ready.partialCodes auxiliary nonce
    confirmationKey := (ready.confirmationKey.pow ready.voteCastKey).toValues
    confirmationKeyProof :=
      proveCiphertext suite group ready.voteCastKey ready.confirmationKey auxiliary nonce' }

/-- The answers for cards, with randomness drawn for one after another. -/
def answerAll (suite : Suite) (group : Group) (electionId : String) (nodeId : Nat) :
    List Ready → Randomness → List Output × Randomness
  | [], r => ([], r)
  | ready :: rest, r =>
    let (nonce, r) := r.below group.q
    let (nonce', r) := r.below group.q
    let (outputs, r) := answerAll suite group electionId nodeId rest r
    (answer suite group electionId nodeId ready nonce nonce' :: outputs, r)

/-! ### Requests -/

/-- The store with the public keys of a request's cards, the last of a card holding. -/
def register (payload : Request) (store : Store) : Store :=
  payload.inputs.foldl
    (fun store input =>
      store.putCardKey ⟨payload.electionId, payload.setId, input.cardId, input.cardPublicKey⟩)
    store

/-- The number of selections that a request states for its card set. -/
def count (payload : Request) : SelectionCount :=
  ⟨payload.electionId, payload.setId, payload.correctness.selections⟩

/-- The signed answer to a request. -/
def respond (suite : Suite) (keys : Key.Service) (nodeId : Nat) (payload : Request) (group : Group)
    (outputs : List Output) : Except Failure (Signed Response) := do
  let secret ← (keys.signingKey payload.electionId).mapError .keys
  let chain ← (keys.chain payload.electionId).mapError .keys
  (Signed.sign suite.signing Response.codec secret chain
    { tenantId := payload.tenantId
      electionId := payload.electionId
      setId := payload.setId
      chunkId := payload.chunkId
      group := group
      outputs := outputs
      nodeId := nodeId }).mapError .internal

/-- What is logged when a request is taken up. -/
def beginLine (request : SignedRequest) : Log.Line :=
  let payload := request.payload.payload
  .of .info ("processing generation request " ++ request.requestId ++
    " for verification card set " ++ payload.setId ++ " (" ++ payload.electionId ++ ") chunk " ++
    Text.Decimal.render payload.chunkId)

/-- What is logged of a card that has been answered. -/
def answerLine (ready : Ready) : Log.Line :=
  .secure ("generated return code shares for verification card " ++ ready.cardId)

/-- What is logged of a card that cannot be answered. -/
def obstacleLines (cardId : String) : Rejection → List Log.Line
  | .cryptographic error =>
    [.of .error ("return code generation failed for verification card " ++ cardId ++ ": " ++
      error.message)]
  | _ => []

/-- Stores what a request registers and answers it, once its cards are computed. -/
def conclude (suite : Suite) (keys : Key.Service) (nodeId : Nat) (request : SignedRequest)
    (group : Group) (outputs : List Output) (state : State) : Step (Envelope Response) :=
  let payload := request.payload.payload
  let registered := register payload state.store
  let state := state.withStore (registered.addCount (count payload))
  let log := if (registered.addCount? (count payload)).isNone then []
    else [.of .debug ("stored correctness information for verification card set " ++
      payload.setId)]
  match respond suite keys nodeId payload group outputs with
  | .error failure => .fail state log failure
  | .ok signed =>
    ⟨.ok ⟨request.correlationId, request.requestId, signed⟩, state,
      log ++ [.of .info ("return code generation request " ++ request.requestId ++
        " processed, " ++ Text.Decimal.render outputs.length ++ " verification cards")]⟩

/-- Processes a request. -/
def process (suite : Suite) (keys : Key.Service) (nodeId : Nat) (request : SignedRequest)
    (state : State) : Step (Envelope Response) :=
  let payload := request.payload.payload
  match invalidFields request with
  | field :: fields => .fail state [] (.invalidRequest (field :: fields))
  | [] =>
    let begun := [beginLine request]
    match authorize suite keys request with
    | .error refusal => ⟨.error refusal, state, begun⟩
    | .ok secret =>
      let group := secret.group
      let (ready, obstacle) := prepareAll suite group secret.first payload.inputs
      let (outputs, randomness) :=
        answerAll suite group payload.electionId nodeId ready state.randomness
      let state :=
        { state with randomness := randomness, proofs := state.proofs + 2 * ready.length }
      let log := begun ++ ready.map answerLine
      match obstacle with
      | some (cardId, reason) => .reject state (log ++ obstacleLines cardId reason) reason
      | none =>
        let step := conclude suite keys nodeId request group outputs state
        { step with log := log ++ step.log }

end ControlComponent.Node.Generation
