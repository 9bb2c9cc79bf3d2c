import ControlComponent.Key.Service
import ControlComponent.Node.Step

/-!
The first step of the voting phase: a voter's encrypted partial choice codes are partially
decrypted, at most once for every card. The record that a decryption leaves is what keeps the card
from being decrypted again.
-/

namespace ControlComponent.Node.Decryption

open Message (Vote)
open Message.Computation

/-- What ties the proofs of this phase to it. -/
def context : String := "PartialDecryptPCC"

/-- The number of values of a ciphertext of one message. -/
def ciphertextLength : Nat := 2

/-- The number of values of a ciphertext of so many messages, in 64 bits. -/
def expectedLength (overflow : Overflow) (selections : Nat) : Except Refusal Nat :=
  match overflow.succ selections with
  | some length => .ok length
  | none => .error (.failed .interrupted)

/-- Checks that come before the card is locked. -/
def accept (keys : Key.Service) (request : Request) (input : Input) :
    Except Rejection (Group × VoteInput) :=
  match keys.parameters request.electionId request.setId with
  | .error fault => .error (.missingGroup request.setId fault)
  | .ok group =>
    match input.voteInput with
    | none => .error .missingVoteInput
    | some voteInput =>
      if input.confirmationInput.isSome then .error .unexpectedConfirmation
      else .ok (group, voteInput)

/-! ### Checks under the lock -/

/-- Checks that a list has as many values as expected and members only. -/
def checkList (group : Group) (name : ListName) (expected : Nat) (values : List Nat) :
    Except Rejection Unit :=
  if values.length ≠ expected then .error (.wrongNumber name expected values.length)
  else if group.areMembers values then .ok () else .error (.notMember name)

/-- Checks the lists of a vote, of which that of the partial choice codes is expected to be so long,
and the node's own list against each other, and gives the value that is to be decrypted, which both
begin with. -/
def checkConsistency (group : Group) (expected : Nat) (vote : Vote) (elements : List Nat) :
    Except Refusal Nat := do
  let checked (x : Except Rejection Unit) : Except Refusal Unit := x.mapError .rejected
  checked (checkList group .encryptedPartialChoiceCodes expected vote.encryptedPartialCodes)
  checked (if elements.isEmpty then .error .missingElements else .ok ())
  checked (if group.areMembers elements then .ok () else .error (.notMember
    .returnCodesInputElements))
  checked (checkList group .cipherTextExponentiations ciphertextLength vote.exponentiatedOptions)
  checked (checkList group .encryptedOptions ciphertextLength vote.encryptedOptions)
  match elements, vote.encryptedPartialCodes with
  | own :: _, voters :: _ =>
    if own = voters then return own else .error (.rejected .firstElementMismatch)
  | _, _ => .error (.failed .interrupted)

/-- Checks the certificates of a request, and gives the key of the administration board. -/
def checkCertificates (suite : Suite) (keys : Key.Service) (input : Input) :
    Except Rejection Signature.PublicKey :=
  match input.certificates with
  | none => .error .missingCertificates
  | some bundle =>
    match keys.platformCa with
    | .error fault => .error (.keyUnavailable fault)
    | .ok root =>
      match Certificate.checkChain suite.signing root [bundle.adminBoard, bundle.tenantCa] with
      | .error error => .error (.invalidChain error)
      | .ok () => .ok bundle.adminBoard.publicKey

/-- The vote that a request brings, which must be one for the request's card. -/
def voteOf (request : Request) (voteInput : VoteInput) : Except Rejection Vote :=
  match Vote.ofText voteInput.vote with
  | .error fault => .error (.malformedVote fault)
  | .ok vote =>
    if vote.electionId = request.electionId ∧ vote.cardId = request.cardId then .ok vote
    else .error .voteMismatch

/-- Checks everything that must hold before a card is decrypted, against the records that are found,
and gives the value that is to be decrypted. -/
def examine (suite : Suite) (keys : Key.Service) (found : Store) (request : Request)
    (input : Input) (voteInput : VoteInput) (group : Group) : Except Refusal Nat := do
  if found.hasCard request.electionId request.cardId then .error (.rejected .alreadyDecrypted)
  let vote ← (voteOf request voteInput).mapError .rejected
  match input.elements with
  | none => .error (.rejected .missingElements)
  | some elements =>
    let selections ← (found.selections request.electionId request.setId).mapError
      (.failed ∘ .store)
    let expected ← expectedLength suite.overflow selections
    let gamma ← checkConsistency group expected vote elements
    let adminBoard ← (checkCertificates suite keys input).mapError .rejected
    let check ← (VoteCheck.check suite found group voteInput vote adminBoard).mapError
      (.failed ∘ .store)
    if check.isValid then return gamma else .error (.rejected (.invalidProofs check))

/-! ### Decryption -/

/-- A member raised to every exponent of the key, with a proof of it. -/
def decrypt (suite : Suite) (keys : Key.Service) (nodeId : Nat) (request : Request)
    (group : Group) (gamma : Nat) (state : State) : Step DecryptionShare :=
  match keys.decryptionKey request.electionId request.setId with
  | .error fault => .reject state [] (.keyUnavailable fault)
  | .ok secret =>
    match group.member gamma with
    | .error error => .reject state [] (.cryptographic error)
    | .ok gamma =>
      let key := secret.publicKey
      let contributions := secret.exponents.map (group.pow gamma)
      let statement : ExponentiationProof.Statement :=
        ⟨group.lift [group.g, gamma], [key.compress, ⟨group, group.product contributions⟩]⟩
      let auxiliary :=
        [request.electionId, request.cardId, context, Text.Decimal.render nodeId]
      let state := { state with proofs := state.proofs + 1 }
      match ExponentiationProof.generate suite statement secret.compress auxiliary
          state.randomness with
      | .error error => .reject state [] (.cryptographic error)
      | .ok (proof, randomness) =>
        ⟨.ok ⟨contributions, proof, key.values⟩, { state with randomness := randomness },
          [.secure ("partially decrypted partial choice return codes of verification card " ++
            request.cardId)]⟩

/-- Leaves the record of a decrypted card, unless there is one by now. -/
def record (request : Request) (share : DecryptionShare) (state : State) : Step DecryptionShare :=
  match state.store.addCard? (.new request.electionId request.cardId) with
  | none => .reject state [] .alreadyDecrypted
  | some store => ⟨.ok share, state.withStore store, []⟩

/-- What is done while the card is locked. -/
def locked (suite : Suite) (keys : Key.Service) (nodeId : Nat) (found : Store)
    (request : Request) (input : Input) (voteInput : VoteInput) (group : Group) (state : State) :
    Step DecryptionShare :=
  match examine suite keys found request input voteInput group with
  | .error (.rejected reason) => .reject state reason.causeLines reason
  | .error (.failed failure) => .fail state [] failure
  | .ok gamma =>
    (decrypt suite keys nodeId request group gamma state).andThen (record request)

/-- The signed answer to a request. -/
def respond (suite : Suite) (keys : Key.Service) (request : Request) (share : DecryptionShare)
    (state : State) : Step (Envelope (Signed DecryptionShare)) :=
  match keys.signingKey request.electionId with
  | .error fault => .reject state [] (.keyUnavailable fault)
  | .ok secret =>
    match keys.chain request.electionId with
    | .error fault => .reject state [] (.keyUnavailable fault)
    | .ok chain =>
      match Signed.sign suite.signing DecryptionShare.codec secret chain share with
      | .error error => .fail state [] (.internal error)
      | .ok signed =>
        ⟨.ok (request.reply signed), state,
          [.of .info ("partial decryption request " ++ request.requestId ++ " processed")]⟩

/-- What is logged when a request is taken up. -/
def beginLine (request : Request) : Log.Line :=
  .of .info ("processing partial decryption request " ++ request.requestId ++
    " for verification card " ++ request.cardId)

/-- What is logged when a request is dropped under the lock. -/
def dropLine (request : Request) (reason : Rejection) : Log.Line :=
  .of .warn ("partial decryption request " ++ request.requestId ++ " for verification card " ++
    request.cardId ++ " dropped: " ++ reason.message)

/-- Processes a request. The checks look at the records that are found, while the record of a
decryption goes into the store: these are the same unless someone else is at work. -/
def process (suite : Suite) (keys : Key.Service) (nodeId : Nat) (found : Store)
    (request : Request) (state : State) : Step (Envelope (Signed DecryptionShare)) :=
  match request.payload, request.invalidFields with
  | some input, [] =>
    let begun := [beginLine request]
    match accept keys request input with
    | .error reason => .reject state (begun ++ reason.causeLines) reason
    | .ok (group, voteInput) =>
      let card : Place := ⟨request.electionId, request.cardId⟩
      let step := (locked suite keys nodeId found request input voteInput group
        (state.acquire card)).onReject (dropLine request)
      let step := { step with state := step.state.release card, log := begun ++ step.log }
      step.andThen (respond suite keys request)
  | _, fields => .fail state [] (.invalidRequest fields)

end ControlComponent.Node.Decryption
