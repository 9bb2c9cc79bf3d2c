import ControlComponent.Key.Service
import ControlComponent.Node.Step
import ControlComponent.VoterKey

/-!
The later steps of the voting phase: a voter's partial choice codes, and then the confirmation key,
are raised to the keys of the card, which gives the node's shares of the long return codes. The
first happens once for every card, the second a limited number of times. Each is recorded before it
is answered.
-/

namespace ControlComponent.Node.Exponentiation

open Message (Confirmation)
open Message.Computation

/-! ### Phases -/

/-- Which exponentiation is wanted. -/
inductive Phase where
  | choice
  | voteCast
deriving DecidableEq

namespace Phase

/-- A request with a confirmation is one for the vote cast code. -/
def of (input : Input) : Phase := if input.confirmationInput.isSome then .voteCast else .choice

/-- The kind of the card's key. -/
def keyKind : Phase → VoterKey.Kind
  | .choice => .choice
  | .voteCast => .voteCast

/-- What ties the proofs of a phase to it. -/
def context : Phase → String
  | .choice => "CreateLCCShare"
  | .voteCast => "CreateLVCCShare"

/-- The name of a phase. -/
def name : Phase → String
  | .choice => "ChoiceReturnCodes"
  | .voteCast => "VoteCastReturnCode"

/-- The record of a card after a phase. -/
def advance (record : CardRecord) : Phase → CardRecord
  | .choice => { record with isExponentiated := true }
  | .voteCast => { record with attempts := record.attempts + 1 }

end Phase

/-! ### Checks -/

/-- Checks the partial choice codes of a request: as many as there are selections, all different,
and all members. -/
def checkCodes (group : Group) (store : Store) (request : Request) (input : Input) :
    Except Refusal (List Nat) :=
  match input.elements with
  | none => .error (.rejected .missingElements)
  | some values =>
    match store.selections request.electionId request.setId with
    | .error fault => .error (.failed (.store fault))
    | .ok selections =>
      if values.length ≠ selections then
        .error (.rejected (.wrongNumber .partialChoiceReturnCodes selections values.length))
      else if ¬values.Nodup then .error (.rejected .duplicateElements)
      else if group.areMembers values then .ok values
      else .error (.rejected (.notMember .partialChoiceReturnCodes))

/-- Checks the confirmation key of a request: a single member, the one of the voter's message. -/
def checkConfirmation (group : Group) (input : Input) : Except Rejection (List Nat) :=
  match input.elements with
  | none => .error .missingElements
  | some [key] =>
    match input.confirmationInput with
    | none => .error .missingVoteInput
    | some confirmationInput =>
      match Confirmation.ofText confirmationInput.confirmation with
      | .error fault => .error (.malformedConfirmation fault)
      | .ok confirmation =>
        if group.isMember key then
          if key = confirmation.key then .ok [key] else .error .confirmationMismatch
        else .error (.notMember .confirmationKey)
  | some values => .error (.wrongNumber .confirmationKey 1 values.length)

/-- Checks everything that must hold before anything is computed, and gives the values to raise. -/
def examine (group : Group) (store : Store) (maxAttempts : Nat) (request : Request)
    (input : Input) (phase : Phase) (record : CardRecord) : Except Refusal (List Nat) :=
  match phase with
  | .choice =>
    if record.isExponentiated then .error (.failed (.store (.alreadyExponentiated request.cardId)))
    else checkCodes group store request input
  | .voteCast =>
    if !record.isExponentiated then .error (.failed (.store (.notExponentiated request.cardId)))
    else if maxAttempts ≤ record.attempts then .error (.rejected (.attemptsExceeded maxAttempts))
    else (checkConfirmation group input).mapError .rejected

/-! ### Shares -/

/-- The values hashed into the group and raised to the key of the card, and a proof of it. -/
def shares (suite : Suite) (group : Group) (phase : Phase) (values : List Nat) (key : Nat)
    (auxiliary : List String) (nonce : Nat) : ExponentiationShare :=
  let hashed := values.map fun v => (suite.hashAndSquare ⟨group, v⟩).value
  let bases := group.g :: hashed
  let publicKey := group.pow group.g key
  { shares := List.zipWith LongCodeShare.mk values (hashed.map (group.pow · key))
    proof := ExponentiationProof.prove suite group bases (bases.map (group.pow · key)) key
      auxiliary nonce
    choicePublicKey := if phase = .choice then some publicKey else none
    voteCastPublicKey := if phase = .voteCast then some publicKey else none }

/-- What is done while the card is locked. -/
def locked (suite : Suite) (keys : Key.Service) (nodeId maxAttempts : Nat) (request : Request)
    (input : Input) (phase : Phase) (group : Group) (state : State) : Step ExponentiationShare :=
  match state.store.card request.electionId request.cardId with
  | .error fault => .fail state [] (.store fault)
  | .ok record =>
    match examine group state.store maxAttempts request input phase record with
    | .error refusal => ⟨.error refusal, state, []⟩
    | .ok values =>
      match keys.generationKey request.electionId request.setId with
      | .error fault => .fail state [] (.keys fault)
      | .ok master =>
        match VoterKey.deriveFor suite master.first phase.keyKind request.cardId group with
        | .error error => .reject state [] (.cryptographic error)
        | .ok key =>
          let (nonce, randomness) := state.randomness.below group.q
          let auxiliary :=
            [request.electionId, request.cardId, phase.context, Text.Decimal.render nodeId]
          ⟨.ok (shares suite group phase values key auxiliary nonce),
            { state with
              store := state.store.putCard (phase.advance record)
              randomness := randomness
              proofs := state.proofs + 1 },
            [.secure ("computed " ++ Text.Decimal.render values.length ++
              " long return code shares for verification card " ++ request.cardId)]⟩

/-! ### Requests -/

/-- The signed answer to a request. -/
def respond (suite : Suite) (keys : Key.Service) (request : Request) (share : ExponentiationShare)
    (state : State) : Step (Envelope (Signed ExponentiationShare)) :=
  match keys.signingKey request.electionId with
  | .error fault => .fail state [] (.keys fault)
  | .ok secret =>
    match keys.chain request.electionId with
    | .error fault => .fail state [] (.keys fault)
    | .ok chain =>
      match Signed.sign suite.signing ExponentiationShare.codec secret chain share with
      | .error error => .fail state [] (.internal error)
      | .ok signed =>
        ⟨.ok (request.reply signed), state,
          [.of .info ("exponentiation request " ++ request.requestId ++ " processed")]⟩

/-- What is logged when a request is taken up. -/
def beginLine (phase : Phase) (request : Request) : Log.Line :=
  .of .info ("processing " ++ phase.name ++ " exponentiation request " ++ request.requestId ++
    " for verification card " ++ request.cardId)

/-- What is logged when a request is dropped under the lock. -/
def dropLine (request : Request) (reason : Rejection) : Log.Line :=
  .of .warn ("exponentiation request " ++ request.requestId ++ " for verification card " ++
    request.cardId ++ " dropped: " ++ reason.message)

/-- Processes a request. -/
def process (suite : Suite) (keys : Key.Service) (nodeId maxAttempts : Nat) (request : Request)
    (state : State) : Step (Envelope (Signed ExponentiationShare)) :=
  match request.payload, request.invalidFields with
  | some input, [] =>
    let phase := Phase.of input
    let begun := [beginLine phase request]
    match keys.parameters request.electionId request.setId with
    | .error fault =>
      let reason := Rejection.missingGroup request.setId fault
      .reject state (begun ++ reason.causeLines) reason
    | .ok group =>
      let card : Place := ⟨request.electionId, request.cardId⟩
      let step := (locked suite keys nodeId maxAttempts request input phase group
        (state.acquire card)).onReject (dropLine request)
      let step := { step with state := step.state.release card, log := begun ++ step.log }
      step.andThen (respond suite keys request)
  | _, fields => .fail state [] (.invalidRequest fields)

end ControlComponent.Node.Exponentiation
