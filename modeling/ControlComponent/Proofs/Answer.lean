import Mathlib.Data.List.Forall2
import Mathlib.Tactic.SplitIfs
import ControlComponent.Proofs.Effect

/-!
What the answer to a message holds.

A message that is answered has passed all checks of its engine, and everything in the answer has
been computed from what those checks found. For the voting phase this is said of the one share of a
request. A request of the set-up phase has one output for each of its cards, in the order of the
cards, so there it is said of each card and its output.
-/

namespace ControlComponent

/-! ### Ciphertexts -/

namespace Group

variable {group : Group}

/-- Members are read as they are. -/
theorem members_eq_ok {values values' : List Nat} :
    group.members values = .ok values' ↔ group.areMembers values = true ∧ values' = values := by
  unfold members areMembers
  rw [mapM_eq_ok fun _ _ => member_eq_ok, List.all_eq_true, List.map_id']

end Group

/-- A ciphertext is read as it is, and all of its values are members. -/
theorem ElGamal.Ciphertext.ofValues_eq_ok {group : Group} {values : ElGamal.CiphertextValues}
    {c : ElGamal.Ciphertext} (read : ofValues group values = .ok c) :
    c = ⟨group, values.gamma, values.phis⟩ ∧
      group.areMembers (values.gamma :: values.phis) = true := by
  obtain ⟨gamma, first, rest⟩ := bind_eq_ok.1 read
  obtain ⟨phis, all, ⟨⟩⟩ := bind_eq_ok.1 rest
  obtain ⟨members, rfl⟩ := Group.members_eq_ok.1 all
  obtain ⟨isMember, same⟩ := Group.member_eq_ok.1 first
  cases same
  exact ⟨rfl, Group.areMembers_cons.2 ⟨isMember, members⟩⟩

namespace Node

/-! ### Generation -/

namespace Generation

open Message.Generation

variable {suite : Suite} {keys : Key.Service} {nodeId : Nat} {group : Group} {master : Nat}

/-- A card that has been prepared: its two keys, and its ciphertexts as they came. -/
structure Prepared (suite : Suite) (group : Group) (master : Nat) (input : Input)
    (ready : Ready) : Prop where
  cardId : ready.cardId = input.cardId
  choiceKey :
    VoterKey.deriveFor suite master .choice input.cardId group = .ok ready.choiceKey
  voteCastKey :
    VoterKey.deriveFor suite master .voteCast input.cardId group = .ok ready.voteCastKey
  partialCodes : ready.partialCodes = ⟨group, input.partialCodes.gamma, input.partialCodes.phis⟩
  partialCodes_members :
    group.areMembers (input.partialCodes.gamma :: input.partialCodes.phis) = true
  confirmationKey :
    ready.confirmationKey = ⟨group, input.confirmationKey.gamma, input.confirmationKey.phis⟩
  confirmationKey_members :
    group.areMembers (input.confirmationKey.gamma :: input.confirmationKey.phis) = true

theorem prepared_of_prepare {input : Input} {ready : Ready}
    (done : prepare suite group master input = .ok ready) :
    Prepared suite group master input ready := by
  unfold prepare at done
  split at done
  · have derived := mapError_eq_ok.1 done
    obtain ⟨choiceKey, choice, derived₁⟩ := bind_eq_ok.1 derived
    obtain ⟨voteCastKey, voteCast, derived₂⟩ := bind_eq_ok.1 derived₁
    obtain ⟨partialCodes, codes, derived₃⟩ := bind_eq_ok.1 derived₂
    obtain ⟨confirmationKey, confirmation, ⟨⟩⟩ := bind_eq_ok.1 derived₃
    obtain ⟨codes_eq, codes_members⟩ := ElGamal.Ciphertext.ofValues_eq_ok codes
    obtain ⟨key_eq, key_members⟩ := ElGamal.Ciphertext.ofValues_eq_ok confirmation
    exact ⟨rfl, choice, voteCast, codes_eq, codes_members, key_eq, key_members⟩
  · cases done

/-- If no card is in the way, all cards are prepared. -/
theorem forall₂_prepareAll {inputs : List Input} {ready : List Ready}
    (all : prepareAll suite group master inputs = (ready, none)) :
    List.Forall₂ (Prepared suite group master) inputs ready := by
  induction inputs generalizing ready with
  | nil =>
    cases all
    exact .nil
  | cons input rest ih =>
    unfold prepareAll at all
    split at all
    · cases all
    · rename_i first done
      cases later : prepareAll suite group master rest with
      | mk others obstacle =>
        rw [later] at all
        cases all
        exact .cons (prepared_of_prepare done) (ih later)

/-- Whether an output is the answer for a card. -/
def Answers (suite : Suite) (group : Group) (master : Nat) (electionId : String) (nodeId : Nat)
    (input : Input) (output : Output) : Prop :=
  ∃ ready nonce nonce', Prepared suite group master input ready ∧
    output = answer suite group electionId nodeId ready nonce nonce'

/-- The answers begin with that for the first card. The draws stay closed: opening them would run
the rejection loop. -/
theorem answerAll_cons (electionId : String) (nodeId : Nat) (card : Ready) (rest : List Ready)
    (r : Randomness) :
    answerAll suite group electionId nodeId (card :: rest) r =
      let (nonce, r) := r.below group.q
      let (nonce', r) := r.below group.q
      let (outputs, r) := answerAll suite group electionId nodeId rest r
      (answer suite group electionId nodeId card nonce nonce' :: outputs, r) := rfl

/-- Prepared cards are answered one by one. -/
theorem forall₂_answerAll {inputs : List Input} {ready : List Ready}
    (prepared : List.Forall₂ (Prepared suite group master) inputs ready) (electionId : String)
    (nodeId : Nat) (r : Randomness) :
    List.Forall₂ (Answers suite group master electionId nodeId) inputs
      (answerAll suite group electionId nodeId ready r).1 := by
  induction prepared generalizing r with
  | nil => exact .nil
  | @cons _ card _ rest first _ ih =>
    rw [answerAll_cons]
    generalize r.below group.q = draw
    obtain ⟨nonce, r₁⟩ := draw
    dsimp only
    generalize r₁.below group.q = draw'
    obtain ⟨nonce', r₂⟩ := draw'
    exact .cons ⟨card, nonce, nonce', first, rfl⟩ (ih r₂)

/-- The answer for a card stands where the card stands. -/
theorem exists_output {electionId : String} {inputs : List Input} {outputs : List Output}
    (answers : List.Forall₂ (Answers suite group master electionId nodeId) inputs outputs)
    {i : Nat} {input : Input} (card : inputs[i]? = some input) :
    ∃ output, outputs[i]? = some output ∧
      Answers suite group master electionId nodeId input output := by
  obtain ⟨inside, rfl⟩ := List.getElem?_eq_some_iff.1 card
  have inside' : i < outputs.length := answers.length_eq ▸ inside
  exact ⟨outputs.get ⟨i, inside'⟩, List.getElem?_eq_getElem inside', answers.get inside inside'⟩

/-- A completed request was authorized, and its response has the answer for every card. -/
theorem answered {request : SignedRequest} {state : State} {response : Envelope Response}
    (done : (process suite keys nodeId request state).result = .ok response) :
    ∃ secret outputs signed, authorize suite keys request = .ok secret ∧
      List.Forall₂ (Answers suite secret.group secret.first request.payload.payload.electionId
        nodeId) request.payload.payload.inputs outputs ∧
      keys.Signs suite.signing Response.codec request.payload.payload.electionId
        ⟨request.payload.payload.tenantId, request.payload.payload.electionId,
          request.payload.payload.setId, request.payload.payload.chunkId, secret.group, outputs,
          nodeId⟩ signed ∧
      response = ⟨request.correlationId, request.requestId, signed⟩ := by
  rcases process_cases suite keys nodeId request state with
    ⟨⟨_, refused⟩, -⟩ | ⟨secret, ready, -, authorized, prepared, -, result⟩
  · cases refused.symm.trans done
  · rw [result] at done
    have outputs := forall₂_answerAll (forall₂_prepareAll prepared)
      request.payload.payload.electionId nodeId state.randomness
    generalize (answerAll suite secret.group request.payload.payload.electionId nodeId ready
      state.randomness).1 = answers at done outputs
    obtain ⟨signed, responded, rfl⟩ := map_eq_ok.1 done
    exact ⟨secret, answers, signed, authorized, outputs,
      signs_respond (mapError_eq_ok.1 responded), rfl⟩

end Generation

/-! ### Decryption and exponentiation -/

open Message.Computation

variable {suite : Suite} {keys : Key.Service} {nodeId : Nat} {request : Request} {state : State}

/-- A completed decryption has passed all checks, and its response is the share they led to. -/
theorem Decryption.answered {found : Store} {response : Envelope (Signed DecryptionShare)}
    (done : (process suite keys nodeId found request state).result = .ok response) :
    ∃ input voteInput group gamma secret share signed,
      Passed suite keys found request input voteInput group gamma secret share ∧
      Proves suite nodeId request group gamma secret share.proof ∧
      keys.Signs suite.signing DecryptionShare.codec request.electionId share signed ∧
      response = request.reply signed := by
  rcases process_cases suite keys nodeId found request state with
    ⟨⟨_, refused⟩, -⟩ |
    ⟨input, voteInput, group, gamma, secret, share, _, _, passed, proves, -, -, result⟩
  · cases refused.symm.trans done
  · obtain ⟨signed, same, signs⟩ := signs_respond (result.symm.trans done)
    exact ⟨input, voteInput, group, gamma, secret, share, signed, passed, proves, signs, same⟩

/-- A completed exponentiation has passed all checks, and its response is the share they led to. -/
theorem Exponentiation.answered {maxAttempts : Nat}
    {response : Envelope (Signed ExponentiationShare)}
    (done : (process suite keys nodeId maxAttempts request state).result = .ok response) :
    ∃ input group record values master share signed,
      Passed suite keys nodeId maxAttempts state.store request input group record values master
        share ∧
      keys.Signs suite.signing ExponentiationShare.codec request.electionId share signed ∧
      response = request.reply signed := by
  rcases process_cases suite keys nodeId maxAttempts request state with
    ⟨⟨_, refused⟩, -⟩ | ⟨input, group, record, values, master, share, _, passed, -, result⟩
  · cases refused.symm.trans done
  · obtain ⟨signed, same, signs⟩ := signs_respond (result.symm.trans done)
    exact ⟨input, group, record, values, master, share, signed, passed, signs, same⟩

/-- The shares are those of the values, in their order. -/
theorem Exponentiation.shares_eq (suite : Suite) (group : Group) (phase : Phase)
    (values : List Nat) (key : Nat) (auxiliary : List String) (nonce : Nat) :
    (shares suite group phase values key auxiliary nonce).shares =
      values.map fun v => ⟨v, group.pow (suite.hashAndSquare ⟨group, v⟩).value key⟩ := by
  simp [shares, List.zipWith_map_right, List.zipWith_self]

/-- The values that are raised are those of the request. -/
theorem Exponentiation.elements_of_examine {group : Group} {store : Store} {maxAttempts : Nat}
    {input : Input} {phase : Phase} {record : CardRecord} {values : List Nat}
    (examined : examine group store maxAttempts request input phase record = .ok values) :
    input.elements = some values := by
  cases phase with
  | choice =>
    simp only [examine, checkCodes] at examined
    split at examined
    · cases examined
    · split at examined
      · cases examined
      · rename_i listed
        split at examined
        · cases examined
        · split_ifs at examined
          cases examined
          exact listed
  | voteCast =>
    simp only [examine] at examined
    split_ifs at examined
    have checked := mapError_eq_ok.1 examined
    unfold checkConfirmation at checked
    split at checked
    · cases checked
    · rename_i key listed
      split at checked
      · cases checked
      · split at checked
        · cases checked
        · split_ifs at checked
          cases checked
          exact listed
    · cases checked

end Node
end ControlComponent
