import ControlComponent.Node.Basic
import ControlComponent.Proofs.Lookup
import ControlComponent.Proofs.Outcome

/-!
What a message does to the store of a node.

Each of the three engines has one theorem that says everything: either the message is refused and
the store is what it was, or it went through every check and the store is changed in one way, after
which only the signing of the answer is left. Nothing else about the engines is needed to reason
about runs of a node.
-/

namespace ControlComponent

/-- Signing adds a signature and the chain of the key, and leaves the payload alone. -/
theorem Signed.sign_eq_ok {scheme : Signature.Scheme} {c : Wire.Codec α}
    {secret : Signature.SecretKey} {chain : List Certificate} {payload : α} {signed : Signed α}
    (done : sign scheme c secret chain payload = .ok signed) :
    signed = ⟨payload, some ⟨scheme.sign secret (message c payload), chain⟩⟩ := by
  unfold sign at done
  split at done
  · cases done
  · split at done
    · cases done
    · cases done
      rfl

/-- Whether a value is a payload signed with the key of an election event. -/
def Key.Service.Signs (keys : Key.Service) (scheme : Signature.Scheme) (c : Wire.Codec α)
    (electionId : String) (payload : α) (signed : Signed α) : Prop :=
  ∃ secret chain, keys.signingKey electionId = .ok secret ∧ keys.chain electionId = .ok chain ∧
    Signed.sign scheme c secret chain payload = .ok signed

theorem Key.Service.Signs.exists_signature {keys : Key.Service} {scheme : Signature.Scheme}
    {c : Wire.Codec α} {electionId : String} {payload : α} {signed : Signed α}
    (signs : keys.Signs scheme c electionId payload signed) :
    ∃ signature, signed = ⟨payload, some signature⟩ := by
  obtain ⟨_, _, -, -, made⟩ := signs
  exact ⟨_, Signed.sign_eq_ok made⟩

namespace Node

open Message (Vote)
open Message.Computation

/-! ### Steps -/

namespace Step

/-- Whether a step ends without a result and leaves the store alone. -/
def Refused (s : Step α) (before : State) : Prop :=
  (∃ refusal, s.result = .error refusal) ∧ s.state.store = before.store

theorem refused_reject (state : State) (log : List Log.Line) (reason : Rejection) :
    (reject state log reason : Step α).Refused state :=
  ⟨⟨_, rfl⟩, rfl⟩

theorem refused_fail (state : State) (log : List Log.Line) (failure : Failure) :
    (fail state log failure : Step α).Refused state :=
  ⟨⟨_, rfl⟩, rfl⟩

@[simp] theorem result_onReject (s : Step α) (line : Rejection → Log.Line) :
    (s.onReject line).result = s.result := by
  unfold onReject
  split <;> rfl

@[simp] theorem state_onReject (s : Step α) (line : Rejection → Log.Line) :
    (s.onReject line).state = s.state := by
  unfold onReject
  split <;> rfl

/-- Nothing follows on a step that is refused. -/
theorem Refused.andThen {s : Step α} {before : State} (refused : s.Refused before)
    (next : α → State → Step β) : (s.andThen next).Refused before := by
  obtain ⟨⟨refusal, result⟩, store⟩ := refused
  unfold Step.andThen
  rw [result]
  exact ⟨⟨refusal, rfl⟩, store⟩

/-- What follows on a step with a result makes the result and the state. -/
theorem andThen_ok {s : Step α} {a : α} (result : s.result = .ok a) (next : α → State → Step β) :
    (s.andThen next).result = (next a s.state).result ∧
      (s.andThen next).state = (next a s.state).state := by
  unfold Step.andThen
  rw [result]
  exact ⟨rfl, rfl⟩

end Step

@[simp] theorem State.store_acquire (s : State) (card : Place) : (s.acquire card).store = s.store :=
  rfl

@[simp] theorem State.store_release (s : State) (card : Place) : (s.release card).store = s.store :=
  rfl

@[simp] theorem State.store_withStore (s : State) (store : Store) :
    (s.withStore store).store = store :=
  rfl

/-! ### Decryption -/

namespace Decryption

variable {suite : Suite} {keys : Key.Service} {nodeId : Nat} {found : Store} {request : Request}

/-- The checks that a request has passed whose decryption is recorded, what they found, and the
share that is the outcome. -/
structure Passed (suite : Suite) (keys : Key.Service) (found : Store) (request : Request)
    (input : Input) (voteInput : VoteInput) (group : Group) (gamma : Nat)
    (secret : ElGamal.SecretKey) (share : DecryptionShare) : Prop where
  payload : request.payload = some input
  fields : request.invalidFields = []
  accepted : accept keys request input = .ok (group, voteInput)
  examined : examine suite keys found request input voteInput group = .ok gamma
  unlocked : keys.decryptionKey request.electionId request.setId = .ok secret
  contributions : share.contributions = secret.exponents.map (group.pow gamma)
  publicKey : share.publicKey = secret.publicKey.values

/-- Whether a proof is one that the node makes of a decryption. -/
def Proves (suite : Suite) (nodeId : Nat) (request : Request) (group : Group) (gamma : Nat)
    (secret : ElGamal.SecretKey) (proof : ExponentiationProof) : Prop :=
  ∃ r r', ExponentiationProof.generate suite
    ⟨group.lift [group.g, gamma],
      [secret.publicKey.compress, ⟨group, group.product (secret.exponents.map (group.pow gamma))⟩]⟩
    secret.compress [request.electionId, request.cardId, context, Text.Decimal.render nodeId] r =
      .ok (proof, r')

/-- A request that is accepted is one for a card set whose group is known. -/
theorem parameters_of_accept {input : Input} {group : Group} {voteInput : VoteInput}
    (accepted : accept keys request input = .ok (group, voteInput)) :
    keys.parameters request.electionId request.setId = .ok group := by
  unfold accept at accepted
  split at accepted
  · cases accepted
  · rename_i known
    split at accepted
    · cases accepted
    · split at accepted
      · cases accepted
      · cases accepted
        exact known

@[simp] theorem state_respond (share : DecryptionShare) (state : State) :
    (respond suite keys request share state).state = state := by
  unfold respond
  repeat' split
  all_goals rfl

/-- What is answered is the share, signed with the key of the election event. -/
theorem signs_respond {share : DecryptionShare} {state : State}
    {response : Envelope (Signed DecryptionShare)}
    (done : (respond suite keys request share state).result = .ok response) :
    ∃ signed, response = request.reply signed ∧
      keys.Signs suite.signing DecryptionShare.codec request.electionId share signed := by
  unfold respond at done
  split at done
  · cases done
  · rename_i secret signing
    split at done
    · cases done
    · rename_i chain certified
      split at done
      · cases done
      · rename_i signed made
        cases done
        exact ⟨signed, rfl, secret, chain, signing, certified, made⟩

theorem payload_respond {share : DecryptionShare} {state : State}
    {response : Envelope (Signed DecryptionShare)}
    (done : (respond suite keys request share state).result = .ok response) :
    ∃ signature, response = request.reply ⟨share, some signature⟩ := by
  obtain ⟨_, rfl, signs⟩ := signs_respond done
  obtain ⟨signature, rfl⟩ := signs.exists_signature
  exact ⟨signature, rfl⟩

section Cases

variable (suite keys nodeId found request)

theorem decrypt_cases (group : Group) (gamma : Nat) (state : State) :
    (decrypt suite keys nodeId request group gamma state).Refused state ∨
      ∃ secret proof, keys.decryptionKey request.electionId request.setId = .ok secret ∧
        Proves suite nodeId request group gamma secret proof ∧
        (decrypt suite keys nodeId request group gamma state).result =
          .ok ⟨secret.exponents.map (group.pow gamma), proof, secret.publicKey.values⟩ ∧
        (decrypt suite keys nodeId request group gamma state).state.store = state.store := by
  unfold decrypt
  split
  · exact .inl (Step.refused_reject _ _ _)
  · rename_i secret unlocked
    split
    · exact .inl (Step.refused_reject _ _ _)
    · rename_i member
      obtain ⟨-, rfl⟩ := Group.member_eq_ok.1 member
      dsimp only
      split
      · exact .inl ⟨⟨_, rfl⟩, rfl⟩
      · rename_i generated
        exact .inr ⟨secret, _, unlocked, ⟨_, _, generated⟩, rfl, rfl⟩

theorem record_cases (share : DecryptionShare) (state : State) :
    (record request share state).Refused state ∨
      ∃ store, state.store.addCard? (.new request.electionId request.cardId) = some store ∧
        (record request share state).result = .ok share ∧
        (record request share state).state.store = store := by
  unfold record
  split
  · exact .inl (Step.refused_reject _ _ _)
  · rename_i store added
    exact .inr ⟨store, added, rfl, rfl⟩

theorem locked_cases (input : Input) (voteInput : VoteInput) (group : Group) (state : State) :
    (locked suite keys nodeId found request input voteInput group state).Refused state ∨
      ∃ gamma secret proof store,
        examine suite keys found request input voteInput group = .ok gamma ∧
        keys.decryptionKey request.electionId request.setId = .ok secret ∧
        Proves suite nodeId request group gamma secret proof ∧
        state.store.addCard? (.new request.electionId request.cardId) = some store ∧
        (locked suite keys nodeId found request input voteInput group state).result =
          .ok ⟨secret.exponents.map (group.pow gamma), proof, secret.publicKey.values⟩ ∧
        (locked suite keys nodeId found request input voteInput group state).state.store =
          store := by
  unfold locked
  split
  · exact .inl (Step.refused_reject _ _ _)
  · exact .inl (Step.refused_fail _ _ _)
  · rename_i gamma examined
    rcases decrypt_cases suite keys nodeId request group gamma state with
      refused | ⟨secret, proof, unlocked, proves, result, same⟩
    · exact .inl (refused.andThen _)
    · obtain ⟨result', state'⟩ := Step.andThen_ok result (record request)
      rcases record_cases request _ _ with refused | ⟨store, added, recorded, after⟩
      · refine .inl ⟨?_, ?_⟩
        · rw [result']
          exact refused.1
        · rw [state', refused.2, same]
      · rw [same] at added
        exact .inr ⟨gamma, secret, proof, store, examined, unlocked, proves, added,
          result'.trans recorded, state' ▸ after⟩

/-- A decryption request is refused, or it passes all checks, leaves the first record of its card,
and is answered if the answer can be signed. -/
theorem process_cases (state : State) :
    (process suite keys nodeId found request state).Refused state ∨
      ∃ input voteInput group gamma secret share store after,
        Passed suite keys found request input voteInput group gamma secret share ∧
        Proves suite nodeId request group gamma secret share.proof ∧
        state.store.addCard? (.new request.electionId request.cardId) = some store ∧
        (process suite keys nodeId found request state).state.store = store ∧
        (process suite keys nodeId found request state).result =
          (respond suite keys request share after).result := by
  unfold process
  split
  · rename_i input payload fields
    split
    · exact .inl (Step.refused_reject _ _ _)
    · rename_i group voteInput accepted
      dsimp only
      rcases locked_cases suite keys nodeId found request input voteInput group
        (state.acquire ⟨request.electionId, request.cardId⟩) with
        ⟨refused, same⟩ |
        ⟨gamma, secret, proof, store, examined, unlocked, proves, added, result, after⟩
      · exact .inl (Step.Refused.andThen ⟨by simpa using refused, by simpa using same⟩ _)
      · refine .inr ⟨input, voteInput, group, gamma, secret,
          ⟨secret.exponents.map (group.pow gamma), proof, secret.publicKey.values⟩, store, _,
          ⟨payload, fields, accepted, examined, unlocked, rfl, rfl⟩, proves, added, ?_,
          (Step.andThen_ok (by simpa using result) _).1⟩
        rw [(Step.andThen_ok (by simpa using result) _).2]
        simpa using after
  · exact .inl (Step.refused_fail _ _ _)

end Cases

end Decryption

/-! ### Exponentiation -/

namespace Exponentiation

variable {suite : Suite} {keys : Key.Service} {nodeId maxAttempts : Nat} {request : Request}

/-- The checks that a request has passed whose exponentiation is recorded, what they found, and the
share that is the outcome. -/
structure Passed (suite : Suite) (keys : Key.Service) (nodeId maxAttempts : Nat) (store : Store)
    (request : Request) (input : Input) (group : Group) (record : CardRecord) (values : List Nat)
    (master : ElGamal.SecretKey) (share : ExponentiationShare) : Prop where
  payload : request.payload = some input
  fields : request.invalidFields = []
  parameters : keys.parameters request.electionId request.setId = .ok group
  decrypted : store.card request.electionId request.cardId = .ok record
  examined : examine group store maxAttempts request input (.of input) record = .ok values
  unlocked : keys.generationKey request.electionId request.setId = .ok master
  computed : ∃ key nonce,
    VoterKey.deriveFor suite master.first (Phase.of input).keyKind request.cardId group = .ok key ∧
    share = shares suite group (.of input) values key [request.electionId, request.cardId,
      (Phase.of input).context, Text.Decimal.render nodeId] nonce

theorem locked_cases (suite : Suite) (nodeId maxAttempts : Nat) {input : Input} {group : Group}
    (payload : request.payload = some input)
    (fields : request.invalidFields = [])
    (parameters : keys.parameters request.electionId request.setId = .ok group) (state : State) :
    let step := locked suite keys nodeId maxAttempts request input (.of input) group state
    step.Refused state ∨
      ∃ record values master share,
        Passed suite keys nodeId maxAttempts state.store request input group record values master
          share ∧
        step.result = .ok share ∧
        step.state.store = state.store.putCard ((Phase.of input).advance record) := by
  intro step
  unfold step locked
  split
  · exact .inl (Step.refused_fail _ _ _)
  · rename_i record decrypted
    split
    · exact .inl ⟨⟨_, rfl⟩, rfl⟩
    · rename_i values examined
      split
      · exact .inl (Step.refused_fail _ _ _)
      · rename_i master unlocked
        split
        · exact .inl (Step.refused_reject _ _ _)
        · rename_i key derived
          exact .inr ⟨record, values, master, _,
            ⟨payload, fields, parameters, decrypted, examined, unlocked, key, _, derived, rfl⟩,
            rfl, rfl⟩

@[simp] theorem state_respond (share : ExponentiationShare) (state : State) :
    (respond suite keys request share state).state = state := by
  unfold respond
  repeat' split
  all_goals rfl

/-- What is answered is the share, signed with the key of the election event. -/
theorem signs_respond {share : ExponentiationShare} {state : State}
    {response : Envelope (Signed ExponentiationShare)}
    (done : (respond suite keys request share state).result = .ok response) :
    ∃ signed, response = request.reply signed ∧
      keys.Signs suite.signing ExponentiationShare.codec request.electionId share signed := by
  unfold respond at done
  split at done
  · cases done
  · rename_i secret signing
    split at done
    · cases done
    · rename_i chain certified
      split at done
      · cases done
      · rename_i signed made
        cases done
        exact ⟨signed, rfl, secret, chain, signing, certified, made⟩

theorem payload_respond {share : ExponentiationShare} {state : State}
    {response : Envelope (Signed ExponentiationShare)}
    (done : (respond suite keys request share state).result = .ok response) :
    ∃ signature, response = request.reply ⟨share, some signature⟩ := by
  obtain ⟨_, rfl, signs⟩ := signs_respond done
  obtain ⟨signature, rfl⟩ := signs.exists_signature
  exact ⟨signature, rfl⟩

/-- An exponentiation request is refused, or it passes all checks, takes the record of its card one
phase on, and is answered if the answer can be signed. -/
theorem process_cases (suite : Suite) (keys : Key.Service) (nodeId maxAttempts : Nat)
    (request : Request) (state : State) :
    (process suite keys nodeId maxAttempts request state).Refused state ∨
      ∃ input group record values master share after,
        Passed suite keys nodeId maxAttempts state.store request input group record values master
          share ∧
        (process suite keys nodeId maxAttempts request state).state.store =
          state.store.putCard ((Phase.of input).advance record) ∧
        (process suite keys nodeId maxAttempts request state).result =
          (respond suite keys request share after).result := by
  unfold process
  split
  · rename_i input payload fields
    dsimp only
    split
    · exact .inl (Step.refused_reject _ _ _)
    · rename_i group parameters
      rcases locked_cases suite nodeId maxAttempts payload fields parameters
        (state.acquire ⟨request.electionId, request.cardId⟩) with
        ⟨refused, same⟩ | ⟨record, values, master, share, passed, result, after⟩
      · exact .inl (Step.Refused.andThen ⟨by simpa using refused, by simpa using same⟩ _)
      · refine .inr ⟨input, group, record, values, master, share, _, passed, ?_,
          (Step.andThen_ok (by simpa using result) _).1⟩
        rw [(Step.andThen_ok (by simpa using result) _).2]
        simpa using after
  · exact .inl (Step.refused_fail _ _ _)

/-- A phase leaves a record where it is. -/
theorem Phase.place_advance (phase : Phase) (record : CardRecord) :
    (phase.advance record).place = record.place := by
  cases phase <;> rfl

/-! ### What the checks of a phase find -/

theorem choice_open {group : Group} {store : Store} {input : Input} {record : CardRecord}
    {values : List Nat}
    (examined : examine group store maxAttempts request input .choice record = .ok values) :
    record.isExponentiated = false := by
  unfold examine at examined
  cases exponentiated : record.isExponentiated with
  | false => rfl
  | true => simp [exponentiated] at examined

theorem voteCast_open {group : Group} {store : Store} {input : Input} {record : CardRecord}
    {values : List Nat}
    (examined : examine group store maxAttempts request input .voteCast record = .ok values) :
    record.isExponentiated = true ∧ record.attempts < maxAttempts := by
  simp only [examine] at examined
  split at examined
  · cases examined
  · rename_i exponentiated
    split at examined
    · cases examined
    · exact ⟨by simpa using exponentiated, by omega⟩

end Exponentiation

/-! ### Generation -/

namespace Generation

open Message.Generation

variable {suite : Suite} {keys : Key.Service} {nodeId : Nat} {request : SignedRequest}

/-- Requests are only taken from those whom the platform has certified, in the group of the set. -/
theorem authorize_ok {secret : ElGamal.SecretKey}
    (authorized : authorize suite keys request = .ok secret) :
    keys.generationKey request.payload.payload.electionId request.payload.payload.setId =
        .ok secret ∧
      secret.group = request.payload.payload.group ∧
      ∃ root, keys.platformCa = .ok root ∧
        request.payload.check suite.signing Request.codec root = .ok () := by
  simp only [authorize] at authorized
  split at authorized
  · cases authorized
  · rename_i root platform
    split at authorized
    · cases authorized
    · cases authorized
    · rename_i checked
      split at authorized
      · cases authorized
      · rename_i master unlocked
        split at authorized
        · cases authorized
        · rename_i same
          cases authorized
          exact ⟨unlocked, Decidable.not_not.1 same, root, platform, checked⟩

/-- What is answered are the outputs, signed with the key of the election event. -/
theorem signs_respond {payload : Message.Generation.Request} {group : Group}
    {outputs : List Output} {signed : Signed Response}
    (done : respond suite keys nodeId payload group outputs = .ok signed) :
    keys.Signs suite.signing Response.codec payload.electionId
      ⟨payload.tenantId, payload.electionId, payload.setId, payload.chunkId, group, outputs,
        nodeId⟩ signed := by
  obtain ⟨secret, signing, rest⟩ := bind_eq_ok.1 done
  obtain ⟨chain, certified, made⟩ := bind_eq_ok.1 rest
  exact ⟨secret, chain, mapError_eq_ok.1 signing, mapError_eq_ok.1 certified,
    mapError_eq_ok.1 made⟩

/-- A generation request is refused, or it passes all checks, registers what it brings, and is
answered if the answer can be signed. -/
theorem process_cases (suite : Suite) (keys : Key.Service) (nodeId : Nat)
    (request : SignedRequest) (state : State) :
    (process suite keys nodeId request state).Refused state ∨
      ∃ secret ready,
        invalidFields request = [] ∧
        authorize suite keys request = .ok secret ∧
        prepareAll suite secret.group secret.first request.payload.payload.inputs =
          (ready, none) ∧
        (process suite keys nodeId request state).state.store =
          (register request.payload.payload state.store).addCount
            (count request.payload.payload) ∧
        (process suite keys nodeId request state).result =
          ((respond suite keys nodeId request.payload.payload secret.group
            (answerAll suite secret.group request.payload.payload.electionId nodeId ready
              state.randomness).1).mapError .failed).map
            (⟨request.correlationId, request.requestId, ·⟩) := by
  unfold process
  dsimp only
  split
  · exact .inl (Step.refused_fail _ _ _)
  · rename_i fields
    split
    · exact .inl ⟨⟨_, rfl⟩, rfl⟩
    · rename_i secret authorized
      cases prepared : prepareAll suite secret.group secret.first
          request.payload.payload.inputs with
      | mk ready obstacle =>
        cases obstacle with
        | some found => exact .inl ⟨⟨_, rfl⟩, rfl⟩
        | none =>
          refine .inr ⟨secret, ready, fields, authorized, prepared, ?_, ?_⟩
          · simp only [conclude]
            split <;> rfl
          · simp only [conclude]
            split
            all_goals
              rename_i responded
              rw [responded]
              rfl

/-- A generation request that passes all checks registers what it brings. -/
theorem store_process {nodeId : Nat} (secret : ElGamal.SecretKey)
    (fields : invalidFields request = []) (authorized : authorize suite keys request = .ok secret)
    (prepared :
      (prepareAll suite secret.group secret.first request.payload.payload.inputs).2 = none)
    (state : State) :
    (process suite keys nodeId request state).state.store =
      (register request.payload.payload state.store).addCount (count request.payload.payload) := by
  unfold process
  simp only [fields, authorized, prepared, conclude]
  split <;> rfl

/-- Registering leaves the records of cards and the numbers of selections alone. -/
theorem cards_register (payload : Message.Generation.Request) (store : Store) :
    (register payload store).cards = store.cards := by
  unfold register
  induction payload.inputs generalizing store with
  | nil => rfl
  | cons input rest ih => exact ih _

end Generation

/-! ### Frames -/

section Frames

variable {kind : Message.Kind} {requests : Wire.Codec α} {responses : Wire.Codec β}
  {process : α → State → Step β} {frame : Bytes}

/-- A frame that cannot be read is a failure and changes nothing. -/
theorem handleWith_unread {error : Error} (unread : requests.readFrame frame = .error error)
    (state : State) :
    handleWith kind requests responses process frame state =
      ⟨.error (.internal error), state, []⟩ := by
  unfold handleWith
  rw [unread]

section Read

variable {encoding : Wire.Encoding} {request : α}

/-- A frame that can be read leaves the state that its processing leaves. -/
theorem state_handleWith (read : requests.readFrame frame = .ok (encoding, request))
    (state : State) :
    (handleWith kind requests responses process frame state).state =
      (process request state).state := by
  unfold handleWith
  rw [read]
  dsimp only
  split <;> rfl

/-- What is replied is the framed result. -/
theorem result_handleWith_some (read : requests.readFrame frame = .ok (encoding, request))
    {state : State} {reply : Bytes} :
    (handleWith kind requests responses process frame state).result = .ok (some reply) ↔
      ∃ response, (process request state).result = .ok response ∧
        reply = responses.writeFrame encoding response := by
  unfold handleWith
  rw [read]
  dsimp only
  split <;> simp_all [eq_comm]

end Read

end Frames

end Node
end ControlComponent
