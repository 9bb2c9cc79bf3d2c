import ControlComponent.Proofs.Answer
import ControlComponent.Proofs.Atomic
import ControlComponent.Proofs.Registered

/-!
A request of the set-up phase, once and again.

A chunk of cards is registered as a whole or not at all. The public keys of its cards replace those
that were known, the last one of a card holding, whereas the number of selections replaces nothing:
the first one that is known of a card set stays. With either rule a request that comes a second
time finds everything as it would leave it, so a redelivery is answered like the first delivery and
changes nothing.
-/

namespace ControlComponent.Node.Generation

open Key (Keyring)
open Message.Generation

variable {suite : Suite} {nodeId : Nat} {request : SignedRequest} {state : State}

/-! ### What is registered -/

/-- The store that a request leaves which passes all checks. -/
def stored (payload : Request) (store : Store) : Store :=
  (register payload store).addCount (count payload)

theorem cards_stored (payload : Request) (store : Store) :
    (stored payload store).cards = store.cards := by
  rw [stored, Store.cards_addCount, cards_register]

/-- The keys of the cards are put one after another. -/
theorem cardKeys_stored (payload : Request) (store : Store) :
    (stored payload store).cardKeys = (cardKeys payload).foldl Table.put store.cardKeys := by
  rw [stored, Store.cardKeys_addCount, register_eq_foldl, Store.foldl_putCardKey]

theorem get?_counts_stored (payload : Request) (store : Store) (place : Place) :
    (stored payload store).counts.get? place =
      (store.counts.get? place).or
        (if place = (count payload).place then some (count payload) else none) := by
  rw [stored, Store.get?_addCount, counts_register]

/-- A request finds what it brings already there if it has been registered before. -/
theorem stored_stored (payload : Request) (store : Store) :
    stored payload (stored payload store) = stored payload store := by
  refine Store.eq_of_tables (Table.ext_get? fun place => ?_) (cards_stored ..) ?_
  · rw [get?_counts_stored, get?_counts_stored, Option.or_assoc, Option.or_self]
  · rw [cardKeys_stored, cardKeys_stored, Table.foldl_put_foldl_put]

/-! ### What is answered -/

/-- The keys of cards that are answered consist of members. -/
theorem areMembers_of_prepareAll {group : Group} {master : Nat} {inputs : List Input}
    {ready : List Ready} (all : prepareAll suite group master inputs = (ready, none)) :
    ∀ input ∈ inputs, group.areMembers input.cardPublicKey = true := by
  induction inputs generalizing ready with
  | nil => exact fun _ mem => absurd mem List.not_mem_nil
  | cons input rest ih =>
    unfold prepareAll at all
    split at all
    · cases all
    · rename_i first done
      cases later : prepareAll suite group master rest with
      | mk others obstacle =>
        rw [later] at all
        cases all
        refine List.forall_mem_cons.2 ⟨?_, ih later⟩
        unfold prepare at done
        split at done
        · assumption
        · cases done

/-- The outputs are for the cards of the request, in their order. -/
theorem cardIds_of_answers {group : Group} {master : Nat} {electionId : String}
    {inputs : List Input} {outputs : List Output}
    (answers : List.Forall₂ (Answers suite group master electionId nodeId) inputs outputs) :
    outputs.map (·.cardId) = inputs.map (·.cardId) := by
  induction answers with
  | nil => rfl
  | cons first _ ih =>
    obtain ⟨ready, _, _, prepared, rfl⟩ := first
    rw [List.map_cons, List.map_cons, ih]
    exact congrArg (· :: _) prepared.cardId

/-- The cards of prepared inputs have ciphertexts of members. -/
theorem members_of_answers {group : Group} {master : Nat} {electionId : String}
    {inputs : List Input} {outputs : List Output}
    (answers : List.Forall₂ (Answers suite group master electionId nodeId) inputs outputs) :
    ∀ input ∈ inputs,
      group.areMembers (input.partialCodes.gamma :: input.partialCodes.phis) = true ∧
        group.areMembers (input.confirmationKey.gamma :: input.confirmationKey.phis) = true := by
  induction answers with
  | nil => exact fun _ mem => absurd mem List.not_mem_nil
  | cons first _ ih =>
    obtain ⟨ready, _, _, prepared, -⟩ := first
    exact List.forall_mem_cons.2
      ⟨⟨prepared.partialCodes_members, prepared.confirmationKey_members⟩, ih⟩

/-- What a completed request has brought about: its outputs answer its cards one by one, all values
it brought are members of its group, and of the store only what it registers has changed. -/
structure Completed (payload : Request) (before after : Store) (outputs : List Output) : Prop where
  cardIds : outputs.map (·.cardId) = payload.inputs.map (·.cardId)
  members : ∀ input ∈ payload.inputs,
    payload.group.areMembers input.cardPublicKey = true ∧
      payload.group.areMembers (input.partialCodes.gamma :: input.partialCodes.phis) = true ∧
      payload.group.areMembers (input.confirmationKey.gamma :: input.confirmationKey.phis) = true
  overwritten : after.cardKeys = (cardKeys payload).foldl Table.put before.cardKeys
  lastHolds : ∀ place, after.cardKeys.get? place =
    ((cardKeys payload).reverse.find? (·.place = place)).or (before.cardKeys.get? place)
  firstHolds : ∀ place, after.counts.get? place =
    (before.counts.get? place).or
      (if place = ⟨payload.electionId, payload.setId⟩ then some (count payload) else none)
  cards : after.cards = before.cards

theorem completed_stored {secret : ElGamal.SecretKey} {payload : Request} {outputs : List Output}
    {ready : List Ready} (group : secret.group = payload.group)
    (all : prepareAll suite secret.group secret.first payload.inputs = (ready, none))
    (answers : List.Forall₂ (Answers suite secret.group secret.first payload.electionId nodeId)
      payload.inputs outputs) (store : Store) :
    Completed payload store (stored payload store) outputs where
  cardIds := cardIds_of_answers answers
  members := by
    rw [← group]
    exact fun input mem =>
      ⟨areMembers_of_prepareAll all input mem, members_of_answers answers input mem⟩
  overwritten := cardKeys_stored payload store
  lastHolds place := by rw [cardKeys_stored, Table.get?_foldl_put]
  firstHolds := get?_counts_stored payload store
  cards := cards_stored payload store

/-! ### Requests -/

section Requests

variable {keyring : Keyring} (reachable : keyring.Reachable .standard suite.signing)

include reachable

/-- A request that passes all checks is answered, since what is computed can always be signed. -/
theorem exists_response {secret : ElGamal.SecretKey} (fields : invalidFields request = [])
    (authorized : authorize suite keyring.service request = .ok secret)
    (prepared :
      (prepareAll suite secret.group secret.first request.payload.payload.inputs).2 = none)
    (nodeId : Nat) (state : State) :
    ∃ response, (process suite keyring.service nodeId request state).result = .ok response := by
  obtain ⟨keys, found, -⟩ := Keyring.setKeysOf_of_generationKey (authorize_ok authorized).1
  unfold process
  simp only [fields, authorized, prepared, conclude]
  generalize (answerAll suite secret.group _ nodeId _ state.randomness).1 = outputs
  obtain ⟨signed, responded⟩ := respond_ok (reachable.sound Key.Sealing.honest_standard) nodeId
    secret.group outputs found
  rw [responded]
  exact ⟨_, rfl⟩

/-- A request without an answer leaves the store alone. -/
theorem store_eq_of_refused {refusal : Refusal}
    (refused : (process suite keyring.service nodeId request state).result = .error refusal) :
    (process suite keyring.service nodeId request state).state.store = state.store := by
  rcases process_cases suite keyring.service nodeId request state with
    ⟨-, same⟩ | ⟨secret, ready, fields, authorized, prepared, -, -⟩
  · exact same
  · obtain ⟨response, done⟩ := exists_response reachable fields authorized (by rw [prepared])
      nodeId state
    cases done.symm.trans refused

/-- **A generation request is all or nothing, and can be redelivered.** If it completes, its outputs
answer its cards one by one in their order, everything it brought for them is a member of its group,
and the store has changed by the keys of its cards, put in their order, and by the number of
selections if there was none. If it does not complete, the store is as it was. Processed again where
it has been processed, it completes again and leaves the store as it is. -/
theorem process_all_or_nothing (nodeId : Nat) (request : SignedRequest) (state : State) :
    let step := process suite keyring.service nodeId request state
    (∀ response, step.result = .ok response →
      Completed request.payload.payload state.store step.state.store
        response.payload.payload.outputs ∧
      ∀ again : State, again.store = step.state.store →
        (∃ response', (process suite keyring.service nodeId request again).result =
          .ok response') ∧
        (process suite keyring.service nodeId request again).state.store = again.store) ∧
    (∀ refusal, step.result = .error refusal → step.state.store = state.store) := by
  refine ⟨fun response done => ?_, fun refusal => store_eq_of_refused reachable⟩
  obtain ⟨secret, outputs, signed, authorized, answers, signs, rfl⟩ := answered done
  rcases process_cases suite keyring.service nodeId request state with
    ⟨⟨_, refused⟩, -⟩ | ⟨secret', ready, fields, authorized', prepared, after, -⟩
  · cases refused.symm.trans done
  · cases authorized.symm.trans authorized'
    obtain ⟨signature, rfl⟩ := signs.exists_signature
    constructor
    · rw [after]
      exact completed_stored (authorize_ok authorized).2.1 prepared answers state.store
    · intro again same
      have none_left : (prepareAll suite secret.group secret.first
          request.payload.payload.inputs).2 = none := by rw [prepared]
      refine ⟨exists_response reachable fields authorized none_left nodeId again, ?_⟩
      rw [store_process secret fields authorized none_left, same, after]
      exact stored_stored request.payload.payload state.store

end Requests

/-- A request for one card twice, with another public key each time. -/
def duplicated : SignedRequest :=
  let request := Small.generation Small.setA Small.cardC
  { request with
    payload := { request.payload with
      payload := { request.payload.payload with
        inputs :=
          [⟨Small.cardC, ⟨2, [2]⟩, ⟨2, [2]⟩, [2]⟩, ⟨Small.cardC, ⟨2, [2]⟩, ⟨2, [2]⟩, [4]⟩] } } }

/-- Of a card that comes twice in a request the second key holds, and goes on to hold when the
request is processed again. -/
theorem last_key_holds_of_duplicated :
    let before : State := .initial .empty (Small.stream 48)
    let step := process Small.suite Small.keyring.service 1 duplicated before
    let again := process Small.suite Small.keyring.service 1 duplicated step.state
    Small.keyring.Reachable .standard Small.suite.signing ∧
      (∃ response, step.result = .ok response ∧
        response.payload.payload.outputs.map (·.cardId) = [Small.cardC, Small.cardC]) ∧
      step.state.store.cardKeys.get? ⟨Small.electionId, Small.cardC⟩ =
        some ⟨Small.electionId, Small.setA, Small.cardC, [4]⟩ ∧
      (∃ response, again.result = .ok response) ∧ again.state.store = step.state.store := by
  intro before step again
  have reachable : Small.keyring.Reachable .standard Small.suite.signing :=
    Small.keyring_reachable .standard
  have completes : step.result.isOk = true := by decide +kernel
  obtain ⟨response, done⟩ := exists_eq_ok completes
  obtain ⟨completed, redelivered⟩ :=
    (process_all_or_nothing reachable 1 duplicated before).1 response done
  refine ⟨reachable, ⟨response, done, completed.cardIds⟩, ?_, redelivered step.state rfl⟩
  rw [completed.lastHolds]
  decide +kernel

end ControlComponent.Node.Generation
