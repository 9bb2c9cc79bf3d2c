import ControlComponent.Proofs.Alike
import ControlComponent.Proofs.Course
import ControlComponent.Proofs.Small

/-!
Cards that do not get in each other's way.

Requests of the voting phase are about one card. What becomes of one depends on the record of its
card, and on the counts and the card keys, which these requests never change; and the record of its
card is all that it changes. So two requests about different cards come to the same whichever is
processed first, whether the cards belong to one card set or to several, and whether they have one
name in two election events. Only the randomness is used up in another order.
-/

namespace ControlComponent

open Message

/-! ### Stores -/

namespace Store

/-- Whether two stores hold the same for a card: its record, and everything that is not a
record of a card. -/
structure AgreeOn (card : Place) (store store' : Store) : Prop where
  counts : store.counts = store'.counts
  cardKeys : store.cardKeys = store'.cardKeys
  record : store.cards.get? card = store'.cards.get? card

/-- The store with the record of a card, if one is to be put. -/
def putCard? (store : Store) : Option CardRecord → Store
  | none => store
  | some r => store.putCard r

variable {store : Store} {card card' : Place} {change change' : Option CardRecord}

theorem AgreeOn.refl (store : Store) (card : Place) : store.AgreeOn card store := ⟨rfl, rfl, rfl⟩

theorem AgreeOn.symm {store' : Store} (agree : store.AgreeOn card store') :
    store'.AgreeOn card store :=
  ⟨agree.counts.symm, agree.cardKeys.symm, agree.record.symm⟩

/-- A record that is put for one card is none of another card's business. -/
theorem agreeOn_putCard? (different : card ≠ card') (placed : ∀ r ∈ change, r.place = card) :
    store.AgreeOn card' (store.putCard? change) := by
  cases change with
  | none => exact .refl store card'
  | some r =>
    refine ⟨rfl, rfl, (Table.get?_put_of_ne _ ?_).symm⟩
    rw [placed r rfl]
    exact different

/-- Records of different cards can be put in either order. -/
theorem putCard?_comm (different : card ≠ card') (placed : ∀ r ∈ change, r.place = card)
    (placed' : ∀ r ∈ change', r.place = card') :
    (store.putCard? change).putCard? change' = (store.putCard? change').putCard? change := by
  cases change with
  | none => rfl
  | some r =>
    cases change' with
    | none => rfl
    | some r' =>
      have places : r.place ≠ r'.place := by
        rw [placed r rfl, placed' r' rfl]
        exact different
      simp only [putCard?, putCard, store.cards.put_comm places]

end Store

namespace Node

open Message.Computation

/-! ### Steps -/

/-- Whether two steps that begin with two stores have one result and put the same record, if any,
for one card, and nothing else. -/
structure Step.Parallel (card : Place) (store store' : Store) (s t : Step α) : Prop where
  result : s.result = t.result
  stored : ∃ change : Option CardRecord, (∀ r ∈ change, r.place = card) ∧
    s.state.store = store.putCard? change ∧ t.state.store = store'.putCard? change

namespace Step

variable {card : Place} {store store' : Store}

/-- Steps with one result that leave the stores alone. -/
theorem parallel_of_same {s t : Step α} (result : s.result = t.result)
    (same : s.state.store = store) (same' : t.state.store = store') :
    s.Parallel card store store' t :=
  ⟨result, none, fun r put => absurd put (Option.not_mem_none r), same, same'⟩

/-- What follows without looking at the state or changing it does so on both sides. -/
theorem Parallel.andThen {s t : Step α} (parallel : s.Parallel card store store' t)
    {next : α → State → Step β} (keeps : ∀ a state, (next a state).state = state)
    (blind : ∀ a state state', (next a state).result = (next a state').result) :
    (s.andThen next).Parallel card store store' (t.andThen next) := by
  obtain ⟨result, change, placed, stored, stored'⟩ := parallel
  unfold Step.andThen
  rw [result]
  cases t.result with
  | error refusal => exact ⟨rfl, change, placed, stored, stored'⟩
  | ok a =>
    refine ⟨blind a _ _, change, placed, ?_, ?_⟩
    · exact (congrArg State.store (keeps a s.state)).trans stored
    · exact (congrArg State.store (keeps a t.state)).trans stored'

theorem Parallel.onReject {s t : Step α} (parallel : s.Parallel card store store' t)
    (line : Rejection → Log.Line) :
    (s.onReject line).Parallel card store store' (t.onReject line) := by
  obtain ⟨result, stored⟩ := parallel
  refine ⟨?_, ?_⟩
  · rw [result_onReject, result_onReject]
    exact result
  · rw [state_onReject, state_onReject]
    exact stored

end Step

variable {suite : Suite} {keys : Key.Service} {nodeId : Nat} {request : Request} {state : State}
  {store : Store}

/-- The check of a vote looks for the keys of cards only. -/
theorem check_congr {store store' : Store} (same : store.cardKeys = store'.cardKeys) (group : Group)
    (input : VoteInput) (vote : Vote) (board : Signature.PublicKey) :
    VoteCheck.check suite store group input vote board =
      VoteCheck.check suite store' group input vote board := by
  simp only [VoteCheck.check, VoteCheck.checkExponentiation, Store.cardKey, same]

/-! ### Decryption -/

namespace Decryption

/-- The checks of a decryption look at the record of its card and at what cards share. -/
theorem examine_congr {found found' : Store} (agree : found.AgreeOn (requestCard request) found')
    (input : Input) (voteInput : VoteInput) (group : Group) :
    examine suite keys found request input voteInput group =
      examine suite keys found' request input voteInput group := by
  have hasCard : found.hasCard request.electionId request.cardId =
      found'.hasCard request.electionId request.cardId :=
    congrArg Option.isSome agree.record
  have selections : found.selections request.electionId request.setId =
      found'.selections request.electionId request.setId := by
    rw [Store.selections, Store.selections, agree.counts]
  unfold examine
  rw [hasCard, selections]
  simp only [check_congr agree.cardKeys]

/-- Decrypting does not look at the store. -/
theorem decrypt_withStore (group : Group) (gamma : Nat) (store : Store) :
    decrypt suite keys nodeId request group gamma (state.withStore store) =
      { decrypt suite keys nodeId request group gamma state with
        state := (decrypt suite keys nodeId request group gamma state).state.withStore store } := by
  unfold decrypt
  cases keys.decryptionKey request.electionId request.setId with
  | error fault => rfl
  | ok secret =>
    cases group.member gamma with
    | error error => rfl
    | ok gamma =>
      dsimp only [State.withStore]
      generalize ExponentiationProof.generate suite _ _ _ state.randomness = made
      cases made <;> rfl

theorem store_decrypt (group : Group) (gamma : Nat) :
    (decrypt suite keys nodeId request group gamma state).state.store = state.store := by
  rcases decrypt_cases suite keys nodeId request group gamma state with refused | decrypted
  · exact refused.2
  · obtain ⟨_, _, -, -, -, same⟩ := decrypted
    exact same

/-- The record of a decryption is left, or not, as there is none of its card yet. -/
theorem record_parallel (state : State) (agree : state.store.AgreeOn (requestCard request) store)
    (share : DecryptionShare) :
    (record request share state).Parallel (requestCard request) state.store store
      (record request share (state.withStore store)) := by
  have found : state.store.cards.contains (requestCard request) =
      store.cards.contains (requestCard request) := by
    rw [Table.contains, agree.record, Table.contains]
  have added : ∀ s : Store, s.addCard? (.new request.electionId request.cardId) =
      if s.cards.contains (requestCard request) then none
      else some (s.putCard (.new request.electionId request.cardId)) := fun _ => rfl
  simp only [record, State.store_withStore, added, found]
  cases store.cards.contains (requestCard request) with
  | true => exact Step.parallel_of_same rfl rfl rfl
  | false =>
    refine ⟨rfl, some (.new request.electionId request.cardId), ?_, rfl, rfl⟩
    rintro r ⟨⟩
    rfl

theorem locked_parallel (suite : Suite) (keys : Key.Service) (nodeId : Nat) (state : State)
    (agree : state.store.AgreeOn (requestCard request) store) (input : Input)
    (voteInput : VoteInput) (group : Group) :
    (locked suite keys nodeId state.store request input voteInput group state).Parallel
      (requestCard request) state.store store
      (locked suite keys nodeId store request input voteInput group (state.withStore store)) := by
  unfold locked
  rw [examine_congr agree]
  cases examine suite keys store request input voteInput group with
  | error refusal => cases refusal <;> exact Step.parallel_of_same rfl rfl rfl
  | ok gamma =>
    have same : (decrypt suite keys nodeId request group gamma state).state.store = state.store :=
      store_decrypt group gamma
    dsimp only
    rw [decrypt_withStore]
    generalize decrypt suite keys nodeId request group gamma state = decrypted at same ⊢
    unfold Step.andThen
    cases decrypted.result with
    | error refusal => exact Step.parallel_of_same rfl same rfl
    | ok share =>
      have recorded := record_parallel decrypted.state (same ▸ agree) share
      rw [same] at recorded
      exact ⟨recorded.result, recorded.stored⟩

/-- Whether an answer can be signed does not depend on the state. -/
theorem result_respond (share : DecryptionShare) (state state' : State) :
    (respond suite keys request share state).result =
      (respond suite keys request share state').result := by
  unfold respond
  cases keys.signingKey request.electionId with
  | error fault => rfl
  | ok secret =>
    cases keys.chain request.electionId with
    | error fault => rfl
    | ok chain =>
      dsimp only
      cases Signed.sign suite.signing DecryptionShare.codec secret chain share <;> rfl

theorem process_parallel (agree : state.store.AgreeOn (requestCard request) store) :
    (process suite keys nodeId state.store request state).Parallel (requestCard request)
      state.store store (process suite keys nodeId store request (state.withStore store)) := by
  unfold process
  cases request.payload with
  | none => exact Step.parallel_of_same rfl rfl rfl
  | some input =>
    cases request.invalidFields with
    | cons field fields => exact Step.parallel_of_same rfl rfl rfl
    | nil =>
      dsimp only
      cases accept keys request input with
      | error reason => exact Step.parallel_of_same rfl rfl rfl
      | ok accepted =>
        obtain ⟨group, voteInput⟩ := accepted
        have done := (locked_parallel suite keys nodeId (state.acquire (requestCard request)) agree
          input voteInput group).onReject (dropLine request)
        refine Step.Parallel.andThen ?_ state_respond result_respond
        exact ⟨done.result, done.stored⟩

end Decryption

/-! ### Exponentiation -/

namespace Exponentiation

variable {maxAttempts : Nat}

/-- The checks of an exponentiation look at its card's record and at the counts. -/
theorem examine_congr {store store' : Store} (same : store.counts = store'.counts) (group : Group)
    (input : Input) (phase : Phase) (record : CardRecord) :
    examine group store maxAttempts request input phase record =
      examine group store' maxAttempts request input phase record := by
  simp only [examine, checkCodes, Store.selections, same]

theorem locked_parallel (suite : Suite) (keys : Key.Service) (nodeId maxAttempts : Nat)
    (state : State) (agree : state.store.AgreeOn (requestCard request) store) (input : Input)
    (phase : Phase) (group : Group) :
    (locked suite keys nodeId maxAttempts request input phase group state).Parallel
      (requestCard request) state.store store
      (locked suite keys nodeId maxAttempts request input phase group
        (state.withStore store)) := by
  have cards : state.store.card request.electionId request.cardId =
      store.card request.electionId request.cardId := by
    have record := agree.record
    unfold requestCard at record
    rw [Store.card, Store.card, record]
  unfold locked
  simp only [State.store_withStore, cards, examine_congr agree.counts]
  cases found : store.card request.electionId request.cardId with
  | error fault => exact Step.parallel_of_same rfl rfl rfl
  | ok record =>
    dsimp only
    cases examine group store maxAttempts request input phase record with
    | error refusal => exact Step.parallel_of_same rfl rfl rfl
    | ok values =>
      cases keys.generationKey request.electionId request.setId with
      | error fault => exact Step.parallel_of_same rfl rfl rfl
      | ok master =>
        dsimp only
        cases VoterKey.deriveFor suite master.first phase.keyKind request.cardId group with
        | error error => exact Step.parallel_of_same rfl rfl rfl
        | ok key =>
          have placed : (phase.advance record).place = requestCard request :=
            (phase.place_advance record).trans (Table.key_of_get? (Store.card_eq_ok.1 found))
          dsimp only [State.withStore]
          generalize state.randomness.below group.q = draw
          refine ⟨rfl, some (phase.advance record), ?_, rfl, rfl⟩
          rintro r ⟨⟩
          exact placed

/-- Whether an answer can be signed does not depend on the state. -/
theorem result_respond (share : ExponentiationShare) (state state' : State) :
    (respond suite keys request share state).result =
      (respond suite keys request share state').result := by
  unfold respond
  cases keys.signingKey request.electionId with
  | error fault => rfl
  | ok secret =>
    cases keys.chain request.electionId with
    | error fault => rfl
    | ok chain =>
      dsimp only
      cases Signed.sign suite.signing ExponentiationShare.codec secret chain share <;> rfl

theorem process_parallel (agree : state.store.AgreeOn (requestCard request) store) :
    (process suite keys nodeId maxAttempts request state).Parallel (requestCard request)
      state.store store
      (process suite keys nodeId maxAttempts request (state.withStore store)) := by
  unfold process
  cases request.payload with
  | none => exact Step.parallel_of_same rfl rfl rfl
  | some input =>
    cases request.invalidFields with
    | cons field fields => exact Step.parallel_of_same rfl rfl rfl
    | nil =>
      dsimp only
      cases keys.parameters request.electionId request.setId with
      | error fault => exact Step.parallel_of_same rfl rfl rfl
      | ok group =>
        have done := (locked_parallel suite keys nodeId maxAttempts
          (state.acquire (requestCard request)) agree input (.of input) group).onReject
          (dropLine request)
        refine Step.Parallel.andThen ?_ state_respond result_respond
        exact ⟨done.result, done.stored⟩

end Exponentiation

end Node

/-! ### Requests -/

/-- The card that a request is about, if it is about a single one. -/
def Message.Kind.card? : (kind : Kind) → kind.Request → Option Place
  | .generation, _ => none
  | .decryption, request => some (Node.requestCard request)
  | .exponentiation, request => some (Node.requestCard request)

namespace Node

variable {suite : Suite} {settings : Settings} {keys : Key.Service} {kind kind' : Kind}
  {state state' : State} {card card' : Place}

theorem engine_parallel (suite : Suite) (settings : Settings) (keys : Key.Service)
    {request : kind.Request} (about : kind.card? request = some card)
    {store : Store} (agree : state.store.AgreeOn card store) :
    (engine suite settings keys kind request state).Parallel card state.store store
      (engine suite settings keys kind request (state.withStore store)) := by
  cases kind with
  | generation => cases about
  | decryption =>
    cases about
    exact Decryption.process_parallel agree
  | exponentiation =>
    cases about
    exact Exponentiation.process_parallel agree

/-- A request about a card is processed alike by nodes whose stores hold the same for the card: the
result is the same up to randomness, and so is the record that is put for the card. -/
theorem engine_local (suite : Suite) (settings : Settings) (keys : Key.Service)
    {request : kind.Request} (about : kind.card? request = some card)
    (agree : state.store.AgreeOn card state'.store) :
    Agree (kind.AlikeResponse suite) (engine suite settings keys kind request state).result
        (engine suite settings keys kind request state').result ∧
      ∃ change : Option CardRecord, (∀ r ∈ change, r.place = card) ∧
        (engine suite settings keys kind request state).state.store =
          state.store.putCard? change ∧
        (engine suite settings keys kind request state').state.store =
          state'.store.putCard? change := by
  have parallel := engine_parallel suite settings keys about agree
  have alike := engine_alike suite settings keys kind request
    (show (state.withStore state'.store).store = state'.store from rfl)
  obtain ⟨result, change, placed, stored, stored'⟩ := parallel
  refine ⟨?_, change, placed, stored, alike.store.symm.trans stored'⟩
  rw [result]
  exact alike.result

/-- **Different cards do not interfere.** Two requests of the voting phase about different cards
come to the same results and leave the same store, whichever of them is processed first. -/
theorem engine_comm (suite : Suite) (settings : Settings) (keys : Key.Service) (kind kind' : Kind)
    (request : kind.Request) (request' : kind'.Request) {card card' : Place}
    (about : kind.card? request = some card) (about' : kind'.card? request' = some card')
    (different : card ≠ card') {state state' : State} (same : state.store = state'.store) :
    let first := engine suite settings keys kind request state
    let second := engine suite settings keys kind' request' first.state
    let first' := engine suite settings keys kind' request' state'
    let second' := engine suite settings keys kind request first'.state
    Agree (kind.AlikeResponse suite) first.result second'.result ∧
      Agree (kind'.AlikeResponse suite) second.result first'.result ∧
      second.state.store = second'.state.store := by
  intro first second first' second'
  have itself : state.store.AgreeOn card state'.store := same ▸ .refl state.store card
  obtain ⟨-, change, placed, stored, -⟩ := engine_local suite settings keys about itself
  -- The other request does not see what the first has put, nor the first what the other has.
  have unseen : first.state.store.AgreeOn card' state'.store := by
    rw [stored, same]
    exact (Store.agreeOn_putCard? different placed).symm
  obtain ⟨alike', change', placed', later, stored'⟩ :=
    engine_local suite settings keys about' unseen
  have unseen' : state.store.AgreeOn card first'.state.store := by
    rw [stored', same]
    exact Store.agreeOn_putCard? different.symm placed'
  obtain ⟨alike, change, placed, stored, later'⟩ :=
    engine_local suite settings keys about unseen'
  refine ⟨alike, alike', ?_⟩
  calc second.state.store
    _ = (state.store.putCard? change).putCard? change' := by rw [later, stored]
    _ = (state.store.putCard? change').putCard? change :=
      Store.putCard?_comm different placed placed'
    _ = second'.state.store := by rw [later', stored', same]

/-- A node at which one card has been registered and another one decrypted. -/
def busy : State :=
  .initial ((Small.registered Small.setA Small.cardC .empty).putCard
    (.new Small.electionId Small.cardD)) (Small.stream 48)

/-- A choice for the card that has been decrypted at the busy node. -/
def busyChoice : Computation.Request := { Small.choice Small.setA with cardId := Small.cardD }

theorem isOk_busy_decryption :
    (engine Small.suite .default Small.keyring.service .decryption (Small.decryption Small.setA)
      busy).result.isOk = true := by
  decide +kernel

theorem isOk_busy_exponentiation :
    (engine Small.suite .default Small.keyring.service .exponentiation busyChoice
      busy).result.isOk = true := by
  decide +kernel

/-- A decryption for the one card and an exponentiation for the other one both go through, whichever
of them is processed first. -/
theorem engine_comm_of_small :
    requestCard (Small.decryption Small.setA) ≠ requestCard busyChoice ∧
      let first := engine Small.suite .default Small.keyring.service .decryption
        (Small.decryption Small.setA) busy
      let second := engine Small.suite .default Small.keyring.service .exponentiation busyChoice
        first.state
      let first' := engine Small.suite .default Small.keyring.service .exponentiation busyChoice
        busy
      let second' := engine Small.suite .default Small.keyring.service .decryption
        (Small.decryption Small.setA) first'.state
      (first.result.isOk = true ∧ first'.result.isOk = true) ∧
        Agree (Kind.AlikeResponse Small.suite .decryption) first.result second'.result ∧
        Agree (Kind.AlikeResponse Small.suite .exponentiation) second.result first'.result ∧
        second.state.store = second'.state.store := by
  have different : requestCard (Small.decryption Small.setA) ≠ requestCard busyChoice := by decide
  exact ⟨different, ⟨isOk_busy_decryption, isOk_busy_exponentiation⟩,
    engine_comm Small.suite .default Small.keyring.service .decryption .exponentiation
      (Small.decryption Small.setA) busyChoice rfl rfl different rfl⟩

end Node
end ControlComponent
