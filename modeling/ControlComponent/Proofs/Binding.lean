import ControlComponent.Proofs.Admission
import ControlComponent.Proofs.Bounded
import ControlComponent.Proofs.Ration
import ControlComponent.Proofs.Registered
import ControlComponent.Proofs.Shares

/-!
Which card set a card is used with.

Every request of the voting phase names a card set along with its card, and the node answers with
the keys and the group of that set. Where codes are decrypted or raised it counts them by the number
of selections that generation has stored for that set as well; the vote cast code has nothing to do
with selections. The public key of the card comes from generation, which stored it for a card set
too, but it is found by the election event and the card alone. So the two sets need not be the same,
unless the node has keys for one set of the event only.
-/

namespace ControlComponent

/-- Messages handled with the keys of one keyring. -/
def Key.Keyring.deliver (keyring : Keyring) (messages : List (Message.Kind × Bytes)) :
    List Node.Delivery :=
  messages.map fun (kind, frame) => ⟨keyring.service, kind, frame⟩

/-- Whether a keyring has keys for at most one card set of an election event. -/
def Key.Keyring.HoldsOneSet (keyring : Keyring) (electionId : String) : Prop :=
  ∀ setId setId', keyring.hasSetKeys electionId setId = true →
    keyring.hasSetKeys electionId setId' = true → setId = setId'

namespace Node

open Message.Computation
open Exponentiation (Phase)

variable {suite : Suite} {settings : Settings}

/-- The request of the voting phase that a message brings. -/
def Delivery.request? (d : Delivery) : Option Request :=
  match d.kind, requestCodec.readFrame d.frame with
  | .generation, _ => none
  | _, .error _ => none
  | _, .ok (_, request) => some request

theorem request?_decryption (keys : Key.Service) {frame : Bytes} {encoding : Wire.Encoding}
    {request : Request} (read : requestCodec.readFrame frame = .ok (encoding, request)) :
    (⟨keys, .decryption, frame⟩ : Delivery).request? = some request := by
  simp only [Delivery.request?, read]

/-! ### Replies -/

/-- A reply to a request that was computed with the keys of a card set and in its group. -/
inductive Exchange.ComputedWith (suite : Suite) (settings : Settings) (x : Exchange)
    (request : Request) (keys : Key.SetKeys) : Prop where
  | decryption {encoding : Wire.Encoding} {input : Input} {voteInput : VoteInput} {gamma : Nat}
      {share : DecryptionShare} {signature : PayloadSignature}
      (passed : Decryption.Passed suite x.delivery.keys x.before.store request input voteInput
        keys.group gamma keys.encryption.secret share)
      (reply : x.handled.result = .ok (some
        (decryptionCodec.writeFrame encoding (request.reply ⟨share, some signature⟩))))
  | exponentiation {encoding : Wire.Encoding} {input : Input} {record : CardRecord}
      {values : List Nat} {share : ExponentiationShare} {signature : PayloadSignature}
      (passed : Exponentiation.Passed suite x.delivery.keys settings.nodeId settings.maxAttempts
        x.before.store request input keys.group record values keys.generation.secret share)
      (reply : x.handled.result = .ok (some
        (exponentiationCodec.writeFrame encoding (request.reply ⟨share, some signature⟩))))

/-- Replies are computed with the keys of the set that the request names. -/
theorem exists_computedWith {keyring : Key.Keyring} {x : Exchange}
    (course : x.Course suite settings) (same : x.delivery.keys = keyring.service)
    {request : Request} (brings : x.delivery.request? = some request) (replied : x.replied = true) :
    ∃ keys, keyring.setKeysOf request.electionId request.setId = .ok keys ∧
      x.ComputedWith suite settings request keys := by
  obtain ⟨reply, result⟩ := replied_iff.1 replied
  cases course with
  | refused _ unanswered => simp [unanswered] at replied
  | generated _ kind => simp [Delivery.request?, kind] at brings
  | decrypted request' _ kind read passed _ _ answer =>
    obtain rfl : request' = request := by simpa [Delivery.request?, kind, read] using brings
    obtain ⟨response, done, rfl⟩ := (answer _).1 result
    obtain ⟨signature, rfl⟩ := Decryption.payload_respond done
    have known := Decryption.parameters_of_accept passed.accepted
    have unlocked := passed.unlocked
    rw [same] at known unlocked
    obtain ⟨keys, found, rfl⟩ := Key.Keyring.setKeysOf_of_parameters known
    obtain ⟨keys', found', rfl⟩ := Key.Keyring.setKeysOf_of_decryptionKey unlocked
    obtain rfl : keys = keys' := by simpa [found] using found'
    exact ⟨keys, found, .decryption passed result⟩
  | exponentiated request' _ _ _ kind read passed _ answer =>
    obtain rfl : request' = request := by simpa [Delivery.request?, kind, read] using brings
    obtain ⟨response, done, rfl⟩ := (answer _).1 result
    obtain ⟨signature, rfl⟩ := Exponentiation.payload_respond done
    have known := passed.parameters
    have unlocked := passed.unlocked
    rw [same] at known unlocked
    obtain ⟨keys, found, rfl⟩ := Key.Keyring.setKeysOf_of_parameters known
    obtain ⟨keys', found', rfl⟩ := Key.Keyring.setKeysOf_of_generationKey unlocked
    obtain rfl : keys = keys' := by simpa [found] using found'
    exact ⟨keys, found, .exponentiation passed result⟩

/-- Whether a request brings as many codes as there are selections: in the vote of a decryption,
after its first value, or to be raised as choice codes. -/
inductive Exchange.Counts (x : Exchange) (request : Request) (selections : Nat) : Prop where
  | decryption {input : Input} {voteInput : VoteInput} {vote : Message.Vote}
      (asks : x.delivery.asks? = some (.decryption, requestCard request))
      (payload : request.payload = some input) (voted : input.voteInput = some voteInput)
      (read : Message.Vote.ofText voteInput.vote = .ok vote)
      (length : vote.encryptedPartialCodes.length = selections + 1)
  | choice {input : Input} {values : List Nat}
      (asks : x.delivery.asks? = some (.choice, requestCard request))
      (payload : request.payload = some input) (listed : input.elements = some values)
      (length : values.length = selections)

/-- Replies other than those with the vote cast code come after their codes have been counted by the
number of selections that is stored for the set that the request names. -/
theorem exists_counts {limit : Nat} {x : Exchange} (course : x.Course suite settings)
    (bounded : x.before.store.Bounded limit) {request : Request}
    (brings : x.delivery.request? = some request) (replied : x.replied = true)
    (other : x.delivery.asks? ≠ some (.voteCast, requestCard request)) :
    ∃ r, x.before.store.counts.get? ⟨request.electionId, request.setId⟩ = some r ∧
      x.Counts request r.selections := by
  cases course with
  | refused _ unanswered => simp [unanswered] at replied
  | generated _ kind => simp [Delivery.request?, kind] at brings
  | @decrypted encoding input voteInput _ _ _ _ request' _ kind read passed =>
    obtain rfl : request' = request := by simpa [Delivery.request?, kind, read] using brings
    obtain ⟨vote, _, _, _, examined⟩ := Decryption.exists_examined passed.examined
    obtain ⟨r, counted, rfl⟩ := Store.selections_eq_ok.1 examined.counted
    obtain ⟨-, voted, -⟩ := Decryption.accept_eq_ok.1 passed.accepted
    exact ⟨r, counted, .decryption (by simp [Delivery.asks?, asked?, kind, read]) passed.payload
      voted (Decryption.voteOf_eq_ok examined.voted).1
      (examined.length_codes (bounded.counts _ r counted))⟩
  | exponentiated request' input _ _ kind read passed =>
    obtain rfl : request' = request := by simpa [Delivery.request?, kind, read] using brings
    have asks : x.delivery.asks? = some ((Phase.of input).activity, requestCard request') := by
      simp [Delivery.asks?, asked?, kind, read, passed.payload]
    obtain ⟨listed, due⟩ := Exponentiation.examine_eq_ok.1 passed.examined
    cases due with
    | choice unconfirmed _ counted length =>
      have phase : Phase.of input = .choice := by simp [Phase.of, unconfirmed]
      rw [phase] at asks
      exact ⟨_, counted, .choice asks passed.payload listed length⟩
    | voteCast confirmed =>
      have phase : Phase.of input = .voteCast := by simp [Phase.of, confirmed]
      rw [phase] at asks
      exact absurd asks other

/-! ### The key that a decryption uses -/

/-- A message that has decrypted for a card whose stored public key this is. -/
def Exchange.DecryptsWith (y : Exchange) (stored : CardKey) : Prop :=
  y.Creates stored.place ∧ y.before.store.cardKeys.get? stored.place = some stored

/-- What has created the record of a card has used the public key that is stored for it. -/
theorem Exchange.Creates.exists_decryptsWith {y : Exchange} {card : Place}
    (creates : y.Creates card) (course : y.Course suite settings) :
    ∃ stored, y.DecryptsWith stored ∧ stored.place = card := by
  have ⟨asks, absent, created⟩ := creates
  cases course with
  | refused same => simp [same, absent] at created
  | generated _ kind => simp [Delivery.asks?, asked?, kind] at asks
  | exponentiated _ input _ _ kind read passed =>
    simp only [Delivery.asks?, asked?, kind, read, passed.payload, Option.map_some,
      Option.some.injEq, Prod.mk.injEq] at asks
    cases phase : Phase.of input <;> simp [phase, Phase.activity] at asks
  | decrypted request _ kind read passed =>
    obtain rfl : requestCard request = card := by
      simpa [Delivery.asks?, asked?, kind, read] using asks
    obtain ⟨vote, _, _, _, examined⟩ := Decryption.exists_examined passed.examined
    obtain ⟨_, _, valid⟩ := examined.valid
    obtain ⟨stored, _, found, -⟩ := VoteCheck.exists_stored_key valid.exponentiation
    obtain ⟨-, electionId, cardId⟩ := Decryption.voteOf_eq_ok examined.voted
    rw [electionId, cardId, Store.cardKey_eq_ok] at found
    have place : stored.place = requestCard request := Table.key_of_get? found
    exact ⟨stored, ⟨place ▸ creates, place ▸ found⟩, place⟩

/-- A reply for a card is a reply to the decryption of the card or comes after it. -/
theorem exists_creates_of_replied {state : State} {messages : List Delivery}
    {pre post : List Exchange} {x : Exchange}
    (split : history suite settings state messages = pre ++ x :: post)
    {request : Request} (brings : x.delivery.request? = some request) (replied : x.replied = true)
    (initially : state.store.cards.get? (requestCard request) = none) :
    x.Creates (requestCard request) ∨ ∃ y ∈ pre, y.Creates (requestCard request) := by
  cases course_of_split split with
  | refused _ unanswered => simp [unanswered] at replied
  | generated _ kind => simp [Delivery.request?, kind] at brings
  | decrypted request' _ kind read _ absent stored =>
    obtain rfl : request' = request := by simpa [Delivery.request?, kind, read] using brings
    refine .inl ⟨by simp [Delivery.asks?, asked?, kind, read], absent, ?_⟩
    rw [stored]
    exact Table.get?_put_self _ (CardRecord.new request'.electionId request'.cardId)
  | exponentiated request' _ _ _ kind read passed =>
    obtain rfl : request' = request := by simpa [Delivery.request?, kind, read] using brings
    have found := Store.card_eq_ok.1 passed.decrypted
    exact .inr (exists_creates split initially (by simp [requestCard, found]))

/-! ### Runs -/

section Runs

variable {keyring : Key.Keyring} {randomness : Randomness}
  {messages : List (Message.Kind × Bytes)} {pre post : List Exchange} {x : Exchange}

theorem keys_of_mem {state : State}
    (mem : x ∈ history suite settings state (keyring.deliver messages)) :
    x.delivery.keys = keyring.service := by
  obtain ⟨message, -, delivered⟩ := List.mem_map.1 (delivery_mem mem)
  rw [← delivered]

/-- A card's stored public key was registered before, for a card set that the node has keys for. -/
theorem exists_registers {stored : CardKey}
    (split : history suite settings (.initial .empty randomness) (keyring.deliver messages) =
      pre ++ x :: post)
    (found : x.before.store.cardKeys.get? stored.place = some stored) :
    ∃ z ∈ pre, ∃ payload, z.Registers payload ∧ stored ∈ Generation.cardKeys payload ∧
      keyring.hasSetKeys stored.electionId stored.setId = true := by
  obtain ⟨z, mem, payload, registers, brought⟩ := exists_registers_key split rfl found
  obtain ⟨input, -, rfl⟩ := List.mem_map.1 brought
  obtain ⟨secret, unlocked, -⟩ := registers.unlocked
  rw [keys_of_mem (split ▸ List.mem_append_left _ mem)] at unlocked
  obtain ⟨keys, present, -⟩ := Key.Keyring.setKeysOf_of_generationKey unlocked
  exact ⟨z, mem, payload, registers, brought, Key.Keyring.hasSetKeys_of_setKeysOf present⟩

/-- The decryption of a card used a public key that was registered before it. -/
theorem exists_decryption {card : Place}
    (split : history suite settings (.initial .empty randomness) (keyring.deliver messages) =
      pre ++ x :: post)
    (creates : x.Creates card) :
    ∃ stored, x.DecryptsWith stored ∧ stored.place = card ∧
      ∃ z ∈ pre, ∃ payload, z.Registers payload ∧ stored ∈ Generation.cardKeys payload ∧
        keyring.hasSetKeys stored.electionId stored.setId = true := by
  obtain ⟨stored, decrypts, place⟩ :=
    creates.exists_decryptsWith (course_of_split split)
  exact ⟨stored, decrypts, place, exists_registers split decrypts.2⟩

/-- Behind every reply of the voting phase there is the decryption of the card, be it the message
itself or an earlier one. -/
theorem exists_decryption_of_replied {request : Request}
    (split : history suite settings (.initial .empty randomness) (keyring.deliver messages) =
      pre ++ x :: post)
    (brings : x.delivery.request? = some request) (replied : x.replied = true) :
    ∃ y ∈ pre ++ [x], ∃ stored, y.DecryptsWith stored ∧ stored.place = requestCard request ∧
      ∃ z ∈ pre, ∃ payload, z.Registers payload ∧ stored ∈ Generation.cardKeys payload ∧
        keyring.hasSetKeys stored.electionId stored.setId = true := by
  rcases exists_creates_of_replied split brings replied rfl with creates | ⟨y, mem, creates⟩
  · obtain ⟨stored, decryption⟩ := exists_decryption split creates
    exact ⟨x, by simp, stored, decryption⟩
  · obtain ⟨before, between, rfl⟩ := List.append_of_mem mem
    obtain ⟨stored, decrypts, place, z, first, rest⟩ :=
      exists_decryption (split.trans (List.append_assoc ..)) creates
    exact ⟨y, by simp, stored, decrypts, place, z, by simp [first], rest⟩

end Runs

end Node

/-! ### A card under two sets -/

namespace Small

open Node

/-- One card is registered for one set and another card for the other set. Then the first card is
decrypted under the other set. -/
def crossing : List (Message.Kind × Bytes) :=
  [(.generation, generationFrame setA cardC), (.generation, generationFrame setB cardD),
    (.decryption, decryptionFrame setB)]

/-- The store after both registrations. -/
def store : Store := registered setB cardD (registered setA cardC .empty)

theorem store_generation {setId cardId : String}
    (known : (setId, cardId) ∈ [(setA, cardC), (setB, cardD)]) (state : State) :
    ((⟨keyring.service, .generation, generationFrame setId cardId⟩ : Delivery).exchange suite
      .default state).after.store = registered setId cardId state.store := by
  rw [after_generation suite .default keyring.service (readFrame_generationFrame known)]
  simp only [List.mem_cons, List.not_mem_nil, or_false, Prod.mk.injEq] at known
  rcases known with ⟨rfl, rfl⟩ | ⟨rfl, rfl⟩
  · exact Generation.store_process (setKeys setA 3).generation.secret (by decide +kernel)
      (toOption_eq_some.1 (by decide +kernel)) (by decide +kernel) state
  · exact Generation.store_process (setKeys setB 5).generation.secret (by decide +kernel)
      (toOption_eq_some.1 (by decide +kernel)) (by decide +kernel) state

theorem voteOf_decryption :
    Decryption.voteOf (decryption setB) (voteInput setB) = .ok readVote := by
  rw [Decryption.voteOf, voteInput, ofText_vote]
  exact if_pos (by decide)

/-- All checks of the decryption succeed, though the card is not registered for the set. -/
theorem examine_decryption :
    Decryption.examine suite keyring.service store (decryption setB) (decryptionInput setB)
      (voteInput setB) group = .ok 2 := by
  rw [Decryption.examine, voteOf_decryption]
  exact toOption_eq_some.1 (by decide +kernel)

theorem process_decryption (state : State) (same : state.store = store) :
    ∃ share after, (Decryption.process suite keyring.service Settings.default.nodeId state.store
        (decryption setB) state).result =
      (Decryption.respond suite keyring.service (decryption setB) share after).result := by
  have payload : (decryption setB).payload = some (decryptionInput setB) := rfl
  have fields : (decryption setB).invalidFields = [] := by decide +kernel
  have accepted : Decryption.accept keyring.service (decryption setB) (decryptionInput setB) =
      .ok (group, voteInput setB) := toOption_eq_some.1 (by decide +kernel)
  have unlocked : keyring.service.decryptionKey electionId setB =
      .ok (setKeys setB 5).encryption.secret := rfl
  have absent : store.cards.get? ⟨electionId, cardC⟩ = none := by decide +kernel
  rw [same]
  exact Decryption.exists_process_eq_respond _ (setKeys setB 5).encryption.secret payload fields
    accepted examine_decryption unlocked state (same ▸ absent)

theorem setKeysOf_decryption :
    keyring.setKeysOf (decryption setB).electionId (decryption setB).setId =
      .ok (setKeys setB 5) :=
  toOption_eq_some.1 (by decide +kernel)

/-- In every state with this store the decryption gets a reply. -/
theorem replied_decryption_of_store (state : State) (same : state.store = store) :
    ((⟨keyring.service, .decryption, decryptionFrame setB⟩ : Delivery).exchange suite .default
      state).replied = true := by
  obtain ⟨share, after, result⟩ := process_decryption state same
  have sound : keyring.Sound suite.signing :=
    (keyring_reachable .standard).sound Key.Sealing.honest_standard
  obtain ⟨response, done⟩ := Decryption.respond_ok sound share after setKeysOf_decryption
  rw [replied_decryption suite .default keyring.service readFrame_decryptionFrame, result, done]
  rfl

theorem setId_registered :
    (store.cardKeys.get? (requestCard (decryption setB))).map CardKey.setId = some setA := by
  decide +kernel

end Small

namespace Node

/-- Replies keep to the set that is named. In any run of a node that starts with an empty store,
with whatever keyring, every reply of the voting phase is computed with the keys of the card set
that the request names and in its group. Unless it is one with the vote cast code, the request has
brought as many codes as an earlier generation message has registered selections for that set. The
public key that the card's decryption used was registered by an earlier generation message, for a
card set that the keyring has keys for as well. If the keyring has keys for one card set of the
event only, that set is the one that is named, and all replies for the card are computed with its
keys. -/
theorem replies_keep_to_named_set (suite : Suite) (settings : Settings) (keyring : Key.Keyring)
    (randomness : Randomness) (messages : List (Message.Kind × Bytes)) :
    let run := history suite settings (.initial .empty randomness) (keyring.deliver messages)
    (∀ pre x post request, run = pre ++ x :: post → x.delivery.request? = some request →
      x.replied = true →
      (∃ keys, keyring.setKeysOf request.electionId request.setId = .ok keys ∧
        x.ComputedWith suite settings request keys) ∧
      (x.delivery.asks? ≠ some (.voteCast, requestCard request) → ∃ selections,
        x.before.store.selections request.electionId request.setId = .ok selections ∧
        x.Counts request selections ∧
        ∃ z ∈ pre, ∃ payload, z.Registers payload ∧
          Generation.count payload = ⟨request.electionId, request.setId, selections⟩) ∧
      ∃ y ∈ pre ++ [x], ∃ stored, y.DecryptsWith stored ∧ stored.place = requestCard request ∧
        (∃ z ∈ pre, ∃ payload, z.Registers payload ∧ stored ∈ Generation.cardKeys payload) ∧
        keyring.hasSetKeys request.electionId stored.setId = true ∧
        (keyring.HoldsOneSet request.electionId → stored.setId = request.setId)) ∧
    (∀ x ∈ run, ∀ x' ∈ run, ∀ request request', x.delivery.request? = some request →
      x'.delivery.request? = some request' → x.replied = true → x'.replied = true →
      requestCard request = requestCard request' → keyring.HoldsOneSet request.electionId →
      request.setId = request'.setId) := by
  intro run
  have initially : (State.initial .empty randomness).store.Bounded settings.maxAttempts :=
    Store.bounded_empty _
  have hasKeys : ∀ x ∈ run, ∀ request, x.delivery.request? = some request → x.replied = true →
      ∃ keys, keyring.setKeysOf request.electionId request.setId = .ok keys ∧
        x.ComputedWith suite settings request keys := by
    intro x mem request brings replied
    exact exists_computedWith (course_of_mem mem) (keys_of_mem mem) brings replied
  constructor
  · intro pre x post request split brings replied
    obtain ⟨keys, found, computed⟩ := hasKeys x (by simp [split]) request brings replied
    refine ⟨⟨keys, found, computed⟩, ?_, ?_⟩
    · intro other
      have mem : x ∈ run := by simp [split]
      obtain ⟨r, counted, counts⟩ := exists_counts (course_of_mem mem)
        (bounded_of_mem (Nat.le_refl _) mem initially) brings replied other
      have place : r.place = ⟨request.electionId, request.setId⟩ := Table.key_of_get? counted
      obtain ⟨electionId, setId⟩ := Place.mk.inj place
      obtain ⟨z, before, payload, registers, rfl⟩ := exists_registers_count split rfl counted
      exact ⟨_, Store.selections_eq_ok.2 ⟨_, counted, rfl⟩, counts, z, before, payload, registers,
        by rw [← electionId, ← setId]⟩
    · obtain ⟨y, mem, stored, decrypts, place, z, first, payload, registers, brought, held⟩ :=
        exists_decryption_of_replied split brings replied
      rw [show stored.electionId = request.electionId from congrArg Place.electionId place] at held
      exact ⟨y, mem, stored, decrypts, place, ⟨z, first, payload, registers, brought⟩, held,
        fun one => one _ _ held (Key.Keyring.hasSetKeys_of_setKeysOf found)⟩
  · intro x mem x' mem' request request' brings brings' replied replied' sameCard one
    obtain ⟨keys, found, -⟩ := hasKeys x mem request brings replied
    obtain ⟨keys', found', -⟩ := hasKeys x' mem' request' brings' replied'
    rw [← show request.electionId = request'.electionId from congrArg Place.electionId sameCard]
      at found'
    exact one _ _ (Key.Keyring.hasSetKeys_of_setKeysOf found)
      (Key.Keyring.hasSetKeys_of_setKeysOf found')

/-- A node with keys for two card sets of an election event may decrypt for a card under the set
that the card is not registered for. -/
theorem exists_decryption_under_other_set :
    Small.keyring.Reachable .standard Small.suite.signing ∧
    ∃ pre x request stored,
      history Small.suite .default (.initial .empty (Small.stream 48))
        (Small.keyring.deliver Small.crossing) = pre ++ [x] ∧
      x.delivery.request? = some request ∧ x.replied = true ∧ x.DecryptsWith stored ∧
      stored.place = requestCard request ∧ stored.setId ≠ request.setId := by
  let first := (⟨Small.keyring.service, .generation, Small.generationFrame Small.setA Small.cardC⟩ :
    Delivery).exchange Small.suite .default (.initial .empty (Small.stream 48))
  let second := (⟨Small.keyring.service, .generation,
    Small.generationFrame Small.setB Small.cardD⟩ : Delivery).exchange Small.suite .default
      first.after
  let third := (⟨Small.keyring.service, .decryption, Small.decryptionFrame Small.setB⟩ :
    Delivery).exchange Small.suite .default second.after
  have run : history Small.suite .default (.initial .empty (Small.stream 48))
      (Small.keyring.deliver Small.crossing) = [first, second] ++ [third] := rfl
  have before : third.before = second.after := Delivery.before_exchange ..
  have store : second.after.store = Small.store := by
    rw [Small.store_generation (by simp), Small.store_generation (by simp)]
    rfl
  have brings : third.delivery.request? = some (Small.decryption Small.setB) :=
    request?_decryption Small.keyring.service Small.readFrame_decryptionFrame
  have replied : third.replied = true := Small.replied_decryption_of_store second.after store
  obtain ⟨stored, decrypts, place⟩ : ∃ stored, third.DecryptsWith stored ∧
      stored.place = requestCard (Small.decryption Small.setB) := by
    refine Exchange.Creates.exists_decryptsWith ?_ (course_of_split run)
    refine (exists_creates_of_replied run brings replied rfl).resolve_right ?_
    rintro ⟨y, mem, asks, -⟩
    have kind : y.delivery.kind = .generation := by
      simp only [List.mem_cons, List.not_mem_nil, or_false] at mem
      rcases mem with rfl | rfl <;> rfl
    simp [Delivery.asks?, asked?, kind] at asks
  have used : Small.store.cardKeys.get? (requestCard (Small.decryption Small.setB)) =
      some stored := by
    rw [← store, ← before, ← place]
    exact decrypts.2
  have setId : stored.setId = Small.setA :=
    Option.some.inj ((congrArg (Option.map CardKey.setId) used).symm.trans Small.setId_registered)
  have other : Small.setA ≠ Small.setB := by decide
  exact ⟨Small.keyring_reachable _, _, third, _, stored, run, brings, replied, decrypts, place,
    setId ▸ other⟩

end Node
end ControlComponent
