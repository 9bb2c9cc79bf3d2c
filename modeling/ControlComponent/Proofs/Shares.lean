import ControlComponent.Proofs.Answer
import ControlComponent.Proofs.Atomic

/-!
Which exponentiations are performed, and what comes of them.

Both phases take the same way through the engine, but each is open at another time and asks for
other values. What is asked for is put down here apart from the engine, for either phase, and the
checks of the engine find exactly that. A node with keys for the card set answers a request if and
only if it is due and the key of the card can be derived.
-/

namespace ControlComponent.Node.Exponentiation

open Key (Keyring)
open Message (Confirmation)
open Message.Computation

variable {suite : Suite} {keys : Key.Service} {nodeId maxAttempts : Nat} {request : Request}
  {input : Input} {group : Group} {store : Store} {record : CardRecord} {values : List Nat}

/-! ### Checks -/

theorem checkCodes_eq_ok :
    checkCodes group store request input = .ok values ↔
      input.elements = some values ∧
      store.selections request.electionId request.setId = .ok values.length ∧
      values.Nodup ∧ group.areMembers values = true := by
  unfold checkCodes
  cases input.elements with
  | none => simp
  | some given =>
    cases store.selections request.electionId request.setId with
    | error fault => simp
    | ok selections =>
      constructor
      · intro checked
        dsimp only at checked
        split_ifs at checked with length distinct members
        cases checked
        exact ⟨rfl, congrArg _ (Decidable.not_not.1 length).symm, distinct, members⟩
      · rintro ⟨⟨⟩, ⟨⟩, distinct, members⟩
        dsimp only
        rw [if_neg (not_not_intro rfl), if_neg (not_not_intro distinct), if_pos members]

theorem checkConfirmation_eq_ok :
    checkConfirmation group input = .ok values ↔
      ∃ confirmationInput confirmation, input.confirmationInput = some confirmationInput ∧
        Confirmation.ofText confirmationInput.confirmation = .ok confirmation ∧
        input.elements = some values ∧ values = [confirmation.key] ∧
        group.isMember confirmation.key = true := by
  constructor
  · intro checked
    unfold checkConfirmation at checked
    split at checked
    · cases checked
    · rename_i key listed
      split at checked
      · cases checked
      · rename_i confirmationInput confirmed
        split at checked
        · cases checked
        · rename_i confirmation read
          split_ifs at checked with member same
          cases checked
          subst same
          exact ⟨confirmationInput, confirmation, confirmed, read, listed, rfl, member⟩
    · cases checked
  · rintro ⟨confirmationInput, confirmation, confirmed, read, listed, rfl, member⟩
    simp only [checkConfirmation, listed, confirmed, read, member, if_true]

/-- How far the card of a request must have come, and what the values of the request must be: with
no confirmation as many different members as there are selections, before anything has been raised
for the card; with a confirmation only the key that it holds, a member, after that and as long as
attempts are left. -/
inductive Due (group : Group) (store : Store) (maxAttempts : Nat) (request : Request)
    (input : Input) (record : CardRecord) (values : List Nat) : Prop
  | choice {count : SelectionCount} (unconfirmed : input.confirmationInput = none)
      (first : record.isExponentiated = false)
      (counted : store.counts.get? ⟨request.electionId, request.setId⟩ = some count)
      (length : values.length = count.selections) (distinct : values.Nodup)
      (members : ∀ v ∈ values, group.isMember v = true) :
      Due group store maxAttempts request input record values
  | voteCast {confirmationInput : ConfirmationInput} {confirmation : Confirmation}
      (confirmed : input.confirmationInput = some confirmationInput)
      (later : record.isExponentiated = true) (left : record.attempts < maxAttempts)
      (read : Confirmation.ofText confirmationInput.confirmation = .ok confirmation)
      (single : values = [confirmation.key]) (member : group.isMember confirmation.key = true) :
      Due group store maxAttempts request input record values

/-- The checks of a phase let exactly those values pass that are due. -/
theorem examine_eq_ok :
    examine group store maxAttempts request input (.of input) record = .ok values ↔
      input.elements = some values ∧ Due group store maxAttempts request input record values := by
  cases given : input.confirmationInput with
  | none =>
    have phase : Phase.of input = .choice := by simp [Phase.of, given]
    rw [phase]
    constructor
    · intro examined
      have first := choice_open examined
      simp only [examine, first, Bool.false_eq_true, if_false] at examined
      obtain ⟨listed, counted, distinct, members⟩ := checkCodes_eq_ok.1 examined
      obtain ⟨count, found, length⟩ := Store.selections_eq_ok.1 counted
      exact ⟨listed, .choice given first found length.symm distinct (List.all_eq_true.1 members)⟩
    · rintro ⟨listed, due⟩
      cases due with
      | choice _ first counted length distinct members =>
        simp only [examine, first, Bool.false_eq_true, if_false]
        exact checkCodes_eq_ok.2 ⟨listed, Store.selections_eq_ok.2 ⟨_, counted, length.symm⟩,
          distinct, List.all_eq_true.2 members⟩
      | voteCast confirmed =>
        cases given.symm.trans confirmed
  | some confirmationInput =>
    have phase : Phase.of input = .voteCast := by simp [Phase.of, given]
    rw [phase]
    constructor
    · intro examined
      obtain ⟨later, left⟩ := voteCast_open examined
      simp only [examine, later, Bool.not_true, Bool.false_eq_true, if_false,
        if_neg (Nat.not_le_of_lt left)] at examined
      obtain ⟨_, confirmation, confirmed, read, listed, single, member⟩ :=
        checkConfirmation_eq_ok.1 (mapError_eq_ok.1 examined)
      exact ⟨listed, .voteCast confirmed later left read single member⟩
    · rintro ⟨listed, due⟩
      cases due with
      | choice unconfirmed =>
        cases given.symm.trans unconfirmed
      | voteCast confirmed later left read single member =>
        simp only [examine, later, Bool.not_true, Bool.false_eq_true, if_false,
          if_neg (Nat.not_le_of_lt left)]
        exact mapError_eq_ok.2
          (checkConfirmation_eq_ok.2 ⟨_, _, confirmed, read, listed, single, member⟩)

/-! ### Requests -/

/-- What passes under the lock is raised and recorded. -/
theorem exists_locked (nodeId : Nat) {master : ElGamal.SecretKey} {key : Nat} (state : State)
    (decrypted : state.store.card request.electionId request.cardId = .ok record)
    (examined :
      examine group state.store maxAttempts request input (.of input) record = .ok values)
    (unlocked : keys.generationKey request.electionId request.setId = .ok master)
    (derived : VoterKey.deriveFor suite master.first (Phase.of input).keyKind request.cardId group =
      .ok key) :
    ∃ share, (locked suite keys nodeId maxAttempts request input (.of input) group state).result =
      .ok share := by
  unfold locked
  simp only [decrypted, examined, unlocked, derived]
  exact ⟨_, rfl⟩

/-- A request that passes is answered, if the answer can be signed. -/
theorem exists_process_eq_respond (nodeId : Nat) {master : ElGamal.SecretKey} {key : Nat}
    (state : State)
    (payload : request.payload = some input) (fields : request.invalidFields = [])
    (parameters : keys.parameters request.electionId request.setId = .ok group)
    (decrypted : state.store.card request.electionId request.cardId = .ok record)
    (examined :
      examine group state.store maxAttempts request input (.of input) record = .ok values)
    (unlocked : keys.generationKey request.electionId request.setId = .ok master)
    (derived : VoterKey.deriveFor suite master.first (Phase.of input).keyKind request.cardId group =
      .ok key) :
    ∃ share after, (process suite keys nodeId maxAttempts request state).result =
      (respond suite keys request share after).result := by
  obtain ⟨share, done⟩ := exists_locked nodeId
    (state.acquire ⟨request.electionId, request.cardId⟩) decrypted examined unlocked derived
  unfold process
  rw [payload, fields]
  simp only [parameters]
  exact ⟨share, _, (Step.andThen_ok (by simpa using done) _).1⟩

/-- The public key of a share stands in the field of its phase, and the other one is empty. -/
theorem publicKeys_shares (suite : Suite) (group : Group) (input : Input) (values : List Nat)
    (key : Nat) (texts : List String) (nonce : Nat) :
    let share := shares suite group (.of input) values key texts nonce
    let publicKey := some (group.pow group.g key)
    share.choicePublicKey = (if input.confirmationInput.isSome then none else publicKey) ∧
      share.voteCastPublicKey = (if input.confirmationInput.isSome then publicKey else none) := by
  intro share publicKey
  cases given : input.confirmationInput with
  | none => simp [share, publicKey, shares, Phase.of, given]
  | some _ => simp [share, publicKey, shares, Phase.of, given]

/-- What has been answered was due, and it has been raised to the key that was derived. -/
theorem exists_due {keyring : Keyring} {setKeys : Key.SetKeys} {state : State}
    {response : Envelope (Signed ExponentiationShare)}
    (found : keyring.setKeysOf request.electionId request.setId = .ok setKeys)
    (payload : request.payload = some input)
    (done : (process suite keyring.service nodeId maxAttempts request state).result =
      .ok response) :
    ∃ record values key share signature,
      state.store.cards.get? ⟨request.electionId, request.cardId⟩ = some record ∧
      input.elements = some values ∧
      Due setKeys.group state.store maxAttempts request input record values ∧
      VoterKey.deriveFor suite setKeys.generation.secret.first (Phase.of input).keyKind
        request.cardId setKeys.group = .ok key ∧
      response = request.reply ⟨share, some signature⟩ ∧
      ∃ texts nonce, share = shares suite setKeys.group (.of input) values key texts nonce := by
  obtain ⟨input', group, record, values, secret, share, signed, passed, signs, rfl⟩ :=
    answered done
  cases payload.symm.trans passed.payload
  cases (Keyring.parameters_of_setKeysOf found).symm.trans passed.parameters
  cases (Keyring.generationKey_of_setKeysOf found).symm.trans passed.unlocked
  obtain ⟨listed, due⟩ := examine_eq_ok.1 passed.examined
  obtain ⟨key, nonce, derived, same⟩ := passed.computed
  obtain ⟨signature, rfl⟩ := signs.exists_signature
  exact ⟨record, values, key, share, signature, Store.card_eq_ok.1 passed.decrypted, listed, due,
    derived, rfl, _, nonce, same⟩

/-- **A node with keys for the card set performs the exponentiations that are due, and no others.**
A request with valid fields completes if and only if there is a record of its card, its values are
due, and the key of the card for the phase can be derived. The response has a share for each value,
in their order: the hash of the value in the group, raised to that key. The public key stands in the
field of the phase only. -/
theorem process_answers_what_is_due {keyring : Keyring}
    (reachable : keyring.Reachable .standard suite.signing) (request : Request)
    {setKeys : Key.SetKeys}
    (found : keyring.setKeysOf request.electionId request.setId = .ok setKeys)
    (payload : request.payload = some input) (fields : request.invalidFields = [])
    (nodeId maxAttempts : Nat) (state : State) :
    let result := (process suite keyring.service nodeId maxAttempts request state).result
    let group := setKeys.group
    let derived := VoterKey.deriveFor suite setKeys.generation.secret.first (Phase.of input).keyKind
      request.cardId group
    ((∃ response, result = .ok response) ↔
      (∃ record values,
        state.store.cards.get? ⟨request.electionId, request.cardId⟩ = some record ∧
        input.elements = some values ∧
        Due group state.store maxAttempts request input record values) ∧
      ∃ key, derived = .ok key) ∧
    ∀ response, result = .ok response → ∃ values key share signature,
      input.elements = some values ∧ derived = .ok key ∧
      response = request.reply ⟨share, some signature⟩ ∧
      share.shares =
        values.map (fun v => ⟨v, group.pow (suite.hashAndSquare ⟨group, v⟩).value key⟩) ∧
      share.choicePublicKey =
        (if input.confirmationInput.isSome then none else some (group.pow group.g key)) ∧
      share.voteCastPublicKey =
        (if input.confirmationInput.isSome then some (group.pow group.g key) else none) := by
  intro result group derived
  constructor
  · constructor
    · rintro ⟨response, done⟩
      obtain ⟨record, values, key, _, _, recorded, listed, due, key_eq, -⟩ :=
        exists_due found payload done
      exact ⟨⟨record, values, recorded, listed, due⟩, key, key_eq⟩
    · rintro ⟨⟨record, values, recorded, listed, due⟩, key, key_eq⟩
      obtain ⟨share, after, same⟩ := exists_process_eq_respond nodeId state payload fields
        (Keyring.parameters_of_setKeysOf found) (Store.card_eq_ok.2 recorded)
        (examine_eq_ok.2 ⟨listed, due⟩) (Keyring.generationKey_of_setKeysOf found) key_eq
      obtain ⟨response, done⟩ :=
        respond_ok (reachable.sound Key.Sealing.honest_standard) share after found
      exact ⟨response, same.trans done⟩
  · intro response done
    obtain ⟨_, values, key, share, signature, -, listed, -, key_eq, reply, texts, nonce, rfl⟩ :=
      exists_due found payload done
    exact ⟨values, key, _, signature, listed, key_eq, reply,
      shares_eq suite group (.of input) values key texts nonce,
      publicKeys_shares suite group input values key texts nonce⟩

/-- The only code of a card is due once it has been decrypted, a vote cast code after that, and the
code not again. -/
theorem process_answers_what_is_due_of_small :
    Small.keyring.Reachable .standard Small.suite.signing ∧
      (∃ share signature,
        (process Small.suite Small.keyring.service 1 5 (Small.choice Small.setA)
          (Small.decrypted Small.setA)).result =
            .ok ((Small.choice Small.setA).reply ⟨share, some signature⟩) ∧
        share.shares.map (·.input) = [2] ∧ share.choicePublicKey = some 2 ∧
        share.voteCastPublicKey = none) ∧
      (∃ share signature,
        (process Small.suite Small.keyring.service 1 5 (Small.cast Small.setA)
          (Small.exponentiated Small.setA)).result =
            .ok ((Small.cast Small.setA).reply ⟨share, some signature⟩) ∧
        share.shares.map (·.input) = [2] ∧ share.choicePublicKey = none ∧
        share.voteCastPublicKey = some 2) ∧
      ∀ response, (process Small.suite Small.keyring.service 1 5 (Small.choice Small.setA)
        (Small.exponentiated Small.setA)).result ≠ .ok response := by
  have reachable : Small.keyring.Reachable .standard Small.suite.signing :=
    Small.keyring_reachable .standard
  have found : Small.keyring.setKeysOf Small.electionId Small.setA =
    .ok (Small.setKeys Small.setA 3) := rfl
  have choiceFields : (Small.choice Small.setA).invalidFields = [] := by decide +kernel
  have castFields : (Small.cast Small.setA).invalidFields = [] := by decide +kernel
  have choiceKey : VoterKey.deriveFor Small.suite 3 .choice Small.cardC Small.group = .ok 1 :=
    toOption_eq_some.1 (by decide +kernel)
  have castKey : VoterKey.deriveFor Small.suite 3 .voteCast Small.cardC Small.group = .ok 1 :=
    toOption_eq_some.1 (by decide +kernel)
  have raised : (Small.exponentiated Small.setA).store.cards.get?
      ⟨Small.electionId, Small.cardC⟩ = some ⟨Small.electionId, Small.cardC, true, 0⟩ := by
    decide +kernel
  have counted : (Small.decrypted Small.setA).store.counts.get? ⟨Small.electionId, Small.setA⟩ =
      some ⟨Small.electionId, Small.setA, 1⟩ := by decide +kernel
  have read : Confirmation.ofText "\x7b\"confirmation_key\":\"2\"\x7d" = .ok ⟨2⟩ :=
    toOption_eq_some.1 (by decide +kernel)
  have choiceGate := process_answers_what_is_due reachable (Small.choice Small.setA) found rfl
    choiceFields 1 5
  refine ⟨reachable, ?_, ?_, ?_⟩
  · obtain ⟨gate, answers⟩ := choiceGate (Small.decrypted Small.setA)
    obtain ⟨response, done⟩ := gate.2
      ⟨⟨.new Small.electionId Small.cardC, [2], by decide +kernel, rfl,
        .choice rfl rfl counted rfl (by decide) (by decide)⟩, 1, choiceKey⟩
    obtain ⟨values, key, share, signature, listed, derived, rfl, shares, choice, cast⟩ :=
      answers response done
    cases listed
    cases choiceKey.symm.trans derived
    exact ⟨share, signature, done, by rw [shares]; rfl, choice, cast⟩
  · obtain ⟨gate, answers⟩ := process_answers_what_is_due reachable (Small.cast Small.setA)
      found rfl castFields 1 5 (Small.exponentiated Small.setA)
    obtain ⟨response, done⟩ := gate.2
      ⟨⟨_, [2], raised, rfl, .voteCast rfl rfl (by decide) read rfl (by decide)⟩, 1,
        castKey⟩
    obtain ⟨values, key, share, signature, listed, derived, rfl, shares, choice, cast⟩ :=
      answers response done
    cases listed
    cases castKey.symm.trans derived
    exact ⟨share, signature, done, by rw [shares]; rfl, choice, cast⟩
  · intro response done
    obtain ⟨⟨record, values, recorded, -, due⟩, -⟩ :=
      (choiceGate (Small.exponentiated Small.setA)).1.1 ⟨response, done⟩
    cases raised.symm.trans recorded
    cases due with
    | choice _ first => cases first
    | voteCast confirmed => cases confirmed

end ControlComponent.Node.Exponentiation
