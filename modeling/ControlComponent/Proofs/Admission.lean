import ControlComponent.Proofs.Answer
import ControlComponent.Proofs.Atomic
import ControlComponent.Proofs.Context
import ControlComponent.Proofs.Identifier

/-!
Which decryptions are admitted.

A decryption goes through many checks, spread over several functions that refuse in different ways.
What a request has to bring, and what must be known of its card and its card set, is put down here
once and apart from them. The checks of the engine come to exactly that: a request that brings all
of it is answered, and one that lacks anything is not.
-/

namespace ControlComponent

open Message (Vote)
open Message.Computation

/-! ### Fields and keys -/

/-- Numbers are read as elements if all of them are members. -/
theorem Group.elements_eq_ok {group : Group} {values : List Nat} {elements : List Element} :
    group.elements values = .ok elements ↔
      group.areMembers values = true ∧ elements = group.lift values := by
  have each (v : Nat) (a : Element) :
      group.element v = .ok a ↔ group.isMember v = true ∧ a = ⟨group, v⟩ := by
    unfold Group.element
    rw [map_eq_ok]
    constructor
    · rintro ⟨v', read, rfl⟩
      obtain ⟨isMember, rfl⟩ := Group.member_eq_ok.1 read
      exact ⟨isMember, rfl⟩
    · rintro ⟨isMember, rfl⟩
      exact ⟨v, Group.member_eq_ok.2 ⟨isMember, rfl⟩, rfl⟩
  unfold Group.elements Group.areMembers
  rw [mapM_eq_ok each, List.all_eq_true]
  rfl

/-- A public key is read from members, one or more. -/
theorem ElGamal.PublicKey.ofValues_eq_ok {group : Group} {values : List Nat}
    {key : ElGamal.PublicKey} :
    ofValues group values = .ok key ↔
      group.areMembers values = true ∧ key.group = group ∧ key.values = values := by
  constructor
  · intro read
    obtain ⟨elements, all, made⟩ := bind_eq_ok.1 read
    obtain ⟨members, rfl⟩ := Group.elements_eq_ok.1 all
    unfold ofElements at made
    split at made
    · cases made
    · split at made
      · cases made
      · cases made
        exact ⟨members, rfl, Group.map_value_lift group values⟩
  · rintro ⟨members, rfl, rfl⟩
    refine bind_eq_ok.2 ⟨_, Group.elements_eq_ok.2 ⟨members, rfl⟩, ?_⟩
    have nonempty : key.group.lift key.values ≠ [] := by simp [Group.lift, key.values_ne]
    have same : ((key.group.lift key.values).any fun a => a.group ≠ key.group) = false := by
      simp [Group.lift]
    rw [ofElements, dif_neg nonempty, same]
    simp only [Bool.false_eq_true, if_false, Group.map_value_lift]

theorem ElGamal.PublicKey.first_eq {key : ElGamal.PublicKey} {h : Nat} {rest : List Nat}
    (values : key.values = h :: rest) : key.first = ⟨key.group, h⟩ := by
  unfold first
  simp only [values, List.head_cons]

/-! ### Votes -/

namespace VoteCheck

variable {suite : Suite} {store : Store} {group : Group} {input : VoteInput} {vote : Vote}
  {adminBoard : Signature.PublicKey} {eventKey codesKey : ElGamal.PublicKey}

/-- A vote that is valid is found valid. -/
theorem Valid.check (valid : Valid suite store group input vote adminBoard eventKey codesKey) :
    check suite store group input vote adminBoard = .ok (.proofs .valid .valid) := by
  simp only [VoteCheck.check, valid.electionKey, valid.cardSet, valid.cardKey, valid.event,
    valid.codes, valid.exponentiation, valid.plaintextEquality, Except.map]

/-- Whether both proofs of a vote verify for what they are about. The first says that the generator
and the encrypted options have been raised to the exponent of the key that is stored for the card, a
single member. The second says that the raised options, under the first value of the election key,
and the product of the partial choice codes, under that of the choice codes key, hold the same. -/
structure Proved (suite : Suite) (store : Store) (group : Group) (vote : Vote)
    (eventKey codesKey : List Nat) : Prop where
  exponentiation : ∃ stored key c c' x x',
    store.cardKeys.get? ⟨vote.electionId, vote.cardId⟩ = some stored ∧
    stored.publicKey = [key] ∧ group.isMember key = true ∧
    vote.encryptedOptions = [c, c'] ∧ vote.exponentiatedOptions = [x, x'] ∧
    vote.exponentiationProof.verify suite
      ⟨group.lift [group.g, c, c'], group.lift [key, x, x']⟩ vote.auxiliary = .ok true
  plaintextEquality : ∃ x x' gamma phis h rest,
    vote.exponentiatedOptions = [x, x'] ∧ vote.encryptedPartialCodes = gamma :: phis ∧
    phis ≠ [] ∧ eventKey = h :: rest ∧
    vote.plaintextEqualityProof.verify suite
      { primary := ⟨group, x, [x']⟩
        primaryKey := ⟨group, h⟩
        secondary := ⟨group, gamma, [group.product phis]⟩
        secondaryKey := ⟨group, group.product codesKey⟩ } vote.auxiliary = .ok true

/-- The first proof verifies if its check says so, all values being members. -/
theorem checkExponentiation_eq_valid
    (options : group.areMembers vote.encryptedOptions = true)
    (raised : group.areMembers vote.exponentiatedOptions = true) :
    checkExponentiation suite store group vote = .ok .valid ↔
      ∃ stored key c c' x x',
        store.cardKeys.get? ⟨vote.electionId, vote.cardId⟩ = some stored ∧
        stored.publicKey = [key] ∧ group.isMember key = true ∧
        vote.encryptedOptions = [c, c'] ∧ vote.exponentiatedOptions = [x, x'] ∧
        vote.exponentiationProof.verify suite
          ⟨group.lift [group.g, c, c'], group.lift [key, x, x']⟩ vote.auxiliary = .ok true := by
  constructor
  · intro valid
    obtain ⟨stored, key, found, single, member, c, c', x, x', listed, listed', verified⟩ :=
      exists_stored_key valid
    exact ⟨stored, key, c, c', x, x', Store.cardKey_eq_ok.1 found, single, member, listed, listed',
      verified⟩
  · rintro ⟨stored, key, c, c', x, x', found, single, member, listed, listed', verified⟩
    rw [listed] at options
    rw [listed'] at raised
    have members : group.areMembers [key, c, c', x, x'] = true := by
      obtain ⟨first, rest⟩ := Group.areMembers_cons.1 options
      obtain ⟨second, -⟩ := Group.areMembers_cons.1 rest
      exact Group.areMembers_cons.2 ⟨member, Group.areMembers_cons.2 ⟨first,
        Group.areMembers_cons.2 ⟨second, raised⟩⟩⟩
    refine bind_eq_ok.2 ⟨stored, Store.cardKey_eq_ok.2 found, ?_⟩
    simp only [single, listed, listed', members, if_true, verified]
    rfl

/-- The second proof verifies if its check says so, all values being members. -/
theorem checkPlaintextEquality_eq_valid
    (raised : group.areMembers vote.exponentiatedOptions = true)
    (codes : group.areMembers vote.encryptedPartialCodes = true) :
    checkPlaintextEquality suite group vote eventKey codesKey = .valid ↔
      ∃ x x' gamma phis,
        vote.exponentiatedOptions = [x, x'] ∧ vote.encryptedPartialCodes = gamma :: phis ∧
        phis ≠ [] ∧
        vote.plaintextEqualityProof.verify suite
          { primary := ⟨group, x, [x']⟩
            primaryKey := eventKey.first
            secondary := ⟨group, gamma, [group.product phis]⟩
            secondaryKey := codesKey.compress } vote.auxiliary = .ok true := by
  constructor
  · intro valid
    unfold checkPlaintextEquality at valid
    split at valid
    · rename_i x x' gamma phi phis listed listed'
      split at valid
      · exact ⟨x, x', gamma, phi :: phis, listed, listed', List.cons_ne_nil _ _,
          ProofCheck.ofVerification_eq_valid.1 valid⟩
      · cases valid
    · cases valid
  · rintro ⟨x, x', gamma, phis, listed, listed', nonempty, verified⟩
    obtain ⟨phi, phis, rfl⟩ := List.exists_cons_of_ne_nil nonempty
    rw [listed] at raised
    rw [listed'] at codes
    simp only [checkPlaintextEquality, listed, listed', raised, codes, Bool.and_self, if_true,
      verified]
    rfl

/-- What a vote and its input must bring so that the vote is valid, all values of its lists being
members: the signatures of the board and of the issuer, two keys of members, and both proofs. -/
structure Supported (suite : Suite) (store : Store) (group : Group) (input : VoteInput)
    (vote : Vote) (adminBoard : Signature.PublicKey) : Prop where
  electionKey : input.electionKey.check suite.signing ElectionKey.codec adminBoard = .ok ()
  cardSet : input.cardSet.check suite.signing CardSet.codec adminBoard = .ok ()
  cardKey : checkCardKey suite.signing input vote = .ok ()
  eventKey_ne : input.electionKey.content.publicKey ≠ []
  eventKey_members : ∀ v ∈ input.electionKey.content.publicKey, group.isMember v = true
  codesKey_ne : input.cardSet.content.choiceCodesKey ≠ []
  codesKey_members : ∀ v ∈ input.cardSet.content.choiceCodesKey, group.isMember v = true
  proved : Proved suite store group vote input.electionKey.content.publicKey
    input.cardSet.content.choiceCodesKey

theorem exists_valid_iff_supported
    (options : group.areMembers vote.encryptedOptions = true)
    (raised : group.areMembers vote.exponentiatedOptions = true)
    (codes : group.areMembers vote.encryptedPartialCodes = true) :
    (∃ eventKey codesKey, Valid suite store group input vote adminBoard eventKey codesKey) ↔
      Supported suite store group input vote adminBoard := by
  constructor
  · rintro ⟨eventKey, codesKey, valid⟩
    obtain ⟨members, rfl, values⟩ := ElGamal.PublicKey.ofValues_eq_ok.1 valid.event
    obtain ⟨members', same, values'⟩ := ElGamal.PublicKey.ofValues_eq_ok.1 valid.codes
    obtain ⟨x, x', gamma, phis, listed, listed', nonempty, verified⟩ :=
      (checkPlaintextEquality_eq_valid raised codes).1 valid.plaintextEquality
    obtain ⟨h, rest, first⟩ := List.exists_cons_of_ne_nil eventKey.values_ne
    rw [ElGamal.PublicKey.first_eq first, ElGamal.PublicKey.compress, same, values'] at verified
    exact {
      electionKey := valid.electionKey
      cardSet := valid.cardSet
      cardKey := valid.cardKey
      eventKey_ne := values ▸ eventKey.values_ne
      eventKey_members := List.all_eq_true.1 members
      codesKey_ne := values' ▸ codesKey.values_ne
      codesKey_members := List.all_eq_true.1 members'
      proved := ⟨(checkExponentiation_eq_valid options raised).1 valid.exponentiation,
        x, x', gamma, phis, h, rest, listed, listed', nonempty, values ▸ first, verified⟩ }
  · intro supported
    obtain ⟨x, x', gamma, phis, h, rest, listed, listed', nonempty, first, verified⟩ :=
      supported.proved.plaintextEquality
    let eventKey : ElGamal.PublicKey := ⟨group, _, supported.eventKey_ne⟩
    let codesKey : ElGamal.PublicKey := ⟨group, _, supported.codesKey_ne⟩
    have leading : eventKey.first = ⟨group, h⟩ := ElGamal.PublicKey.first_eq first
    refine ⟨eventKey, codesKey, supported.electionKey, supported.cardSet, supported.cardKey,
      ElGamal.PublicKey.ofValues_eq_ok.2
        ⟨List.all_eq_true.2 supported.eventKey_members, rfl, rfl⟩,
      ElGamal.PublicKey.ofValues_eq_ok.2
        ⟨List.all_eq_true.2 supported.codesKey_members, rfl, rfl⟩,
      (checkExponentiation_eq_valid options raised).2 supported.proved.exponentiation,
      (checkPlaintextEquality_eq_valid raised codes).2
        ⟨x, x', gamma, phis, listed, listed', nonempty, ?_⟩⟩
    rw [leading]
    exact verified

end VoteCheck

namespace Node.Decryption

variable {suite : Suite} {keys : Key.Service} {found : Store} {request : Request} {input : Input}
  {voteInput : VoteInput} {group : Group} {gamma : Nat} {vote : Vote} {elements : List Nat}
  {selections : Nat}

/-! ### Lists -/

/-- Whether the lists of a vote and the node's own list fit: as many values as they should have, one
more than there are selections for the codes, all of them members, and the same value first. -/
structure ListsFit (group : Group) (selections : Nat) (vote : Vote) (elements : List Nat) :
    Prop where
  codes : vote.encryptedPartialCodes.length = selections + 1
  raised : vote.exponentiatedOptions.length = 2
  options : vote.encryptedOptions.length = 2
  nonempty : elements ≠ []
  members : ∀ v ∈ elements ++ vote.encryptedPartialCodes ++ vote.exponentiatedOptions ++
    vote.encryptedOptions, group.isMember v = true
  agree : elements.head? = vote.encryptedPartialCodes.head?

theorem ListsFit.areMembers (fit : ListsFit group selections vote elements) :
    group.areMembers elements = true ∧ group.areMembers vote.encryptedPartialCodes = true ∧
      group.areMembers vote.exponentiatedOptions = true ∧
      group.areMembers vote.encryptedOptions = true := by
  obtain ⟨rest, options⟩ := List.forall_mem_append.1 fit.members
  obtain ⟨rest, raised⟩ := List.forall_mem_append.1 rest
  obtain ⟨own, codes⟩ := List.forall_mem_append.1 rest
  exact ⟨List.all_eq_true.2 own, List.all_eq_true.2 codes, List.all_eq_true.2 raised,
    List.all_eq_true.2 options⟩

/-- The lists are consistent if they fit. -/
theorem checkConsistency_eq_ok :
    checkConsistency group (selections + 1) vote elements = .ok gamma ↔
      ListsFit group selections vote elements ∧ elements.head? = some gamma := by
  refine checkConsistency_eq_ok_iff.trans ?_
  constructor
  · intro consistent
    obtain ⟨codesLength, codes⟩ := checkList_eq_ok.1 consistent.codes
    obtain ⟨raisedLength, raised⟩ := checkList_eq_ok.1 consistent.raised
    obtain ⟨optionsLength, options⟩ := checkList_eq_ok.1 consistent.options
    refine ⟨⟨codesLength, raisedLength, optionsLength, ?_, ?_,
      consistent.own.trans consistent.voters.symm⟩, consistent.own⟩
    · rintro rfl
      cases consistent.own
    · exact List.forall_mem_append.2 ⟨List.forall_mem_append.2 ⟨List.forall_mem_append.2
        ⟨List.all_eq_true.1 consistent.members, List.all_eq_true.1 codes⟩,
        List.all_eq_true.1 raised⟩, List.all_eq_true.1 options⟩
  · rintro ⟨fit, first⟩
    obtain ⟨own, codes, raised, options⟩ := fit.areMembers
    exact ⟨checkList_eq_ok.2 ⟨fit.codes, codes⟩, own, checkList_eq_ok.2 ⟨fit.raised, raised⟩,
      checkList_eq_ok.2 ⟨fit.options, options⟩, first, fit.agree.symm.trans first⟩

/-! ### Checks under the lock -/

theorem accept_eq_ok :
    accept keys request input = .ok (group, voteInput) ↔
      keys.parameters request.electionId request.setId = .ok group ∧
      input.voteInput = some voteInput ∧ input.confirmationInput = none := by
  unfold accept
  cases keys.parameters request.electionId request.setId with
  | error fault => simp
  | ok known =>
    cases input.voteInput with
    | none => simp
    | some given =>
      cases input.confirmationInput with
      | none => simp
      | some confirmation => simp

theorem voteOf_of_ofText (read : Vote.ofText voteInput.vote = .ok vote)
    (event : vote.electionId = request.electionId) (card : vote.cardId = request.cardId) :
    voteOf request voteInput = .ok vote := by
  simp only [voteOf, read]
  exact if_pos ⟨event, card⟩

theorem checkCertificates_of_checkChain {bundle : CertificateBundle} {root : Certificate}
    (given : input.certificates = some bundle) (platform : keys.platformCa = .ok root)
    (chain : Certificate.checkChain suite.signing root [bundle.adminBoard, bundle.tenantCa] =
      .ok ()) :
    checkCertificates suite keys input = .ok bundle.adminBoard.publicKey := by
  simp only [checkCertificates, given, platform, chain]

theorem Examined.examine {adminBoard : Signature.PublicKey}
    (passed : Examined suite keys found request input voteInput group gamma vote elements selections
      adminBoard) :
    examine suite keys found request input voteInput group = .ok gamma := by
  obtain ⟨eventKey, codesKey, valid⟩ := passed.valid
  unfold Decryption.examine
  rw [passed.unrecorded]
  refine bind_eq_ok.2 ⟨vote, mapError_eq_ok.2 passed.voted, ?_⟩
  rw [passed.listed]
  obtain ⟨expected, fits, consistent⟩ := passed.consistent
  exact bind_eq_ok.2 ⟨selections, mapError_eq_ok.2 passed.counted,
    bind_eq_ok.2 ⟨expected, expectedLength_eq_ok.2 fits,
    bind_eq_ok.2 ⟨gamma, consistent, bind_eq_ok.2 ⟨adminBoard,
      mapError_eq_ok.2 passed.certified, bind_eq_ok.2 ⟨_, mapError_eq_ok.2 valid.check, rfl⟩⟩⟩⟩⟩

/-! ### Requests -/

/-- What a decryption takes: a request with its mandatory fields, for a card set that there are keys
for and a card that has not been decrypted yet; a vote for that event and card, and no confirmation;
lists that fit, of one selection or more; certificates that lead from the board to the platform; and
everything that supports the vote. -/
structure Admissible (suite : Suite) (keyring : Key.Keyring) (store : Store) (request : Request)
    (input : Input) (voteInput : VoteInput) (vote : Vote) (bundle : CertificateBundle)
    (setKeys : Key.SetKeys) (count : SelectionCount) (elements : List Nat) : Prop where
  requestId : Text.isBlank request.requestId = false
  cardId : Uuid.isWritten request.cardId = true
  setId : Uuid.isWritten request.setId = true
  electionId : Uuid.isWritten request.electionId = true
  payload : request.payload = some input
  unlocked : keyring.setKeysOf request.electionId request.setId = .ok setKeys
  voted : input.voteInput = some voteInput
  unconfirmed : input.confirmationInput = none
  undecrypted : store.cards.get? ⟨request.electionId, request.cardId⟩ = none
  read : Vote.ofText voteInput.vote = .ok vote
  event : vote.electionId = request.electionId
  card : vote.cardId = request.cardId
  listed : input.elements = some elements
  counted : store.counts.get? ⟨request.electionId, request.setId⟩ = some count
  selects : 1 ≤ count.selections
  lists : ListsFit setKeys.group count.selections vote elements
  certificates : input.certificates = some bundle
  chain : Certificate.checkChain suite.signing keyring.platformCa
    [bundle.adminBoard, bundle.tenantCa] = .ok ()
  supported : VoteCheck.Supported suite store setKeys.group voteInput vote
    bundle.adminBoard.publicKey

section Requests

variable {keyring : Key.Keyring}

/-- A completed decryption was admissible. -/
theorem exists_admissible {nodeId : Nat} {state : State}
    {response : Envelope (Signed DecryptionShare)}
    (bounded : ∀ count,
      state.store.counts.get? ⟨request.electionId, request.setId⟩ = some count →
        count.selections < 2 ^ 64 - 1)
    (done : (process suite keyring.service nodeId state.store request state).result =
      .ok response) :
    ∃ input voteInput vote bundle setKeys count elements,
      Admissible suite keyring state.store request input voteInput vote bundle setKeys count
        elements := by
  obtain ⟨input, voteInput, group, gamma, secret, share, signed, passed, -, -, rfl⟩ := answered done
  obtain ⟨vote, elements, selections, board, examined⟩ := exists_examined passed.examined
  obtain ⟨requestId, cardId, setId, electionId, -⟩ := Envelope.invalidFields_eq_nil.1 passed.fields
  obtain ⟨known, voted, unconfirmed⟩ := accept_eq_ok.1 passed.accepted
  obtain ⟨setKeys, unlocked, rfl⟩ := Key.Keyring.setKeysOf_of_parameters known
  obtain ⟨count, counted, rfl⟩ := Store.selections_eq_ok.1 examined.counted
  obtain ⟨expected, fits, consistent⟩ := examined.consistent
  obtain rfl : count.selections + 1 = expected :=
    Option.some.inj ((Overflow.succ_eq_some (bounded count counted)).symm.trans fits)
  obtain ⟨lists, -⟩ := checkConsistency_eq_ok.1 consistent
  obtain ⟨-, codes, raised, options⟩ := lists.areMembers
  have supported := (VoteCheck.exists_valid_iff_supported options raised codes).1 examined.valid
  obtain ⟨read, event, card⟩ := voteOf_eq_ok examined.voted
  obtain ⟨bundle, root, certificates, platform, chain, rfl⟩ :=
    checkCertificates_eq_ok examined.certified
  cases platform
  -- A proof about the product of the codes has at least one of them to look at.
  have selects : 1 ≤ count.selections := by
    obtain ⟨_, _, gamma', phis, _, _, -, listed, nonempty, -⟩ :=
      supported.proved.plaintextEquality
    have length := lists.codes
    have positive := List.length_pos_iff.2 nonempty
    rw [listed, List.length_cons] at length
    omega
  have undecrypted := examined.unrecorded
  rw [Store.hasCard, Table.contains, Option.isSome_eq_false_iff, Option.isNone_iff_eq_none]
    at undecrypted
  exact ⟨input, voteInput, vote, bundle, setKeys, count, elements, requestId, cardId, setId,
    electionId, passed.payload, unlocked, voted, unconfirmed, undecrypted, read, event, card,
    examined.listed, counted, selects, lists, certificates, chain, supported⟩

/-- What is admissible passes the checks under the lock. -/
theorem Admissible.examined {vote : Vote} {bundle : CertificateBundle} {setKeys : Key.SetKeys}
    {count : SelectionCount} {store : Store} (bounded : count.selections < 2 ^ 64 - 1)
    (admissible : Admissible suite keyring store request input voteInput vote bundle setKeys count
      elements) :
    ∃ gamma, examine suite keyring.service store request input voteInput setKeys.group =
      .ok gamma := by
  obtain ⟨-, codes, raised, options⟩ := admissible.lists.areMembers
  obtain ⟨gamma, rest, rfl⟩ := List.exists_cons_of_ne_nil admissible.lists.nonempty
  have unrecorded : store.hasCard request.electionId request.cardId = false := by
    rw [Store.hasCard, Table.contains, admissible.undecrypted]
    rfl
  exact ⟨gamma, Examined.examine {
    unrecorded := unrecorded
    voted := voteOf_of_ofText admissible.read admissible.event admissible.card
    listed := admissible.listed
    counted := Store.selections_eq_ok.2 ⟨count, admissible.counted, rfl⟩
    consistent := ⟨_, Overflow.succ_eq_some bounded,
      checkConsistency_eq_ok.2 ⟨admissible.lists, rfl⟩⟩
    certified := checkCertificates_of_checkChain admissible.certificates rfl admissible.chain
    valid :=
      (VoteCheck.exists_valid_iff_supported options raised codes).2 admissible.supported }⟩

variable (reachable : keyring.Reachable .standard suite.signing)

include reachable

/-- What is admissible is answered. -/
theorem Admissible.exists_response {vote : Vote} {bundle : CertificateBundle}
    {setKeys : Key.SetKeys} {count : SelectionCount} {state : State}
    (bounded : count.selections < 2 ^ 64 - 1)
    (admissible : Admissible suite keyring state.store request input voteInput vote bundle setKeys
      count elements) (nodeId : Nat) :
    ∃ response, (process suite keyring.service nodeId state.store request state).result =
      .ok response := by
  have sound := reachable.sound Key.Sealing.honest_standard
  have found := admissible.unlocked
  have same : setKeys.encryption.secret.group = setKeys.group :=
    (sound.grouped setKeys (Key.Keyring.mem_of_setKeysOf found)).2
  have fields : request.invalidFields = [] :=
    Envelope.invalidFields_eq_nil.2 ⟨admissible.requestId, admissible.cardId, admissible.setId,
      admissible.electionId, by rw [admissible.payload]; rfl⟩
  have accepted : accept keyring.service request input = .ok (setKeys.group, voteInput) :=
    accept_eq_ok.2
      ⟨Key.Keyring.parameters_of_setKeysOf found, admissible.voted, admissible.unconfirmed⟩
  obtain ⟨gamma, examined⟩ := admissible.examined bounded
  rw [← same] at accepted examined
  obtain ⟨share, after, answered⟩ := exists_process_eq_respond nodeId setKeys.encryption.secret
    admissible.payload fields accepted examined (Key.Keyring.decryptionKey_of_setKeysOf found)
    state admissible.undecrypted
  obtain ⟨response, done⟩ := respond_ok sound share after found
  exact ⟨response, answered.trans done⟩

/-- **A decryption completes if and only if it is admissible.** This holds of every keyring that can
come about and of every store, as long as one more than the number of selections that the store has
for the card set still is a number of 64 bits. -/
theorem process_completes_iff_admissible (nodeId : Nat) (request : Request) (state : State)
    (bounded : ∀ count,
      state.store.counts.get? ⟨request.electionId, request.setId⟩ = some count →
        count.selections < 2 ^ 64 - 1) :
    (∃ response, (process suite keyring.service nodeId state.store request state).result =
      .ok response) ↔
    ∃ input voteInput vote bundle setKeys count elements,
      Admissible suite keyring state.store request input voteInput vote bundle setKeys count
        elements := by
  constructor
  · rintro ⟨response, done⟩
    exact exists_admissible bounded done
  · rintro ⟨input, voteInput, vote, bundle, setKeys, count, elements, admissible⟩
    exact admissible.exists_response reachable (bounded count admissible.counted) nodeId

end Requests

/-- The decryption for the card is admissible, with one selection, and once more it is not. -/
theorem process_completes_iff_admissible_of_small :
    let ready := Small.ready Small.setA
    let decrypted := Small.decrypted Small.setA
    let request := Small.decryption Small.setA
    Small.keyring.Reachable .standard Small.suite.signing ∧
      (∀ count, ready.store.counts.get? ⟨Small.electionId, Small.setA⟩ = some count →
        count.selections < 2 ^ 64 - 1) ∧
      (∃ bundle setKeys count, count.selections = 1 ∧
        Admissible Small.suite Small.keyring ready.store request (Small.decryptionInput Small.setA)
          (Small.voteInput Small.setA) Small.readVote bundle setKeys count [2]) ∧
      ∀ response, (process Small.suite Small.keyring.service 1 decrypted.store request
        decrypted).result ≠ .ok response := by
  intro ready decrypted request
  have reachable : Small.keyring.Reachable .standard Small.suite.signing :=
    Small.keyring_reachable .standard
  have counted : ready.store.counts.get? ⟨Small.electionId, Small.setA⟩ =
      some ⟨Small.electionId, Small.setA, 1⟩ := by decide +kernel
  have counted' : decrypted.store.counts.get? ⟨Small.electionId, Small.setA⟩ =
      some ⟨Small.electionId, Small.setA, 1⟩ := by decide +kernel
  have small {state : State} (counted : state.store.counts.get?
      ⟨Small.electionId, Small.setA⟩ = some ⟨Small.electionId, Small.setA, 1⟩) :
      ∀ count, state.store.counts.get? ⟨Small.electionId, Small.setA⟩ = some count →
        count.selections < 2 ^ 64 - 1 := by
    intro count found
    cases counted.symm.trans found
    decide
  refine ⟨reachable, small counted, ?_, ?_⟩
  · obtain ⟨input, voteInput, vote, bundle, setKeys, count, elements, admissible⟩ :=
      (process_completes_iff_admissible reachable 1 request ready (small counted)).1
        Small.exists_response
    cases admissible.payload
    cases admissible.voted
    cases Small.ofText_vote.symm.trans admissible.read
    cases admissible.listed
    cases counted.symm.trans admissible.counted
    exact ⟨bundle, setKeys, _, rfl, admissible⟩
  · intro response done
    obtain ⟨_, _, _, _, _, _, _, admissible⟩ :=
      (process_completes_iff_admissible reachable 1 request decrypted (small counted')).1
        ⟨response, done⟩
    have recorded : decrypted.store.cards.contains ⟨Small.electionId, Small.cardC⟩ = true := by
      decide +kernel
    rw [Table.contains, show decrypted.store.cards.get? ⟨Small.electionId, Small.cardC⟩ = none
      from admissible.undecrypted] at recorded
    cases recorded

end Node.Decryption
end ControlComponent
