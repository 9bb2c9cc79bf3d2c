import Mathlib.Tactic.SplitIfs
import ControlComponent.Proofs.Effect
import ControlComponent.Proofs.Outcome

/-!
What a decryption request has shown when it passes.

The checks before a decryption are many and come one after another. Here they are taken apart once:
whatever passes them has shown all of the facts that are listed.
-/

namespace ControlComponent

open Message (Vote)
open Message.Computation

/-! ### Votes -/

/-- A proof fits if it verifies. -/
theorem ProofCheck.ofVerification_eq_valid {verified : Except Error Bool} :
    ofVerification verified = .valid ↔ verified = .ok true := by
  rcases verified with e | _ | _ <;> simp [ofVerification]

namespace VoteCheck

variable {suite : Suite} {store : Store} {group : Group} {input : VoteInput} {vote : Vote}
  {adminBoard : Signature.PublicKey}

/-- What is known of a valid vote: all three signatures, both keys and both proofs are as they
should be. -/
structure Valid (suite : Suite) (store : Store) (group : Group) (input : VoteInput) (vote : Vote)
    (adminBoard : Signature.PublicKey) (eventKey codesKey : ElGamal.PublicKey) : Prop where
  electionKey : input.electionKey.check suite.signing ElectionKey.codec adminBoard = .ok ()
  cardSet : input.cardSet.check suite.signing CardSet.codec adminBoard = .ok ()
  cardKey : checkCardKey suite.signing input vote = .ok ()
  event : ElGamal.PublicKey.ofValues group input.electionKey.content.publicKey = .ok eventKey
  codes : ElGamal.PublicKey.ofValues group input.cardSet.content.choiceCodesKey = .ok codesKey
  exponentiation : checkExponentiation suite store group vote = .ok .valid
  plaintextEquality : checkPlaintextEquality suite group vote eventKey codesKey = .valid

/-- A vote that is found valid is valid. -/
theorem exists_valid {outcome : VoteCheck}
    (checked : check suite store group input vote adminBoard = .ok outcome)
    (valid : outcome.isValid = true) :
    ∃ eventKey codesKey, Valid suite store group input vote adminBoard eventKey codesKey := by
  have proofs : outcome = .proofs .valid .valid := by simpa [isValid] using valid
  unfold check at checked
  split at checked
  · cases proofs ▸ checked
  rename_i electionKey
  split at checked
  · cases proofs ▸ checked
  rename_i cardSet
  split at checked
  · cases proofs ▸ checked
  rename_i cardKey
  split at checked
  · cases proofs ▸ checked
  rename_i eventKey event
  split at checked
  · cases proofs ▸ checked
  rename_i codesKey codes
  obtain ⟨exponentiation, looked, both⟩ := map_eq_ok.1 checked
  rw [proofs, VoteCheck.proofs.injEq] at both
  obtain ⟨rfl, plaintextEquality⟩ := both
  exact ⟨eventKey, codesKey, electionKey, cardSet, cardKey, event, codes, looked,
    plaintextEquality⟩

/-- The first proof of a valid vote is about the public key that is stored for the card, a single
member of the group: the generator and the encrypted options have been raised to its exponent. -/
theorem exists_stored_key (valid : checkExponentiation suite store group vote = .ok .valid) :
    ∃ stored key, store.cardKey vote.electionId vote.cardId = .ok stored ∧
      stored.publicKey = [key] ∧ group.isMember key = true ∧
      ∃ c c' x x', vote.encryptedOptions = [c, c'] ∧ vote.exponentiatedOptions = [x, x'] ∧
        vote.exponentiationProof.verify suite
          ⟨group.lift [group.g, c, c'], group.lift [key, x, x']⟩ vote.auxiliary = .ok true := by
  obtain ⟨stored, found, looked⟩ := bind_eq_ok.1 valid
  split at looked
  · rename_i key c c' x x' single options raised
    split at looked
    · rename_i members
      have verified := ProofCheck.ofVerification_eq_valid.1 (Except.ok.inj looked)
      exact ⟨stored, key, found, single, (Group.areMembers_cons.1 members).1, c, c', x, x', options,
        raised, verified⟩
    · cases looked
  · cases looked

end VoteCheck

/-! ### Requests -/

namespace Node.Decryption

variable {suite : Suite} {keys : Key.Service} {found : Store} {request : Request} {input : Input}
  {voteInput : VoteInput} {group : Group} {gamma : Nat}

/-- What is known of a request whose first value is to be decrypted. -/
structure Examined (suite : Suite) (keys : Key.Service) (found : Store) (request : Request)
    (input : Input) (voteInput : VoteInput) (group : Group) (gamma : Nat) (vote : Vote)
    (elements : List Nat) (selections : Nat) (adminBoard : Signature.PublicKey) : Prop where
  unrecorded : found.hasCard request.electionId request.cardId = false
  voted : voteOf request voteInput = .ok vote
  listed : input.elements = some elements
  counted : found.selections request.electionId request.setId = .ok selections
  consistent : ∃ expected, suite.overflow.succ selections = some expected ∧
    checkConsistency group expected vote elements = .ok gamma
  certified : checkCertificates suite keys input = .ok adminBoard
  valid : ∃ eventKey codesKey,
    VoteCheck.Valid suite found group voteInput vote adminBoard eventKey codesKey

theorem expectedLength_eq_ok {overflow : Overflow} {selections expected : Nat} :
    expectedLength overflow selections = .ok expected ↔
      overflow.succ selections = some expected := by
  unfold expectedLength
  cases overflow.succ selections <;> simp

theorem exists_examined
    (examined : examine suite keys found request input voteInput group = .ok gamma) :
    ∃ vote elements selections adminBoard, Examined suite keys found request input voteInput group
      gamma vote elements selections adminBoard := by
  unfold examine at examined
  dsimp only at examined
  split at examined
  · cases examined
  rename_i unrecorded
  obtain ⟨vote, voted, examined₁⟩ := bind_eq_ok.1 examined
  split at examined₁
  · cases examined₁
  rename_i elements listed
  obtain ⟨selections, counted, examined₂⟩ := bind_eq_ok.1 examined₁
  obtain ⟨expected, fits, examined₃⟩ := bind_eq_ok.1 examined₂
  obtain ⟨value, consistent, examined₄⟩ := bind_eq_ok.1 examined₃
  obtain ⟨adminBoard, certified, examined₅⟩ := bind_eq_ok.1 examined₄
  obtain ⟨outcome, checked, examined₆⟩ := bind_eq_ok.1 examined₅
  split at examined₆
  · rename_i valid
    cases examined₆
    exact ⟨vote, elements, selections, adminBoard, by simpa using unrecorded,
      mapError_eq_ok.1 voted, listed, mapError_eq_ok.1 counted,
      ⟨expected, expectedLength_eq_ok.1 fits, consistent⟩, mapError_eq_ok.1 certified,
      VoteCheck.exists_valid (mapError_eq_ok.1 checked) valid⟩
  · cases examined₆

/-- A list passes with as many values as expected, all of them members. -/
theorem checkList_eq_ok {name : ListName} {expected : Nat} {values : List Nat} :
    checkList group name expected values = .ok () ↔
      values.length = expected ∧ group.areMembers values = true := by
  unfold checkList
  split_ifs <;> simp_all

/-- Whether the lists of a vote and the node's own list pass their checks and both begin with the
value that is to be decrypted. -/
structure Consistent (group : Group) (expected : Nat) (vote : Vote) (elements : List Nat)
    (gamma : Nat) : Prop where
  codes : checkList group .encryptedPartialChoiceCodes expected vote.encryptedPartialCodes = .ok ()
  members : group.areMembers elements = true
  raised : checkList group .cipherTextExponentiations ciphertextLength vote.exponentiatedOptions =
    .ok ()
  options : checkList group .encryptedOptions ciphertextLength vote.encryptedOptions = .ok ()
  own : elements.head? = some gamma
  voters : vote.encryptedPartialCodes.head? = some gamma

theorem checkConsistency_eq_ok_iff {expected : Nat} {vote : Vote} {elements : List Nat} :
    checkConsistency group expected vote elements = .ok gamma ↔
      Consistent group expected vote elements gamma := by
  unfold checkConsistency
  constructor
  · intro passed
    obtain ⟨_, codes, passed₁⟩ := bind_eq_ok.1 passed
    obtain ⟨_, -, passed₂⟩ := bind_eq_ok.1 passed₁
    obtain ⟨_, own, passed₃⟩ := bind_eq_ok.1 passed₂
    obtain ⟨_, raised, passed₄⟩ := bind_eq_ok.1 passed₃
    obtain ⟨_, options, passed₅⟩ := bind_eq_ok.1 passed₄
    have members : group.areMembers elements = true := by
      have checked := mapError_eq_ok.1 own
      split at checked
      · assumption
      · cases checked
    split at passed₅
    · rename_i listed
      split at passed₅
      · rename_i same
        cases passed₅
        exact ⟨mapError_eq_ok.1 codes, members, mapError_eq_ok.1 raised,
          mapError_eq_ok.1 options, rfl, by rw [listed, same]; rfl⟩
      · cases passed₅
    · cases passed₅
  · rintro ⟨codes, members, raised, options, own, voters⟩
    obtain ⟨rest, rfl⟩ := List.head?_eq_some_iff.1 own
    obtain ⟨rest', listed⟩ := List.head?_eq_some_iff.1 voters
    refine bind_eq_ok.2 ⟨(), mapError_eq_ok.2 codes, bind_eq_ok.2 ⟨(), rfl,
      bind_eq_ok.2 ⟨(), mapError_eq_ok.2 (if_pos members),
      bind_eq_ok.2 ⟨(), mapError_eq_ok.2 raised,
      bind_eq_ok.2 ⟨(), mapError_eq_ok.2 options, ?_⟩⟩⟩⟩⟩
    rw [listed]
    exact if_pos rfl

/-- What is decrypted is the first value of the request's list, all of whose values are members. -/
theorem elements_of_checkConsistency {expected : Nat} {vote : Vote} {elements : List Nat}
    (passed : checkConsistency group expected vote elements = .ok gamma) :
    ∃ rest, elements = gamma :: rest ∧ group.areMembers elements = true := by
  have consistent := checkConsistency_eq_ok_iff.1 passed
  obtain ⟨rest, listed⟩ := List.head?_eq_some_iff.1 consistent.own
  exact ⟨rest, listed, consistent.members⟩

/-- There are as many partial choice codes as expected, and at least the one that is compared. -/
theorem codes_of_checkConsistency {expected : Nat} {vote : Vote} {elements : List Nat}
    (passed : checkConsistency group expected vote elements = .ok gamma) :
    vote.encryptedPartialCodes.length = expected ∧ 0 < expected := by
  have consistent := checkConsistency_eq_ok_iff.1 passed
  obtain ⟨length, -⟩ := checkList_eq_ok.1 consistent.codes
  obtain ⟨rest, listed⟩ := List.head?_eq_some_iff.1 consistent.voters
  refine ⟨length, ?_⟩
  rw [← length, listed]
  exact Nat.succ_pos _

/-- What is decrypted has one partial choice code more than there are selections. -/
theorem Examined.length_codes {vote : Vote} {elements : List Nat} {selections : Nat}
    {adminBoard : Signature.PublicKey}
    (examined : Examined suite keys found request input voteInput group gamma vote elements
      selections adminBoard) (bound : selections < 2 ^ 64) :
    vote.encryptedPartialCodes.length = selections + 1 := by
  obtain ⟨expected, fits, consistent⟩ := examined.consistent
  obtain ⟨length, positive⟩ := codes_of_checkConsistency consistent
  by_cases largest : selections = 2 ^ 64 - 1
  · -- The sum does not fit; a build without overflow checks expects an empty list.
    subst largest
    cases overflow : suite.overflow with
    | stops => cases (overflow ▸ fits : Overflow.stops.succ (2 ^ 64 - 1) = some expected)
    | wraps =>
      cases (overflow ▸ fits : Overflow.wraps.succ (2 ^ 64 - 1) = some expected)
      exact absurd positive (Nat.lt_irrefl 0)
  · have sum : suite.overflow.succ selections = some (selections + 1) :=
      Overflow.succ_eq_some (by omega)
    exact length.trans (Option.some.inj (fits.symm.trans sum))

/-- The vote of a request is the one that its text writes, and one for the request's card. -/
theorem voteOf_eq_ok {vote : Vote} (given : voteOf request voteInput = .ok vote) :
    Vote.ofText voteInput.vote = .ok vote ∧
      vote.electionId = request.electionId ∧ vote.cardId = request.cardId := by
  unfold voteOf at given
  split at given
  · cases given
  · rename_i read
    split at given
    · rename_i same
      cases given
      exact ⟨read, same⟩
    · cases given

/-! ### Decryptions -/

/-- What is decrypted with a key of its group can be proved. -/
theorem exists_generate (suite : Suite) (secret : ElGamal.SecretKey) (gamma product : Nat)
    (auxiliary : List String) (randomness : Randomness) :
    ∃ outcome, ExponentiationProof.generate suite
      ⟨secret.group.lift [secret.group.g, gamma],
        [secret.publicKey.compress, ⟨secret.group, product⟩]⟩
      secret.compress auxiliary randomness = .ok outcome := by
  have common : (⟨secret.group.lift [secret.group.g, gamma],
      [secret.publicKey.compress, ⟨secret.group, product⟩]⟩ :
        ExponentiationProof.Statement).group = .ok secret.group := by
    simp [ExponentiationProof.Statement.group_eq_ok, Group.lift, ElGamal.SecretKey.publicKey,
      ElGamal.PublicKey.compress]
  refine ⟨_, bind_eq_ok.2 ⟨_, common, rfl⟩⟩

/-- A member is decrypted with a key of its group. -/
theorem exists_decrypt (suite : Suite) (nodeId : Nat) {secret : ElGamal.SecretKey}
    (unlocked : keys.decryptionKey request.electionId request.setId = .ok secret)
    (member : secret.group.isMember gamma = true) (state : State) :
    ∃ proof, (decrypt suite keys nodeId request secret.group gamma state).result =
        .ok ⟨secret.exponents.map (secret.group.pow gamma), proof, secret.publicKey.values⟩ ∧
      (decrypt suite keys nodeId request secret.group gamma state).state.store = state.store := by
  have read : secret.group.member gamma = .ok gamma := Group.member_eq_ok.2 ⟨member, rfl⟩
  obtain ⟨⟨proof, randomness⟩, proved⟩ := exists_generate suite secret gamma
    (secret.group.product (secret.exponents.map (secret.group.pow gamma)))
    [request.electionId, request.cardId, context, Text.Decimal.render nodeId] state.randomness
  refine ⟨proof, ?_, ?_⟩
  · simp only [decrypt, unlocked, read, proved]
  · simp only [decrypt, unlocked, read, proved]

/-- What passes under the lock is decrypted and recorded, if there is no record yet. -/
theorem exists_locked (nodeId : Nat) {secret : ElGamal.SecretKey}
    (examined : examine suite keys found request input voteInput secret.group = .ok gamma)
    (unlocked : keys.decryptionKey request.electionId request.setId = .ok secret) (state : State)
    (absent : state.store.cards.get? ⟨request.electionId, request.cardId⟩ = none) :
    ∃ share, (locked suite keys nodeId found request input voteInput secret.group state).result =
      .ok share := by
  obtain ⟨_, _, _, _, passed⟩ := exists_examined examined
  obtain ⟨_, -, consistent⟩ := passed.consistent
  obtain ⟨rest, rfl, members⟩ := elements_of_checkConsistency consistent
  have member : secret.group.isMember gamma = true :=
    List.all_eq_true.1 members gamma (List.mem_cons_self ..)
  obtain ⟨proof, done, same⟩ := exists_decrypt suite nodeId unlocked member state
  have added : (decrypt suite keys nodeId request secret.group gamma state).state.store.addCard?
      (.new request.electionId request.cardId) =
        some (state.store.putCard (.new request.electionId request.cardId)) := by
    rw [same]
    exact Store.addCard?_eq_some.2 ⟨absent, rfl⟩
  refine ⟨⟨secret.exponents.map (secret.group.pow gamma), proof, secret.publicKey.values⟩, ?_⟩
  simp only [locked, examined]
  rw [(Step.andThen_ok done _).1, record, added]

/-- A request that passes is answered, if the answer can be signed. -/
theorem exists_process_eq_respond (nodeId : Nat) (secret : ElGamal.SecretKey)
    (payload : request.payload = some input) (fields : request.invalidFields = [])
    (accepted : accept keys request input = .ok (secret.group, voteInput))
    (examined : examine suite keys found request input voteInput secret.group = .ok gamma)
    (unlocked : keys.decryptionKey request.electionId request.setId = .ok secret) (state : State)
    (absent : state.store.cards.get? ⟨request.electionId, request.cardId⟩ = none) :
    ∃ share after, (process suite keys nodeId found request state).result =
      (respond suite keys request share after).result := by
  obtain ⟨share, done⟩ := exists_locked nodeId examined unlocked
    (state.acquire ⟨request.electionId, request.cardId⟩) absent
  unfold process
  rw [payload, fields]
  simp only [accepted]
  exact ⟨share, _, (Step.andThen_ok (by simpa using done) _).1⟩

end Node.Decryption
end ControlComponent
