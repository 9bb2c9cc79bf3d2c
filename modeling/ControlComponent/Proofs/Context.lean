import ControlComponent.Proofs.Answer
import ControlComponent.Proofs.Examined
import ControlComponent.Proofs.Small

/-!
What a decryption takes from the contents that the administration board has signed.

A request to decrypt brings the key of an election event and the data of a card set, each in a
content that the board has signed, under the name of the event and of the set. The event and the
card of the request are those of the vote, and through the vote the issuer of the card set has
signed them. The names in the two contents are signed as well, but nothing compares them with those
of the request: only the keys and the issuer are used. So the contents of another event or another
set serve as well, if the board has signed them with the same keys.
-/

namespace ControlComponent

open Signature (Scheme PublicKey)
open Message (Vote)
open Message.Computation

namespace Message.Computation

/-- Whether one input can stand for another one: it brings the same vote and, in contents that the
board has signed, the same keys and the same issuer. -/
structure VoteInput.StandsFor (scheme : Scheme) (board : PublicKey) (other input : VoteInput) :
    Prop where
  vote : other.vote = input.vote
  publicKey : other.electionKey.content.publicKey = input.electionKey.content.publicKey
  choiceCodesKey : other.cardSet.content.choiceCodesKey = input.cardSet.content.choiceCodesKey
  issuer : other.cardSet.content.issuer = input.cardSet.content.issuer
  electionKey : other.electionKey.check scheme ElectionKey.codec board = .ok ()
  cardSet : other.cardSet.check scheme CardSet.codec board = .ok ()

/-- A request with another input for checking the vote. -/
def Request.withVoteInput (request : Request) (voteInput : VoteInput) : Request :=
  { request with
    payload := request.payload.map fun input => { input with voteInput := some voteInput } }

/-- What is mandatory is not in the input. -/
theorem Request.invalidFields_withVoteInput (request : Request) (voteInput : VoteInput) :
    (request.withVoteInput voteInput).invalidFields = request.invalidFields := by
  obtain ⟨_, _, _, _, _, payload⟩ := request
  cases payload <;> rfl

end Message.Computation

/-- Of two signed contents only the keys and the issuer count. -/
theorem VoteCheck.check_of_standsFor {suite : Suite} {board : PublicKey}
    {other input : VoteInput} (stands : other.StandsFor suite.signing board input)
    (electionKey : input.electionKey.check suite.signing ElectionKey.codec board = .ok ())
    (cardSet : input.cardSet.check suite.signing CardSet.codec board = .ok ()) (store : Store)
    (group : Group) (vote : Vote) :
    check suite store group other vote board = check suite store group input vote board := by
  simp only [check, checkCardKey, stands.electionKey, electionKey, stands.cardSet, cardSet,
    stands.issuer, stands.publicKey, stands.choiceCodesKey]

namespace Node.Decryption

variable {suite : Suite} {keys : Key.Service} {found : Store} {request : Request} {input : Input}
  {voteInput other : VoteInput} {group : Group} {gamma : Nat}

/-- The certificates of a request lead from the board to the platform. -/
theorem checkCertificates_eq_ok {board : PublicKey}
    (certified : checkCertificates suite keys input = .ok board) :
    ∃ bundle root, input.certificates = some bundle ∧ keys.platformCa = .ok root ∧
      Certificate.checkChain suite.signing root [bundle.adminBoard, bundle.tenantCa] = .ok () ∧
      board = bundle.adminBoard.publicKey := by
  unfold checkCertificates at certified
  split at certified
  · cases certified
  · rename_i bundle given
    split at certified
    · cases certified
    · rename_i root platform
      split at certified
      · cases certified
      · rename_i chain
        cases certified
        exact ⟨bundle, root, given, platform, chain, rfl⟩

/-- A request that is accepted brings an input for checking the vote, and another input is accepted
in its place. -/
theorem accept_withVoteInput (accepted : accept keys request input = .ok (group, voteInput))
    (other : VoteInput) : input.voteInput = some voteInput ∧
      accept keys (request.withVoteInput other) { input with voteInput := some other } =
        .ok (group, other) := by
  unfold accept at accepted
  split at accepted
  · cases accepted
  · rename_i known
    split at accepted
    · cases accepted
    · rename_i given
      split at accepted
      · cases accepted
      · rename_i unconfirmed
        cases accepted
        have known' : keys.parameters (request.withVoteInput other).electionId
            (request.withVoteInput other).setId = .ok group := known
        refine ⟨given, ?_⟩
        simp only [accept, known']
        exact if_neg unconfirmed

/-- The checks under the lock come to the same with an input that stands for the given one. -/
theorem examine_withVoteInput {board : PublicKey}
    (certified : checkCertificates suite keys input = .ok board)
    (stands : other.StandsFor suite.signing board voteInput)
    (electionKey : voteInput.electionKey.check suite.signing ElectionKey.codec board = .ok ())
    (cardSet : voteInput.cardSet.check suite.signing CardSet.codec board = .ok ()) :
    examine suite keys found (request.withVoteInput other) { input with voteInput := some other }
      other group = examine suite keys found request input voteInput group := by
  have certified' : checkCertificates suite keys { input with voteInput := some other } =
      .ok board := certified
  have same := VoteCheck.check_of_standsFor stands electionKey cardSet
  simp only [examine, voteOf, stands.vote, certified, certified', Except.mapError, bind,
    Except.bind, same]
  rfl

/-- A decryption takes the same course with another input if the checks under the lock come to the
same. -/
theorem process_of_examine {nodeId : Nat}
    (payload : request.payload = some input) (fields : request.invalidFields = [])
    (accepted : accept keys request input = .ok (group, voteInput))
    (examined : examine suite keys found (request.withVoteInput other)
      { input with voteInput := some other } other group =
        examine suite keys found request input voteInput group) (state : State) :
    process suite keys nodeId found (request.withVoteInput other) state =
      process suite keys nodeId found request state := by
  have payload' : (request.withVoteInput other).payload =
      some { input with voteInput := some other } := by
    rw [Request.withVoteInput, payload]
    rfl
  have fields' : (request.withVoteInput other).invalidFields = [] := by
    rw [Request.invalidFields_withVoteInput, fields]
  obtain ⟨-, accepted'⟩ := accept_withVoteInput accepted other
  unfold process
  rw [payload, payload', fields, fields']
  simp only [accepted, accepted', locked, examined]
  rfl

/-- A decryption takes the same course with an input that stands for the given one. -/
theorem process_withVoteInput {nodeId : Nat} {board : PublicKey}
    (payload : request.payload = some input) (fields : request.invalidFields = [])
    (accepted : accept keys request input = .ok (group, voteInput))
    (certified : checkCertificates suite keys input = .ok board)
    (stands : other.StandsFor suite.signing board voteInput)
    (electionKey : voteInput.electionKey.check suite.signing ElectionKey.codec board = .ok ())
    (cardSet : voteInput.cardSet.check suite.signing CardSet.codec board = .ok ())
    (state : State) :
    process suite keys nodeId found (request.withVoteInput other) state =
      process suite keys nodeId found request state :=
  process_of_examine payload fields accepted
    (examine_withVoteInput certified stands electionKey cardSet) state

/-- **A completed decryption rests on signed contents, whatever their names.** The certificates of
the request lead from the administration board to the platform, and the board has signed both
contents, with the names that they carry. The vote is one for the event and the card of the request,
and the issuer whom the card set's content names has signed the voter's key for them. The names in
the contents need not be those of the request: any input that stands for the given one leads to the
same result, the same state and the same log. -/
theorem contents_are_signed {suite : Suite} {keys : Key.Service} {nodeId : Nat} {found : Store}
    {request : Request} {state : State} {response : Envelope (Signed DecryptionShare)}
    (done : (process suite keys nodeId found request state).result = .ok response) :
    ∃ input voteInput vote bundle root,
      request.payload = some input ∧ input.voteInput = some voteInput ∧
      input.certificates = some bundle ∧ keys.platformCa = .ok root ∧
      Certificate.checkChain suite.signing root [bundle.adminBoard, bundle.tenantCa] = .ok () ∧
      voteInput.electionKey.check suite.signing ElectionKey.codec bundle.adminBoard.publicKey =
        .ok () ∧
      voteInput.cardSet.check suite.signing CardSet.codec bundle.adminBoard.publicKey = .ok () ∧
      Vote.ofText voteInput.vote = .ok vote ∧ vote.electionId = request.electionId ∧
      vote.cardId = request.cardId ∧ VoteCheck.checkCardKey suite.signing voteInput vote = .ok () ∧
      ∀ other : VoteInput,
        other.StandsFor suite.signing bundle.adminBoard.publicKey voteInput →
        process suite keys nodeId found (request.withVoteInput other) state =
          process suite keys nodeId found request state := by
  obtain ⟨input, voteInput, group, gamma, secret, share, signed, passed, -, -, rfl⟩ := answered done
  obtain ⟨vote, elements, selections, board, examined⟩ := exists_examined passed.examined
  obtain ⟨eventKey, codesKey, valid⟩ := examined.valid
  obtain ⟨bundle, root, given, platform, chain, rfl⟩ := checkCertificates_eq_ok examined.certified
  obtain ⟨read, electionId, cardId⟩ := voteOf_eq_ok examined.voted
  obtain ⟨brought, -⟩ := accept_withVoteInput passed.accepted voteInput
  refine ⟨input, voteInput, vote, bundle, root, passed.payload, brought, given, platform, chain,
    valid.electionKey, valid.cardSet, read, electionId, cardId, valid.cardKey, ?_⟩
  intro other stands
  exact process_withVoteInput passed.payload passed.fields passed.accepted examined.certified stands
    valid.electionKey valid.cardSet state

end Node.Decryption

/-! ### Contents of another context -/

namespace Small

/-- The input for checking the vote with contents for another event and another card set, which the
board has signed with the same keys. -/
def foreignInput : VoteInput :=
  { voteInput setA with
    electionKey := ⟨⟨"another event", [2]⟩, signature⟩
    cardSet := ⟨⟨"another set", [2], board⟩, signature⟩ }

/-- The request to decrypt with the contents of another context. -/
def foreign : Request := (decryption setA).withVoteInput foreignInput

open Node.Decryption (process accept checkCertificates)

/-- The contents of another context stand for those of the request. -/
theorem standsFor_foreignInput :
    foreignInput.StandsFor suite.signing board.publicKey (voteInput setA) :=
  ⟨rfl, rfl, rfl, rfl, rfl, rfl⟩

theorem process_foreign :
    process suite keyring.service 1 (ready setA).store foreign (ready setA) =
      process suite keyring.service 1 (ready setA).store (decryption setA) (ready setA) := by
  have fields : (decryption setA).invalidFields = [] := by decide +kernel
  have accepted : accept keyring.service (decryption setA) (decryptionInput setA) =
      .ok (group, voteInput setA) := toOption_eq_some.1 (by decide +kernel)
  have certified : checkCertificates suite keyring.service (decryptionInput setA) =
      .ok board.publicKey := toOption_eq_some.1 (by decide +kernel)
  exact Node.Decryption.process_withVoteInput rfl fields accepted certified standsFor_foreignInput
    rfl rfl (ready setA)

end Small

namespace Node.Decryption

/-- With the contents of another context the decryption for the card takes the same course. -/
theorem contents_are_signed_of_small :
    ∃ response, (process Small.suite Small.keyring.service 1 (Small.ready Small.setA).store
        (Small.decryption Small.setA) (Small.ready Small.setA)).result = .ok response ∧
      process Small.suite Small.keyring.service 1 (Small.ready Small.setA).store
          ((Small.decryption Small.setA).withVoteInput Small.foreignInput)
          (Small.ready Small.setA) =
        process Small.suite Small.keyring.service 1 (Small.ready Small.setA).store
          (Small.decryption Small.setA) (Small.ready Small.setA) := by
  obtain ⟨response, done⟩ := Small.exists_response
  obtain ⟨input, voteInput, vote, bundle, root, payload, brought, certificates, -, -, -, -, -, -, -,
    -, stable⟩ := contents_are_signed done
  cases payload
  cases brought
  cases certificates
  exact ⟨response, done, stable Small.foreignInput Small.standsFor_foreignInput⟩

/-- A decryption completes though the names in both contents are not those of the request. -/
theorem exists_decryption_with_foreign_contents :
    ∃ response input voteInput, (process Small.suite Small.keyring.service 1
        (Small.ready Small.setA).store Small.foreign (Small.ready Small.setA)).result =
          .ok response ∧
      Small.foreign.payload = some input ∧ input.voteInput = some voteInput ∧
      voteInput.electionKey.content.electionId ≠ Small.foreign.electionId ∧
      voteInput.cardSet.content.setId ≠ Small.foreign.setId := by
  obtain ⟨response, done⟩ := Small.exists_response
  rw [← Small.process_foreign] at done
  exact ⟨response, _, Small.foreignInput, done, rfl, rfl, by decide, by decide⟩

end Node.Decryption
end ControlComponent
