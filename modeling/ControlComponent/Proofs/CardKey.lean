import ControlComponent.Proofs.Context

/-!
The two public keys of a card.

A vote brings a public key of the card, which the issuer of the card set has signed together with
the names of the event and of the card. The node has a public key of the card too, which it was told
when the return codes of the card were generated, and the first proof of the vote is checked against
that one. Nothing compares the two. The key that the vote brings is looked at for its signature
only, so a vote that brings any other key with a valid signature leads to the same decryption.
-/

namespace ControlComponent

open Message (Vote)
open Message.Computation

/-- The vote with another public key of the card and its signature. -/
def Message.Vote.withCardKey (vote : Vote) (cardKey : List Nat) (signature : Signature) : Vote :=
  { vote with cardPublicKey := cardKey, cardPublicKeySignature := signature }

/-- The input with another text of a vote. -/
def Message.Computation.VoteInput.withText (input : VoteInput) (text : String) : VoteInput :=
  { input with vote := text }

namespace VoteCheck

variable {suite : Suite} {input : VoteInput} {vote : Vote} {cardKey : List Nat}
  {signature : Signature}

/-- The public key that a vote brings is only looked at for its signature. -/
theorem check_withCardKey {text : String}
    (signed : checkCardKey suite.signing input vote = .ok ())
    (signed' : checkCardKey suite.signing input (vote.withCardKey cardKey signature) = .ok ())
    (store : Store) (group : Group) (board : Signature.PublicKey) :
    check suite store group (input.withText text) (vote.withCardKey cardKey signature) board =
      check suite store group input vote board := by
  have signed'' : checkCardKey suite.signing (input.withText text)
      (vote.withCardKey cardKey signature) = .ok () := signed'
  simp only [check, signed, signed'']
  rfl

end VoteCheck

namespace Node.Decryption

variable {suite : Suite} {keys : Key.Service} {found : Store} {request : Request} {input : Input}
  {voteInput : VoteInput} {group : Group} {vote : Vote} {text : String} {cardKey : List Nat}
  {signature : Signature}

/-- The checks under the lock come to the same with a vote that brings another public key of the
card. -/
theorem examine_withCardKey (voted : voteOf request voteInput = .ok vote)
    (signed : VoteCheck.checkCardKey suite.signing voteInput vote = .ok ())
    (read : Vote.ofText text = .ok (vote.withCardKey cardKey signature))
    (signed' : VoteCheck.checkCardKey suite.signing voteInput
      (vote.withCardKey cardKey signature) = .ok ()) :
    examine suite keys found (request.withVoteInput (voteInput.withText text))
        { input with voteInput := some (voteInput.withText text) } (voteInput.withText text) group =
      examine suite keys found request input voteInput group := by
  obtain ⟨-, names⟩ := voteOf_eq_ok voted
  have voted' : voteOf (request.withVoteInput (voteInput.withText text))
      (voteInput.withText text) = .ok (vote.withCardKey cardKey signature) := by
    simp only [voteOf, VoteInput.withText, read]
    exact if_pos names
  simp only [examine, voted, voted', Except.mapError, bind, Except.bind,
    VoteCheck.check_withCardKey signed signed']
  rfl

/-- **A completed decryption rests on two public keys of the card.** The first proof of the vote is
checked against the stored one, a single member of the group; the issuer of the card set has signed
the one that the vote brings. These may differ: a text with any other key and a signature of it that
the issuer's key verifies leads to the same result, the same state and the same log. -/
theorem proved_key_is_stored_key {suite : Suite} {keys : Key.Service} {nodeId : Nat} {found : Store}
    {request : Request} {state : State} {response : Envelope (Signed DecryptionShare)}
    (done : (process suite keys nodeId found request state).result = .ok response) :
    ∃ input voteInput vote group stored key c c' x x',
      request.payload = some input ∧ input.voteInput = some voteInput ∧
      Vote.ofText voteInput.vote = .ok vote ∧
      keys.parameters request.electionId request.setId = .ok group ∧
      found.cardKey request.electionId request.cardId = .ok stored ∧
      stored.publicKey = [key] ∧ group.isMember key = true ∧
      vote.encryptedOptions = [c, c'] ∧ vote.exponentiatedOptions = [x, x'] ∧
      vote.exponentiationProof.verify suite
        ⟨group.lift [group.g, c, c'], group.lift [key, x, x']⟩ vote.auxiliary = .ok true ∧
      Certificate.checkSignature suite.signing voteInput.cardSet.content.issuer.publicKey
        (Bytes.ofText (Text.Decimal.commaSeparated vote.cardPublicKey) ++
          Bytes.ofText request.electionId ++ Bytes.ofText request.cardId)
        vote.cardPublicKeySignature = .ok () ∧
      ∀ text cardKey signature,
        Vote.ofText text = .ok (vote.withCardKey cardKey signature) →
        VoteCheck.checkCardKey suite.signing voteInput (vote.withCardKey cardKey signature) =
          .ok () →
        process suite keys nodeId found (request.withVoteInput (voteInput.withText text)) state =
          process suite keys nodeId found request state := by
  obtain ⟨input, voteInput, group, gamma, secret, share, signed, passed, -, -, rfl⟩ := answered done
  obtain ⟨vote, elements, selections, board, examined⟩ := exists_examined passed.examined
  obtain ⟨eventKey, codesKey, valid⟩ := examined.valid
  obtain ⟨read, electionId, cardId⟩ := voteOf_eq_ok examined.voted
  obtain ⟨stored, key, kept, single, member, c, c', x, x', options, raised, verified⟩ :=
    VoteCheck.exists_stored_key valid.exponentiation
  obtain ⟨brought, -⟩ := accept_withVoteInput passed.accepted voteInput
  refine ⟨input, voteInput, vote, group, stored, key, c, c', x, x', passed.payload, brought, read,
    parameters_of_accept passed.accepted, electionId ▸ cardId ▸ kept, single, member, options,
    raised, verified, electionId ▸ cardId ▸ valid.cardKey, ?_⟩
  intro text cardKey signature read' signed'
  exact process_of_examine passed.payload passed.fields passed.accepted
    (examine_withCardKey examined.voted valid.cardKey read' signed') state

end Node.Decryption

/-! ### A vote with another key -/

namespace Small

/-- The vote of the card with another public key. -/
def rekeyedVote : String := voteWith "[\"2\",\"2\"]" "[\"3\"]"

theorem ofText_rekeyedVote :
    Vote.ofText rekeyedVote = .ok (readVote.withCardKey [3] signature) :=
  toOption_eq_some.1 (by decide +kernel)

/-- The request to decrypt with the vote that brings another key. -/
def rekeyed : Request := (decryption setA).withVoteInput ((voteInput setA).withText rekeyedVote)

open Node.Decryption

/-- The decryption takes the same course with the other key. -/
theorem process_rekeyed :
    process suite keyring.service 1 (ready setA).store rekeyed (ready setA) =
      process suite keyring.service 1 (ready setA).store (decryption setA) (ready setA) := by
  have fields : (decryption setA).invalidFields = [] := by decide +kernel
  have accepted : accept keyring.service (decryption setA) (decryptionInput setA) =
      .ok (group, voteInput setA) := toOption_eq_some.1 (by decide +kernel)
  have voted : voteOf (decryption setA) (voteInput setA) = .ok readVote := by
    rw [voteOf, show Vote.ofText (voteInput setA).vote = .ok readVote from ofText_vote]
    exact if_pos ⟨rfl, rfl⟩
  exact process_of_examine rfl fields accepted
    (examine_withCardKey voted rfl ofText_rekeyedVote rfl) (ready setA)

end Small

namespace Node.Decryption

/-- With the vote that brings another key the decryption for the card takes the same course. -/
theorem proved_key_is_stored_key_of_small :
    ∃ response, (process Small.suite Small.keyring.service 1 (Small.ready Small.setA).store
        (Small.decryption Small.setA) (Small.ready Small.setA)).result = .ok response ∧
      process Small.suite Small.keyring.service 1 (Small.ready Small.setA).store
          ((Small.decryption Small.setA).withVoteInput
            ((Small.voteInput Small.setA).withText Small.rekeyedVote)) (Small.ready Small.setA) =
        process Small.suite Small.keyring.service 1 (Small.ready Small.setA).store
          (Small.decryption Small.setA) (Small.ready Small.setA) := by
  obtain ⟨response, done⟩ := Small.exists_response
  obtain ⟨input, voteInput, vote, group, stored, key, c, c', x, x', payload, brought, read, -, -, -,
    -, -, -, -, -, stable⟩ := proved_key_is_stored_key done
  cases payload
  cases brought
  cases Small.ofText_vote.symm.trans read
  exact ⟨response, done, stable Small.rekeyedVote [3] Small.signature Small.ofText_rekeyedVote rfl⟩

/-- A decryption completes though the vote does not bring the key that is stored for the card. -/
theorem exists_decryption_with_another_key :
    ∃ response input voteInput vote stored, (process Small.suite Small.keyring.service 1
        (Small.ready Small.setA).store Small.rekeyed (Small.ready Small.setA)).result =
          .ok response ∧
      Small.rekeyed.payload = some input ∧ input.voteInput = some voteInput ∧
      Vote.ofText voteInput.vote = .ok vote ∧
      (Small.ready Small.setA).store.cardKey Small.rekeyed.electionId Small.rekeyed.cardId =
        .ok stored ∧
      stored.publicKey ≠ vote.cardPublicKey := by
  obtain ⟨response, done⟩ := Small.exists_response
  rw [← Small.process_rekeyed] at done
  have kept : ((Small.ready Small.setA).store.cardKey Small.electionId Small.cardC).toOption =
      some ⟨Small.electionId, Small.setA, Small.cardC, [2]⟩ := by decide +kernel
  exact ⟨response, _, _, _, _, done, rfl, rfl, Small.ofText_rekeyedVote,
    toOption_eq_some.1 kept, by decide⟩

end Node.Decryption
end ControlComponent
