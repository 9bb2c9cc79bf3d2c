import ControlComponent.Proofs.Admission
import ControlComponent.Proofs.Key.Published

/-!
What the issuer's signature of a voter's key stands for.

The text of the key, the name of the event and the name of the card are signed one behind the other,
with nothing between them. In the votes that are looked at both names are identifiers, so all three
can be told from what is signed, and a signature is for one key, one event and one card.
-/

namespace ControlComponent

open Message (Vote)
open Message.Computation

/-- A vote that names its event and its card by identifiers. -/
structure Message.Vote.Identified (vote : Vote) : Prop where
  event : Envelope.isId vote.electionId = true
  card : Envelope.isId vote.cardId = true

namespace VoteCheck

variable {vote vote' : Vote}

/-- The key, the event and the card are known from what is signed. -/
theorem parts_of_signedBytes (identified : vote.Identified) (identified' : vote'.Identified)
    (same : vote.signedBytes = vote'.signedBytes) :
    vote.cardPublicKey = vote'.cardPublicKey ∧ vote.electionId = vote'.electionId ∧
      vote.cardId = vote'.cardId := by
  obtain ⟨event, card⟩ := identified
  obtain ⟨event', card'⟩ := identified'
  rw [Envelope.isId_eq_isWritten] at event card event' card'
  exact Uuid.commaSeparated_append_inj event card event' card' same

/-- **The issuer's signature binds the key, the event and the card.** For two votes with identifiers
the same bytes are signed only if all three are the same, and a signature that the issuer made for
the one vote is accepted in the other only then, unless it is a forgery. -/
theorem signature_binds_key_and_card (identified : vote.Identified)
    (identified' : vote'.Identified) :
    (vote.signedBytes = vote'.signedBytes ↔
      vote.cardPublicKey = vote'.cardPublicKey ∧ vote.electionId = vote'.electionId ∧
        vote.cardId = vote'.cardId) ∧
    ∀ (scheme : Signature.Scheme) (secret : Signature.SecretKey) (input : VoteInput),
      input.cardSet.content.issuer.publicKey = scheme.publicKey secret →
      vote'.cardPublicKeySignature = scheme.sign secret vote.signedBytes →
      checkCardKey scheme input vote' = .ok () →
      (vote.cardPublicKey = vote'.cardPublicKey ∧ vote.electionId = vote'.electionId ∧
        vote.cardId = vote'.cardId) ∨
        scheme.Forgery secret vote.signedBytes vote'.signedBytes := by
  constructor
  · refine ⟨parts_of_signedBytes identified identified', ?_⟩
    rintro ⟨key, event, card⟩
    rw [Vote.signedBytes, Vote.cardPublicKeyBytes, key, event, card]
    rfl
  · intro scheme secret input issuer signed checked
    by_cases same : vote.signedBytes = vote'.signedBytes
    · exact .inl (parts_of_signedBytes identified identified' same)
    · rw [checkCardKey, issuer, signed] at checked
      exact .inr (Certificate.forgery_of_checkSignature checked (Ne.symm same))

/-- Other bytes are signed for the small component's card if its event is written in another form,
or if it has a key without values. Its scheme knows only one signature, so there a signature is
easily forged. -/
theorem signature_binds_key_and_card_of_small :
    let renamed : Vote :=
      { Small.readVote with electionId := "urn:uuid:00000000-0000-0000-0000-000000000001" }
    let keyless : Vote := { Small.readVote with cardPublicKey := [] }
    Small.readVote.Identified ∧ renamed.Identified ∧ keyless.Identified ∧
      Small.readVote.signedBytes ≠ renamed.signedBytes ∧
      Small.readVote.signedBytes ≠ keyless.signedBytes ∧
      Small.scheme.Forgery Small.secretKey Small.readVote.signedBytes renamed.signedBytes := by
  intro renamed keyless
  have identified : Small.readVote.Identified := ⟨by decide +kernel, by decide +kernel⟩
  have identified' : renamed.Identified := ⟨by decide +kernel, by decide +kernel⟩
  have identified'' : keyless.Identified := ⟨by decide +kernel, by decide +kernel⟩
  have events : Small.readVote.electionId ≠ renamed.electionId := by decide
  have keys : Small.readVote.cardPublicKey ≠ keyless.cardPublicKey := by decide
  refine ⟨identified, identified', identified'', fun same => ?_, fun same => ?_, ?_⟩
  · exact events ((signature_binds_key_and_card identified identified').1.1 same).2.1
  · exact keys ((signature_binds_key_and_card identified identified'').1.1 same).1
  · rcases (signature_binds_key_and_card identified identified').2 Small.scheme Small.secretKey
      (Small.voteInput Small.setA) rfl rfl rfl with parts | forgery
    · exact absurd parts.2.1 events
    · exact forgery

end VoteCheck

/-- The vote of a completed decryption names its event and its card by identifiers, and the issuer's
signature in it has been checked. -/
theorem Node.Decryption.exists_identified_vote {suite : Suite} {keys : Key.Service} {nodeId : Nat}
    {found : Store} {request : Request} {state : State}
    {response : Envelope (Signed DecryptionShare)}
    (done : (process suite keys nodeId found request state).result = .ok response) :
    ∃ input voteInput vote, request.payload = some input ∧ input.voteInput = some voteInput ∧
      Vote.ofText voteInput.vote = .ok vote ∧ vote.Identified ∧
      VoteCheck.checkCardKey suite.signing voteInput vote = .ok () := by
  obtain ⟨input, voteInput, group, gamma, secret, share, signed, passed, -, -, -⟩ := answered done
  obtain ⟨vote, elements, selections, board, examined⟩ := exists_examined passed.examined
  obtain ⟨eventKey, codesKey, valid⟩ := examined.valid
  obtain ⟨read, event, card⟩ := voteOf_eq_ok examined.voted
  obtain ⟨-, cardId, -, electionId, -⟩ := Envelope.invalidFields_eq_nil.1 passed.fields
  obtain ⟨-, brought, -⟩ := accept_eq_ok.1 passed.accepted
  refine ⟨input, voteInput, vote, passed.payload, brought, read, ⟨?_, ?_⟩, valid.cardKey⟩
  · rw [Envelope.isId_eq_isWritten, event, electionId]
  · rw [Envelope.isId_eq_isWritten, card, cardId]

end ControlComponent
