import ControlComponent.Proofs.Answer
import ControlComponent.Proofs.VoterKey.Search
import ControlComponent.Proofs.VoterKey.Seed

/-!
Which keys of cards are kept apart in the set-up phase.

A request of the set-up phase may name its cards by any texts; nothing there asks for identifiers,
as the voting phase does. All keys of a card set are derived from one master, so two of them are
derived from one text exactly if they have one seed. For cards that the voting phase can name that
is one key of one card. But the vote-cast key of any card is the choice key of the card with the
suffix at the end of its name, and a request that has both is answered for both.
-/

namespace ControlComponent

open VoterKey (Kind OneSeed firstInput)

/-- The public key of a card's key of a kind. -/
def Message.Generation.Output.publicKey (output : Output) :
    VoterKey.Kind → List Nat
  | .choice => output.choicePublicKey
  | .voteCast => output.voteCastPublicKey

namespace Node.Generation

open Message.Generation
open Message.Computation.Envelope (isId)

variable {suite : Suite} {secret : ElGamal.SecretKey} {cardId cardId' : String}
  {output output' : Output}

/-- Whether the keys behind an output are those that are derived for a card. -/
def Publishes (suite : Suite) (secret : ElGamal.SecretKey) (cardId : String) (output : Output) :
    Prop :=
  ∀ kind, ∃ key, VoterKey.deriveFor suite secret.first kind cardId secret.group = .ok key ∧
    output.publicKey kind = [secret.group.pow secret.group.g key]

theorem publishes_of_answers {electionId : String} {nodeId : Nat} {card : Input}
    (answers : Answers suite secret.group secret.first electionId nodeId card output) :
    Publishes suite secret card.cardId output := by
  obtain ⟨ready, nonce, nonce', prepared, rfl⟩ := answers
  intro kind
  cases kind with
  | choice => exact ⟨ready.choiceKey, prepared.choiceKey, rfl⟩
  | voteCast => exact ⟨ready.voteCastKey, prepared.voteCastKey, rfl⟩

/-- Keys with one seed are one key. -/
theorem publicKey_eq_of_oneSeed {kind kind' : Kind}
    (published : Publishes suite secret cardId output)
    (published' : Publishes suite secret cardId' output')
    (one : OneSeed kind cardId kind' cardId') :
    output.publicKey kind = output'.publicKey kind' := by
  obtain ⟨key, derived, shown⟩ := published kind
  obtain ⟨key', derived', shown'⟩ := published' kind'
  rw [VoterKey.deriveFor, VoterKey.seed_eq_seed_iff.2 one] at derived
  cases derived.symm.trans derived'
  exact shown.trans shown'.symm

/-- **Within a card set, keys are derived from one text exactly if they have one seed.** In any two
completed requests for a card set, or in one, this holds of every two cards and of either key of
each, and keys with one seed have one public key. Cards with identifiers only share a seed if they
are one card. -/
theorem coincide_iff_oneSeed {keys keys' : Key.Service} {nodeId nodeId' : Nat}
    {request request' : SignedRequest} {state state' : State}
    {response response' : Envelope Response}
    (done : (process suite keys nodeId request state).result = .ok response)
    (done' : (process suite keys' nodeId' request' state').result = .ok response')
    (event : request'.payload.payload.electionId = request.payload.payload.electionId)
    (set : request'.payload.payload.setId = request.payload.payload.setId)
    (held : keys'.generationKey request.payload.payload.electionId request.payload.payload.setId =
      keys.generationKey request.payload.payload.electionId request.payload.payload.setId) :
    ∃ secret, keys.generationKey request.payload.payload.electionId request.payload.payload.setId =
        .ok secret ∧
      ∀ (i j : Nat) (card card' : Input), request.payload.payload.inputs[i]? = some card →
        request'.payload.payload.inputs[j]? = some card' →
        ∃ output output', response.payload.payload.outputs[i]? = some output ∧
          response'.payload.payload.outputs[j]? = some output' ∧
          Publishes suite secret card.cardId output ∧
          Publishes suite secret card'.cardId output' ∧
          ∀ kind kind',
            (firstInput (kind.seed card.cardId) secret.first =
                firstInput (kind'.seed card'.cardId) secret.first ↔
              OneSeed kind card.cardId kind' card'.cardId) ∧
            (OneSeed kind card.cardId kind' card'.cardId →
              output.publicKey kind = output'.publicKey kind') ∧
            (isId card.cardId = true → isId card'.cardId = true →
              OneSeed kind card.cardId kind' card'.cardId →
              card.cardId = card'.cardId ∧ kind = kind') := by
  obtain ⟨secret, outputs, signed, authorized, answers, signs, rfl⟩ := answered done
  obtain ⟨secret', outputs', signed', authorized', answers', signs', rfl⟩ := answered done'
  obtain ⟨signature, rfl⟩ := signs.exists_signature
  obtain ⟨signature', rfl⟩ := signs'.exists_signature
  obtain ⟨unlocked, -⟩ := authorize_ok authorized
  obtain ⟨unlocked', -⟩ := authorize_ok authorized'
  -- Both requests work with the key that is held for the card set.
  rw [event, set, held] at unlocked'
  cases unlocked.symm.trans unlocked'
  refine ⟨secret, unlocked, fun i j card card' here there => ?_⟩
  obtain ⟨output, given, answer⟩ := exists_output answers here
  obtain ⟨output', given', answer'⟩ := exists_output answers' there
  have published := publishes_of_answers answer
  have published' := publishes_of_answers answer'
  refine ⟨output, output', given, given', published, published', fun kind kind' => ⟨?_, ?_, ?_⟩⟩
  · exact VoterKey.firstInput_eq_iff_oneSeed secret.first
  · exact publicKey_eq_of_oneSeed published published'
  · exact fun accepted accepted' one => one.eq_of_isId accepted accepted'

/-- A request for a card and for the card that has the suffix at the end of its name. -/
def confirmed : SignedRequest :=
  let request := Small.generation Small.setA Small.cardC
  { request with
    payload := { request.payload with
      payload := { request.payload.payload with
        inputs :=
          [⟨Small.cardC, ⟨2, [2]⟩, ⟨2, [2]⟩, [2]⟩,
            ⟨Small.cardC ++ VoterKey.confirmSuffix, ⟨2, [2]⟩, ⟨2, [2]⟩, [2]⟩] } } }

/-- A request completes in which the vote-cast key of one card is the choice key of another: both
are derived from one text and have one public key. -/
theorem exists_cards_with_one_key :
    let before : State := .initial .empty (Small.stream 48)
    ∃ response first second,
      (process (VoterKey.stepping 10) Small.keyring.service 1 confirmed before).result =
        .ok response ∧
      response.payload.payload.outputs[0]? = some first ∧
      response.payload.payload.outputs[1]? = some second ∧
      Small.cardC ≠ Small.cardC ++ VoterKey.confirmSuffix ∧
      firstInput (Kind.voteCast.seed Small.cardC) 3 =
        firstInput (Kind.choice.seed (Small.cardC ++ VoterKey.confirmSuffix)) 3 ∧
      first.voteCastPublicKey = second.choicePublicKey ∧
      first.choicePublicKey ≠ second.choicePublicKey := by
  intro before
  have completes : (process (VoterKey.stepping 10) Small.keyring.service 1 confirmed
      before).result.isOk = true := by decide +kernel
  obtain ⟨response, done⟩ := exists_eq_ok completes
  obtain ⟨secret, unlocked, coincide⟩ := coincide_iff_oneSeed done done rfl rfl rfl
  have held : Small.keyring.service.generationKey Small.electionId Small.setA =
      .ok (Small.setKeys Small.setA 3).generation.secret := rfl
  cases held.symm.trans unlocked
  obtain ⟨first, second, given, given', published, published', keys⟩ := coincide 0 1 _ _ rfl rfl
  have one := OneSeed.castChoice Small.cardC
  refine ⟨response, first, second, done, given, given', by decide, (keys _ _).1.2 one,
    (keys _ _).2.1 one, ?_⟩
  have four : VoterKey.deriveFor (VoterKey.stepping 10) 3 .choice Small.cardC Small.group =
      .ok 4 := by decide +kernel
  have six : VoterKey.deriveFor (VoterKey.stepping 10) 3 .choice
      (Small.cardC ++ VoterKey.confirmSuffix) Small.group = .ok 6 := by decide +kernel
  obtain ⟨key, derived, shown⟩ := published .choice
  obtain ⟨key', derived', shown'⟩ := published' .choice
  cases four.symm.trans derived
  cases six.symm.trans derived'
  intro same
  have powers := (shown.symm.trans same).trans shown'
  exact absurd powers (by decide +kernel)

end Node.Generation
end ControlComponent
