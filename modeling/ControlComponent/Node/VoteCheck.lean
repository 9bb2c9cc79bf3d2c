import ControlComponent.Log
import ControlComponent.Message.Computation
import ControlComponent.Message.Vote
import ControlComponent.Store.Basic

/-!
Checking a vote.

The administration board must have signed the election key and the data of the card set, the issuer
of the card set must have signed the voter's key, both keys must be usable, and both proofs of the
vote must fit. That the voter's key is not known is a fault of the store; everything else just makes
the vote invalid, and the outcome says why.
-/

namespace ControlComponent

open Message (Vote)
open Message.Computation (VoteInput)

/-- What the check of a proof came to. -/
inductive ProofCheck where
  | valid
  | invalid
  | unchecked (error : Error)
deriving DecidableEq

namespace ProofCheck

/-- What a verification came to. -/
def ofVerification : Except Error Bool → ProofCheck
  | .ok true => .valid
  | .ok false => .invalid
  | .error e => .unchecked e

/-- Whether the proof fits. -/
def isValid (c : ProofCheck) : Bool := c = .valid

/-- What is logged at once. -/
def lines : ProofCheck → List Log.Line
  | .unchecked e => [.of .warn ("proof could not be checked: " ++ e.message)]
  | _ => []

end ProofCheck

/-- What the check of a vote came to: the first thing that keeps its proofs from being looked at, or
what the check of each proof came to. -/
inductive VoteCheck where
  | electionKeySignature (error : Error)
  | cardSetSignature (error : Error)
  | cardKeySignature (error : Error)
  | electionKey (error : Error)
  | choiceCodesKey (error : Error)
  | proofs (exponentiation plaintextEquality : ProofCheck)
deriving DecidableEq

namespace VoteCheck

/-- Whether the vote is valid. -/
def isValid (c : VoteCheck) : Bool := c = .proofs .valid .valid

/-- The line about a card key's signature. -/
def cardKeyLine (e : Error) : Log.Line :=
  .of .warn ("verification card public key signature is invalid: " ++ e.message)

/-- What is logged. -/
def lines : VoteCheck → List Log.Line
  | .electionKeySignature e =>
    [.of .warn ("election public key signature is invalid: " ++ e.message)]
  | .cardSetSignature e =>
    [.of .warn ("verification card set data signature is invalid: " ++ e.message)]
  | .cardKeySignature e => [cardKeyLine e]
  | .electionKey e => [.of .warn ("election public key is not usable: " ++ e.message)]
  | .choiceCodesKey e =>
    [.of .warn ("choice codes encryption public key is not usable: " ++ e.message)]
  | .proofs x y =>
    x.lines ++ y.lines ++
    (if x.isValid then [] else [.of .warn "vote exponentiation proof is invalid"]) ++
    (if y.isValid then [] else [.of .warn "vote plaintext equality proof is invalid"])

/-- Checks that the issuer of a card set signed the voter's key for this card. -/
def checkCardKey (scheme : Signature.Scheme) (input : VoteInput) (vote : Vote) :
    Except Error Unit :=
  Certificate.checkSignature scheme input.cardSet.content.issuer.publicKey vote.signedBytes
    vote.cardPublicKeySignature

/-- Checks that the encrypted options and the generator have been raised to the secret key that
belongs to the card's registered public key. -/
def checkExponentiation (suite : Suite) (store : Store) (group : Group) (vote : Vote) :
    Except Store.Fault ProofCheck := do
  let stored ← store.cardKey vote.electionId vote.cardId
  match stored.publicKey, vote.encryptedOptions, vote.exponentiatedOptions with
  | [key], [c, c'], [x, x'] =>
    if group.areMembers [key, c, c', x, x'] then
      return .ofVerification (vote.exponentiationProof.verify suite
        ⟨group.lift [group.g, c, c'], group.lift [key, x, x']⟩ vote.auxiliary)
    else return .invalid
  | _, _, _ => return .invalid

/-- Checks that the raised options, under the first value of the election key, hold the same as the
product of the partial choice codes, under the product of the choice codes key. -/
def checkPlaintextEquality (suite : Suite) (group : Group) (vote : Vote)
    (eventKey codesKey : ElGamal.PublicKey) : ProofCheck :=
  match vote.exponentiatedOptions, vote.encryptedPartialCodes with
  | [x, x'], gamma :: phi :: phis =>
    if group.areMembers [x, x'] && group.areMembers (gamma :: phi :: phis) then
      .ofVerification (vote.plaintextEqualityProof.verify suite
        { primary := ⟨group, x, [x']⟩
          primaryKey := eventKey.first
          secondary := ⟨group, gamma, [group.product (phi :: phis)]⟩
          secondaryKey := codesKey.compress } vote.auxiliary)
    else .invalid
  | _, _ => .invalid

/-- Checks a vote. The proofs are looked at together, and only if all else is well. -/
def check (suite : Suite) (store : Store) (group : Group) (input : VoteInput) (vote : Vote)
    (adminBoard : Signature.PublicKey) : Except Store.Fault VoteCheck :=
  match input.electionKey.check suite.signing Message.Computation.ElectionKey.codec adminBoard with
  | .error e => .ok (.electionKeySignature e)
  | .ok () =>
    match input.cardSet.check suite.signing Message.Computation.CardSet.codec adminBoard with
    | .error e => .ok (.cardSetSignature e)
    | .ok () =>
      match checkCardKey suite.signing input vote with
      | .error e => .ok (.cardKeySignature e)
      | .ok () =>
        match ElGamal.PublicKey.ofValues group input.electionKey.content.publicKey with
        | .error e => .ok (.electionKey e)
        | .ok eventKey =>
          match ElGamal.PublicKey.ofValues group input.cardSet.content.choiceCodesKey with
          | .error e => .ok (.choiceCodesKey e)
          | .ok codesKey =>
            (checkExponentiation suite store group vote).map fun exponentiation =>
              .proofs exponentiation
                (checkPlaintextEquality suite group vote eventKey codesKey)

end VoteCheck
end ControlComponent
