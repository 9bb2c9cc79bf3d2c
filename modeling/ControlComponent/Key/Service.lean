import ControlComponent.Certificate
import ControlComponent.ElGamal
import ControlComponent.Key.Fault

/-!
The keys as they are seen while a message is processed: an answer, or a fault, for each question
that can be asked. Every question is asked at most once in the course of one message, so keys that
change their mind in between are just other keys.
-/

namespace ControlComponent.Key

/-- The answers to all questions about keys. -/
structure Service where
  platformCa : Except Fault Certificate
  /-- The group of a card set. -/
  parameters : (electionId setId : String) → Except Fault Group
  /-- The key from which the keys of a set's cards are derived. -/
  generationKey : (electionId setId : String) → Except Fault ElGamal.SecretKey
  /-- The key with which the partial choice codes of a set are decrypted. -/
  decryptionKey : (electionId setId : String) → Except Fault ElGamal.SecretKey
  signingKey : (electionId : String) → Except Fault Signature.SecretKey
  /-- The chain of the signing key's certificate. -/
  chain : (electionId : String) → Except Fault (List Certificate)

end ControlComponent.Key
