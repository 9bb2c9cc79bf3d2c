import ControlComponent.Key.Fault
import ControlComponent.Node.VoteCheck

/-!
Why a message gets no reply: it is rejected when one of its checks fails, and its processing fails
when something is wrong with the message as such, or with the node.
-/

namespace ControlComponent

/-! ### Rejections -/

/-- The lists of numbers that are checked. -/
inductive ListName where
  | partialChoiceReturnCodes
  | confirmationKey
  | encryptedPartialChoiceCodes
  | returnCodesInputElements
  | cipherTextExponentiations
  | encryptedOptions
  | verificationCardPublicKey
deriving DecidableEq

/-- The name of a list. -/
def ListName.text : ListName → String
  | .partialChoiceReturnCodes => "partialChoiceReturnCodes"
  | .confirmationKey => "confirmationKey"
  | .encryptedPartialChoiceCodes => "encryptedPartialChoiceCodes"
  | .returnCodesInputElements => "returnCodesInputElements"
  | .cipherTextExponentiations => "cipherTextExponentiations"
  | .encryptedOptions => "encryptedOptions"
  | .verificationCardPublicKey => "verificationCardPublicKey"

/-- Which check of a message failed. -/
inductive Rejection where
  | missingSignature
  | invalidSignature (error : Error)
  | groupMismatch
  | missingGroup (setId : String) (fault : Key.Fault)
  | missingVoteInput
  | unexpectedConfirmation
  | alreadyDecrypted
  | malformedVote (fault : Wire.Fault)
  | voteMismatch
  | missingElements
  | wrongNumber (name : ListName) (expected found : Nat)
  | notMember (name : ListName)
  | firstElementMismatch
  | missingCertificates
  | invalidChain (error : Error)
  | invalidProofs (check : VoteCheck)
  | duplicateElements
  | attemptsExceeded (limit : Nat)
  | malformedConfirmation (fault : Wire.Fault)
  | confirmationMismatch
  | cryptographic (error : Error)
  | keyUnavailable (fault : Key.Fault)
deriving DecidableEq

namespace Rejection

/-- What is said of a rejection. -/
def message : Rejection → String
  | .missingSignature => "request is not signed"
  | .invalidSignature error => "request signature is invalid: " ++ error.message
  | .groupMismatch => "request group does not match the stored key group"
  | .missingGroup _ _ => "no encryption parameters for the election event"
  | .missingVoteInput => "partial choice return codes verification input is missing"
  | .unexpectedConfirmation =>
    "confirmation key verification input is present in a partial decryption request"
  | .alreadyDecrypted => "verification card has already been decrypted"
  | .malformedVote fault => "vote could not be parsed: " ++ fault.message
  | .voteMismatch => "vote does not belong to the requested verification card"
  | .missingElements => "return codes input elements are missing"
  | .wrongNumber name expected found =>
    name.text ++ ": expected " ++ Text.Decimal.render expected ++ " elements, found " ++
      Text.Decimal.render found
  | .notMember name => name.text ++ " contains an element outside the group"
  | .firstElementMismatch => "first element of the server list does not match the vote"
  | .missingCertificates => "certificates are missing"
  | .invalidChain error => "certificate chain is invalid: " ++ error.message
  | .invalidProofs _ => "vote proofs are invalid"
  | .duplicateElements => "partial choice return codes are not pairwise distinct"
  | .attemptsExceeded limit =>
    "maximum number of confirmation attempts (" ++ Text.Decimal.render limit ++ ") reached"
  | .malformedConfirmation fault => "confirmation message could not be parsed: " ++ fault.message
  | .confirmationMismatch =>
    "confirmation key does not match the client confirmation message"
  | .cryptographic error => "cryptographic failure: " ++ error.message
  | .keyUnavailable fault => "key unavailable: " ++ fault.message

/-- The name of the check that failed. -/
def name : Rejection → String
  | .missingSignature => "MissingSignature"
  | .invalidSignature _ => "InvalidSignature"
  | .groupMismatch => "GroupMismatch"
  | .missingGroup _ _ => "MissingGroup"
  | .missingVoteInput => "MissingVerificationInput"
  | .unexpectedConfirmation => "UnexpectedConfirmationInput"
  | .alreadyDecrypted => "AlreadyDecrypted"
  | .malformedVote _ => "MalformedVote"
  | .voteMismatch => "VoteMismatch"
  | .missingElements => "MissingReturnCodesInput"
  | .wrongNumber _ _ _ => "WrongNumberOfElements"
  | .notMember _ => "NotGroupMember"
  | .firstElementMismatch => "FirstElementMismatch"
  | .missingCertificates => "MissingCertificates"
  | .invalidChain _ => "InvalidCertificateChain"
  | .invalidProofs _ => "InvalidProofs"
  | .duplicateElements => "DuplicateElements"
  | .attemptsExceeded _ => "ConfirmationAttemptsExceeded"
  | .malformedConfirmation _ => "MalformedConfirmationMessage"
  | .confirmationMismatch => "ConfirmationKeyMismatch"
  | .cryptographic _ => "Cryptographic"
  | .keyUnavailable _ => "KeyUnavailable"

/-- What is logged of the cause of a rejection. -/
def causeLines : Rejection → List Log.Line
  | .missingGroup setId fault =>
    [.of .warn ("no encryption parameters for verification card set " ++ setId ++ ": " ++
      fault.message)]
  | .invalidProofs check => check.lines
  | _ => []

end Rejection

/-! ### Failures -/

/-- Why a message could not be processed. A processing is interrupted where a sum does not fit, in a
build with overflow checks, and where it needs an element of a list that has none. -/
inductive Failure where
  | invalidRequest (fields : List Message.Field)
  | keys (fault : Key.Fault)
  | store (fault : Store.Fault)
  | internal (error : Error)
  | interrupted
deriving DecidableEq

/-- What is said of a failure. -/
def Failure.message : Failure → String
  | .invalidRequest fields =>
    "returncodes: invalid request, missing or malformed fields: " ++
      ", ".intercalate (fields.map (·.name))
  | .keys fault => fault.message
  | .store fault => fault.message
  | .internal error => error.message
  | .interrupted => "returncodes: processing interrupted"

/-- Why a message gets no reply. -/
inductive Refusal where
  | rejected (reason : Rejection)
  | failed (failure : Failure)
deriving DecidableEq

end ControlComponent
