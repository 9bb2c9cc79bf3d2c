/-!
The mandatory fields of requests, as they are named when they are missing or malformed.
-/

namespace ControlComponent.Message

/-- A mandatory field of a request. -/
inductive Field where
  | requestId
  | electionId
  | setId
  | cardId
  | inputs
  | payload
deriving DecidableEq

/-- The name of a field in messages. -/
def Field.name : Field → String
  | .requestId => "requestId"
  | .electionId => "electionEventId"
  | .setId => "verificationCardSetId"
  | .cardId => "verificationCardId"
  | .inputs => "returnCodeGenerationInputs"
  | .payload => "payload"

end ControlComponent.Message
