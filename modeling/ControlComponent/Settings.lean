import ControlComponent.Error
import ControlComponent.Text.Blank
import ControlComponent.Wire.Record

/-!
The settings of a node, and how environment variables set them. A variable that is not set leaves
its default.
-/

namespace ControlComponent

/-- The settings of a node. -/
structure Settings where
  /-- The number of the node, which is part of every proof it makes. -/
  nodeId : Nat
  componentId : String
  /-- How often a voter may try to confirm. -/
  maxAttempts : Nat
deriving DecidableEq

namespace Settings

/-- The settings of a node that is told nothing. -/
def default : Settings := ⟨1, "defCcxId", 5⟩

/-- The variable of the node's number. -/
def nodeIdName : String := "RETURNCODES_NODE_ID"

/-- The variable of the component's name. -/
def componentIdName : String := "RETURNCODES_CONTROL_COMPONENT_ID"

/-- The variable of the number of attempts. -/
def maxAttemptsName : String := "RETURNCODES_MAX_CONFIRMATION_ATTEMPTS"

/-- The number of 32 bits that a variable holds. -/
def numberOf (name value : String) : Except Error Nat :=
  match Text.Decimal.parseAtMost (2 ^ 32 - 1) (Text.trim value) with
  | .ok n => .ok n
  | .error _ => .error (.invalidConfiguration (.notNumber name value))

/-- The settings that an environment gives. -/
def ofEnvironment (lookup : String → Option String) : Except Error Settings := do
  let nodeId ← match lookup nodeIdName with
    | some value => numberOf nodeIdName value
    | none => .ok default.nodeId
  let componentId ← match lookup componentIdName with
    | some value =>
      if Text.isBlank value then .error (.invalidConfiguration (.blank componentIdName))
      else .ok value
    | none => .ok default.componentId
  let maxAttempts ← match lookup maxAttemptsName with
    | some value => numberOf maxAttemptsName value
    | none => .ok default.maxAttempts
  if maxAttempts = 0 then .error (.invalidConfiguration (.zero maxAttemptsName))
  else return ⟨nodeId, componentId, maxAttempts⟩

/-- How settings are written. -/
def codec : Wire.Codec Settings :=
  .record
    (.required "node_id" .natural32 <| .required "control_component_id" .text <|
      .required "max_confirmation_attempts" .natural32 .done)
    (fun s => (s.nodeId, s.componentId, s.maxAttempts, ()))
    (fun (nodeId, componentId, maxAttempts, ()) => ⟨nodeId, componentId, maxAttempts⟩)

end Settings
end ControlComponent
