import ControlComponent.Group.Basic
import ControlComponent.Text.Decimal

/-!
Why a document is not a value of the wanted type. Documents of the wrong shape are not told apart;
a text that is no decimal number and numbers that form no group are.
-/

namespace ControlComponent.Wire

/-- Why a document is not a value of the wanted type. -/
inductive Fault where
  | shape
  | decimal (text : String)
  | group (fault : Group.Fault)
deriving DecidableEq

/-- What is said of a fault. -/
def Fault.message : Fault → String
  | .shape => "malformed document"
  | .decimal text => Text.Decimal.complaint text
  | .group fault => "returncodes: invalid group: " ++ fault.message

end ControlComponent.Wire
