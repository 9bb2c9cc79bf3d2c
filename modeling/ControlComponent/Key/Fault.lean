import ControlComponent.Error
import ControlComponent.Text.Hex
import ControlComponent.Text.Quoted

/-!
What can go wrong with a node's keys, as causes, and what is said of each.
-/

namespace ControlComponent.Key

/-- What is looked for among keys, or is there already. -/
inductive Item where
  | parameters (setId : String)
  | returnCodesKeys (setId : String)
  | signingKey (electionId : String)
  | signingKeys (electionId : String)
  | signingCertificate (electionId : String)
  | other (name : String)
deriving DecidableEq

/-- What an item is called. -/
def Item.name : Item → String
  | .parameters setId => "encryption parameters for verification card set " ++ setId
  | .returnCodesKeys setId => "return codes keys for verification card set " ++ setId
  | .signingKey electionId => "election signing key for election event " ++ electionId
  | .signingKeys electionId => "election signing keys for election event " ++ electionId
  | .signingCertificate electionId =>
    "election signing certificate for election event " ++ electionId
  | .other name => name

/-- What can be wrong with a key store. -/
inductive StoreFault where
  | notSealed
  | undecodable (fault : Wire.Fault)
  | hex (fault : Text.Hex.Fault)
  | secretKey (fault : Signature.Fault)
  | values (error : Error)
deriving DecidableEq

/-- What is said of a text that is not hexadecimal. -/
def hexMessage : Text.Hex.Fault → String
  | .oddLength => "Odd number of digits"
  | .badDigit byte position =>
    "Invalid character '" ++ Text.quotedChar '\x27' (Char.ofNat byte.toNat) ++ "' at position " ++
      Text.Decimal.render position

/-- What is said of a fault. -/
def StoreFault.message : StoreFault → String
  | .notSealed => "not a sealed key store"
  | .undecodable fault => fault.message
  | .hex fault => hexMessage fault
  | .secretKey fault => fault.message
  | .values error => error.message

/-- What can be wrong with the certificate of a node. -/
inductive NodeCaFault where
  | notIssued (error : Error)
  | wrongSecret
deriving DecidableEq

/-- What is said of a fault. -/
def NodeCaFault.message : NodeCaFault → String
  | .notIssued error => error.message
  | .wrongSecret => "node CA secret key does not match its certificate"

/-- The greatest length of a key that partial choice codes are encrypted under. -/
def maxLength : Nat := 120

/-- What can go wrong with keys. -/
inductive Fault where
  | notFound (item : Item)
  | alreadyExists (item : Item)
  | invalidPassword
  | invalidStore (fault : StoreFault)
  | invalidNodeCa (fault : NodeCaFault)
  | invalidLength (length : Nat)
deriving DecidableEq

/-- What is said of a fault. -/
def Fault.message : Fault → String
  | .notFound item => "returncodes key management: " ++ item.name ++ " not found"
  | .alreadyExists item => "returncodes key management: " ++ item.name ++ " already exists"
  | .invalidPassword => "returncodes key management: invalid password"
  | .invalidStore fault => "returncodes key management: invalid key store: " ++ fault.message
  | .invalidNodeCa fault => "returncodes key management: invalid node CA: " ++ fault.message
  | .invalidLength length =>
    "returncodes key management: invalid key spec: choice codes encryption key length must be " ++
      "between 1 and " ++ Text.Decimal.render maxLength ++ ", got " ++ Text.Decimal.render length

/-- The name of a fault. -/
def Fault.name : Fault → String
  | .notFound _ => "NotFound"
  | .alreadyExists _ => "AlreadyExists"
  | .invalidPassword => "InvalidPassword"
  | .invalidStore _ => "InvalidKeyStore"
  | .invalidNodeCa _ => "InvalidNodeCa"
  | .invalidLength _ => "InvalidKeySpec"

end ControlComponent.Key
