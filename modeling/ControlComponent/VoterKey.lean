import ControlComponent.Randomness
import ControlComponent.Suite

/-!
The two keys of a voter, derived from a node's master exponent and the verification card's id.

The seed and the decimal master exponent are expanded to just enough bytes for `q`, the top bit is
cleared, and the number is taken if it is below `q`; otherwise the bytes are expanded in their turn.
In very small groups this can come back to bytes seen before. Then no number below `q` is ever
reached, and there is no key.
-/

namespace ControlComponent.VoterKey

/-- Which of a voter's two keys is meant. -/
inductive Kind where
  | choice
  | voteCast
deriving DecidableEq

/-- What is appended to a card's id to seed its vote-cast key. -/
def confirmSuffix : String := "confirm"

/-- The seed of a card's key. -/
def Kind.seed (kind : Kind) (cardId : String) : String :=
  match kind with
  | .choice => cardId
  | .voteCast => cardId ++ confirmSuffix

/-- The number of bytes that one bit more than `q` has needs. -/
def outputLength (q : Nat) : Nat := (Randomness.bitLength q + 1 + 7) / 8

/-- The number that bytes write with their top bit cleared. -/
def candidate : Bytes → Nat
  | [] => 0
  | first :: rest => Bytes.toNat ((first &&& 0x7f) :: rest)

/-- What is expanded first: the seed followed by the master exponent in decimal digits. -/
def firstInput (seed : String) (master : Nat) : Bytes :=
  Bytes.ofText seed ++ Bytes.ofText (Text.Decimal.render master)

/-- The first number below `q` among the outputs of `expand`, each output being expanded to the
next. An output seen before ends the search, as does the end of the fuel; when there is more fuel
than there are outputs, the fuel never does. -/
def search (expand : Bytes → Bytes) (q : Nat) :
    (fuel : Nat) → (seen : List Bytes) → (input : Bytes) → Option Nat
  | 0, _, _ => none
  | fuel + 1, seen, input =>
    let output := expand input
    if output ∈ seen then none
    else if candidate output < q then some (candidate output)
    else search expand q fuel (output :: seen) output

/-- The exponent derived from a master exponent and a seed. -/
def derive (suite : Suite) (master : Nat) (seed : String) (group : Group) : Except Error Nat :=
  let length := outputLength group.q
  if Derivation.Hkdf.maxLength < length then .error (.keyDerivation (.tooLong length))
  else
    match search (suite.expand · length) group.q (256 ^ length + 1) [] (firstInput seed master) with
    | some k => .ok k
    | none => .error (.keyDerivation (.exhausted seed))

/-- The key of a kind for a card. -/
def deriveFor (suite : Suite) (master : Nat) (kind : Kind) (cardId : String) (group : Group) :
    Except Error Nat :=
  derive suite master (kind.seed cardId) group

end ControlComponent.VoterKey
