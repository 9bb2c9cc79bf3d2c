import ControlComponent.Error
import ControlComponent.Wire.Variant

/-!
The three kinds of messages that a node takes.
-/

namespace ControlComponent.Message

/-- What a message asks for. -/
inductive Kind where
  | generation
  | decryption
  | exponentiation
deriving DecidableEq

namespace Kind

/-- The name of a kind. -/
def name : Kind → String
  | .generation => "generation"
  | .decryption => "decryption"
  | .exponentiation => "exponentiation"

/-- The kinds in their order, under their names. -/
def named : List (String × Kind) :=
  [Kind.generation, .decryption, .exponentiation].map fun kind => (kind.name, kind)

/-- The kind of a name. -/
def ofName (text : String) : Except Error Kind :=
  match named.lookup text with
  | some kind => .ok kind
  | none => .error (.unknownMessageKind text)

/-- How kinds are written. -/
def codec : Wire.Codec Kind := .cases named name

theorem ofName_name (kind : Kind) : ofName kind.name = .ok kind := by
  cases kind <;> rfl

end Kind
end ControlComponent.Message
