import ControlComponent.Randomness
import ControlComponent.Group.Element

/-!
ElGamal encryption of several values at once: a key has one or more exponents, and a ciphertext one
value `gamma` for all of them together with one value `phi` for each message.
-/

namespace ControlComponent.ElGamal

/-! ### Keys -/

/-- A secret key: one or more exponents. -/
structure SecretKey where
  group : Group
  exponents : List Nat
  exponents_ne : exponents ≠ []
deriving DecidableEq

/-- A public key: one or more values. -/
structure PublicKey where
  group : Group
  values : List Nat
  values_ne : values ≠ []
deriving DecidableEq

namespace SecretKey

/-- A secret key of the given exponents. -/
def ofExponents (group : Group) (exponents : List Nat) : Except Error SecretKey :=
  if h : exponents = [] then .error .emptyKey else .ok ⟨group, exponents, h⟩

/-- A secret key of the given numbers, each of which must be an exponent of the group. -/
def ofValues (group : Group) (values : List Nat) : Except Error SecretKey := do
  let exponents ← values.mapM group.exponent
  ofExponents group exponents

/-- A secret key of `length` random exponents. -/
def generate (group : Group) (length : Nat) (r : Randomness) :
    Except Error SecretKey × Randomness :=
  let (exponents, r) := Randomness.manyBelow group.q length r
  (ofExponents group exponents, r)

/-- The first exponent. -/
def first (key : SecretKey) : Nat := key.exponents.head key.exponents_ne

/-- The sum of the exponents. -/
def compress (key : SecretKey) : Nat := key.group.sumExponents key.exponents

/-- The public key that belongs to a secret key: the generator's powers. -/
def publicKey (key : SecretKey) : PublicKey where
  group := key.group
  values := key.exponents.map (key.group.pow key.group.g)
  values_ne := by simp [key.exponents_ne]

end SecretKey

/-- A secret key together with the public key that belongs to it. -/
structure KeyPair where
  secret : SecretKey
  publicKey : PublicKey
  publicKey_eq : publicKey = secret.publicKey
deriving DecidableEq

namespace KeyPair

/-- A secret key with its public key. -/
def ofSecret (secret : SecretKey) : KeyPair := ⟨secret, secret.publicKey, rfl⟩

@[simp] theorem secret_ofSecret (secret : SecretKey) : (ofSecret secret).secret = secret := rfl

@[simp] theorem ofSecret_secret (pair : KeyPair) : ofSecret pair.secret = pair := by
  obtain ⟨secret, _, rfl⟩ := pair
  rfl

end KeyPair

namespace PublicKey

/-- A public key of the given elements, all of which must be of the group. -/
def ofElements (group : Group) (elements : List Element) : Except Error PublicKey :=
  if h : elements = [] then .error .emptyKey
  else if elements.any (·.group ≠ group) then .error .groupMismatch
  else .ok ⟨group, elements.map (·.value), by simp [h]⟩

/-- A public key of the given numbers, each of which must be a member of the group. -/
def ofValues (group : Group) (values : List Nat) : Except Error PublicKey := do
  let elements ← group.elements values
  ofElements group elements

/-- The first value. -/
def first (key : PublicKey) : Element := ⟨key.group, key.values.head key.values_ne⟩

/-- The product of the values. -/
def compress (key : PublicKey) : Element := ⟨key.group, key.group.product key.values⟩

/-- What a signature of the key covers: its values in decimal digits, with commas between them. -/
def toBytes (key : PublicKey) : Bytes := Bytes.ofText (Text.Decimal.commaSeparated key.values)

end PublicKey

/-! ### Ciphertexts -/

/-- The values of a ciphertext, without a group. -/
structure CiphertextValues where
  gamma : Nat
  phis : List Nat
deriving DecidableEq

/-- A ciphertext. -/
structure Ciphertext where
  group : Group
  gamma : Nat
  phis : List Nat
deriving DecidableEq

namespace Ciphertext

/-- A ciphertext of the given elements, all of which must be of one group. -/
def ofElements (gamma : Element) (phis : List Element) : Except Error Ciphertext :=
  if phis.any (·.group ≠ gamma.group) then .error .groupMismatch
  else .ok ⟨gamma.group, gamma.value, phis.map (·.value)⟩

/-- A ciphertext of the given numbers, each of which must be a member of the group. -/
def ofValues (group : Group) (values : CiphertextValues) : Except Error Ciphertext := do
  let gamma ← group.member values.gamma
  let phis ← group.members values.phis
  return ⟨group, gamma, phis⟩

/-- The values of a ciphertext. -/
def toValues (c : Ciphertext) : CiphertextValues := ⟨c.gamma, c.phis⟩

/-- The elements of a ciphertext, `gamma` first. -/
def elements (c : Ciphertext) : List Element := c.group.lift (c.gamma :: c.phis)

/-- Every value raised to the same exponent. -/
def pow (c : Ciphertext) (exponent : Nat) : Ciphertext where
  group := c.group
  gamma := c.group.pow c.gamma exponent
  phis := c.phis.map (c.group.pow · exponent)

end Ciphertext

/-- Messages encrypted under the first values of a public key, with randomness `r`. There must be a
message, and no more of them than the key has values. The messages should be of the key's group,
which is not checked: the products are those of the key's group in any case. -/
def encrypt (key : PublicKey) (messages : List Element) (r : Nat) : Except Error Ciphertext :=
  if messages = [] ∨ key.values.length < messages.length then
    .error (.invalidProofInput .messageCount)
  else
    let group := key.group
    .ok {
      group := group
      gamma := group.pow group.g r
      phis := List.zipWith (fun m h => group.mul (group.pow h r) m.value) messages key.values }

end ControlComponent.ElGamal
