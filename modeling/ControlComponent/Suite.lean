import ControlComponent.Derivation.Hkdf
import ControlComponent.Group.Element
import ControlComponent.HashTree
import ControlComponent.Signature.Ed25519

/-!
What everything else is built on, as one value: the digest of structured values, the expansion of
key material, the signature scheme, and what becomes of a sum that does not fit in 64 bits. What the
library does is stated for any suite, and so for builds with overflow checks and for builds without
them; `Suite.standard` is the one that runs.
-/

namespace ControlComponent

/-! ### Sums -/

/-- What becomes of a sum that does not fit in 64 bits: a build with overflow checks stops there,
one without them goes on with the lower bits. -/
inductive Overflow where
  | stops
  | wraps
deriving DecidableEq

namespace Overflow

/-- One more than a number, in 64 bits. -/
def succ (overflow : Overflow) (n : Nat) : Option Nat :=
  if n + 1 < 2 ^ 64 then some (n + 1)
  else match overflow with
    | stops => none
    | wraps => some ((n + 1) % 2 ^ 64)

variable {overflow : Overflow} {n : Nat}

theorem succ_eq_some (bound : n < 2 ^ 64 - 1) : overflow.succ n = some (n + 1) :=
  if_pos (by omega)

theorem succ_stops_largest : stops.succ (2 ^ 64 - 1) = none := rfl

theorem succ_wraps_largest : wraps.succ (2 ^ 64 - 1) = some 0 := rfl

/-- The only number of 64 bits whose successor does not fit is the largest one. -/
theorem succ_ne_iff (bound : n < 2 ^ 64) :
    overflow.succ n ≠ some (n + 1) ↔ n = 2 ^ 64 - 1 := by
  constructor
  · intro other
    apply Nat.le_antisymm (by omega)
    exact Nat.le_of_not_lt fun smaller => other (succ_eq_some smaller)
  · intro largest
    subst largest
    cases overflow with
    | stops =>
      rw [succ_stops_largest]
      exact (Option.some_ne_none _).symm
    | wraps =>
      rw [succ_wraps_largest]
      exact fun same => absurd (Option.some.inj same) (by decide)

end Overflow

/-! ### Suites -/

/-- The cryptographic functions of a control component, and its arithmetic. -/
structure Suite where
  hash : HashTree → Bytes
  expand : (material : Bytes) → (length : Nat) → Bytes
  signing : Signature.Scheme
  overflow : Overflow

namespace Suite

/-- SHA-256, HKDF-SHA256 and Ed25519, in a build with overflow checks. -/
def standard : Suite where
  hash := HashTree.digest
  expand material length := Derivation.Hkdf.expand (Derivation.Hkdf.extract material) length
  signing := Signature.Ed25519.scheme
  overflow := .stops

/-- The digest of a value as an exponent of a group. -/
def hashToExponent (suite : Suite) (tree : HashTree) (group : Group) : Nat :=
  Bytes.toNat (suite.hash tree) % group.q

theorem hashToExponent_lt (suite : Suite) (tree : HashTree) (group : Group) :
    suite.hashToExponent tree group < group.q := group.mod_q_lt _

/-- The square of one more than a number, a quadratic residue. -/
def square (group : Group) (h : Nat) : Nat := group.pow (h + 1) 2

/-- An element hashed into its group: the square of one more than its digest. -/
def hashAndSquare (suite : Suite) (a : Element) : Element :=
  ⟨a.group, square a.group (suite.hashToExponent (.integer a.value) a.group)⟩

end Suite
end ControlComponent
