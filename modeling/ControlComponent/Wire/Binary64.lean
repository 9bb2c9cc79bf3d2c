import ControlComponent.Power

/-!
Floating-point numbers of 64 bits, as far as they bound what a decimal number may be.

A decimal number is taken as a product of two factors, its digits and its power of ten, each rounded
to 53 significant bits before they are multiplied. Numbers near the greatest one therefore depend on
how their digits are split between the factors.
-/

namespace ControlComponent.Wire.Binary64

/-- The number of 53 significant bits that is nearest to `n`; of two that are equally near, the one
that ends in zero. -/
def nearest (n : Nat) : Nat :=
  let unit := 2 ^ (n.log2 - 52)
  let below := n / unit
  let beyond := 2 * (n % unit)
  if unit < beyond ∨ (beyond = unit ∧ below % 2 = 1) then (below + 1) * unit else below * unit

/-- A number of at most 53 bits is its own nearest one. -/
theorem nearest_eq_self {n : Nat} (h : n < 2 ^ 53) : nearest n = n := by
  have low : n.log2 - 52 = 0 := by
    by_cases zero : n = 0
    · simp [zero]
    · have := (Nat.log2_lt zero).2 h
      omega
  simp [nearest, low, Nat.mod_one]

/-- The least product that rounds to no finite number: half a unit above the greatest one. -/
def limit : Nat := 2 ^ 1024 - 2 ^ 970

/-- Whether `digits · 10^exponent` is taken as a finite number. -/
def isFinite (digits : Nat) (exponent : Int) : Bool :=
  if digits = 0 ∨ exponent < 0 then true
  else if 308 < exponent then false
  else nearest digits * nearest (10 ^ exponent.toNat) < limit

example : isFinite 17976931348623158 292 = false := by decide +kernel

example : isFinite 179769313486231583 291 = true := by decide +kernel

end ControlComponent.Wire.Binary64
