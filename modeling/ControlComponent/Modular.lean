import ControlComponent.Power

/-!
Powers modulo a number, by squaring: the exponent's bits are taken from the highest to the lowest.
`power_eq` states that the result is the power reduced.
-/

namespace ControlComponent.Modular

/-- The bits of the exponent below position `i`, applied to a power already found. -/
def powerFrom (base exponent modulus : Nat) : (i : Nat) → Nat → Nat
  | 0, found => found
  | i + 1, found =>
    let square := found * found % modulus
    powerFrom base exponent modulus i
      (if exponent.testBit i then square * base % modulus else square)

/-- A power of `base` modulo `modulus`. -/
def power (base exponent modulus : Nat) : Nat :=
  powerFrom base exponent modulus (exponent.log2 + 1) (1 % modulus)

theorem powerFrom_mod (base exponent modulus i found : Nat) (h : found % modulus = found) :
    powerFrom base exponent modulus i found % modulus =
      powerFrom base exponent modulus i found := by
  induction i generalizing found with
  | zero => exact h
  | succ i ih => rw [powerFrom]; apply ih; split <;> exact Nat.mod_mod _ _

/-- The lowest `i + 1` bits of a number are bit `i` and the lowest `i` bits. -/
theorem mod_two_pow_succ_testBit (n i : Nat) :
    n % 2 ^ (i + 1) = n % 2 ^ i + (if n.testBit i then 2 ^ i else 0) := by
  rw [Nat.pow_succ, Nat.mod_mul, Nat.testBit_eq_decide_div_mod_eq]
  rcases Nat.mod_two_eq_zero_or_one (n / 2 ^ i) with h | h <;> simp [h]

theorem powerFrom_eq (base exponent modulus i found : Nat) :
    powerFrom base exponent modulus i found % modulus =
      found ^ 2 ^ i * base ^ (exponent % 2 ^ i) % modulus := by
  induction i generalizing found with
  | zero => simp [powerFrom, Nat.mod_one]
  | succ i ih =>
    rw [powerFrom, ih, mod_two_pow_succ_testBit]
    have square : (found * found % modulus) ^ 2 ^ i % modulus =
        found ^ 2 ^ (i + 1) % modulus := by
      rw [← Nat.pow_mod, ← Nat.pow_two, ← Nat.pow_mul, Nat.pow_succ']
    split
    · rw [Nat.mul_mod, ← Nat.pow_mod, Nat.mul_pow, ← Nat.mul_mod, Nat.mul_assoc, Nat.mul_mod,
        square, ← Nat.mul_mod, ← Nat.pow_add, Nat.add_comm (2 ^ i)]
    · rw [Nat.mul_mod, square, ← Nat.mul_mod]; rfl

/-- The power is the reduced power. -/
theorem power_eq (base exponent modulus : Nat) :
    power base exponent modulus = base ^ exponent % modulus := by
  have below : exponent < 2 ^ (exponent.log2 + 1) := Nat.lt_log2_self
  rw [power, ← powerFrom_mod _ _ _ _ _ (Nat.mod_mod _ _), powerFrom_eq,
    Nat.mod_eq_of_lt below, Nat.mul_mod, ← Nat.pow_mod, Nat.one_pow, ← Nat.mul_mod, Nat.one_mul]

end ControlComponent.Modular
