import ControlComponent.Hash.Sha256

/-!
Randomness as a value: an endless stream of bytes and how far it has been read. Whoever needs
randomness takes a stream and hands on what is left of it, so that the same stream always leads to
the same result.

A number below a bound is drawn by rejection: as many bits as the bound has, again and again until
the number is below it. At least half of all draws succeed; a stream that fails `maxDraws` times in
a row gives its last number reduced, so that a draw always ends below the bound (`below_lt`).
-/

namespace ControlComponent

/-- An endless stream of bytes, read up to a position. -/
structure Randomness where
  byte : Nat → UInt8
  position : Nat

namespace Randomness

/-- The stream of the digests of a seed followed by 0, 1, 2, … in eight bytes. -/
def seeded (seed : Bytes) : Randomness where
  byte i := (Hash.Sha256.digest (seed ++ Bytes.ofNatBE 8 (i / 32))).getD (i % 32) 0
  position := 0

/-- The next `count` bytes. -/
def take (r : Randomness) (count : Nat) : Bytes × Randomness :=
  ((List.range count).map fun i => r.byte (r.position + i),
    { r with position := r.position + count })

/-- The number of bits of a number. -/
def bitLength (n : Nat) : Nat := if n = 0 then 0 else n.log2 + 1

/-- A number of at most `bits` bits from words of 32 bits, the least significant word first; of the
last word the highest bits are used. -/
def number (bits : Nat) (bytes : Bytes) : Nat :=
  let n := Bytes.toNatLE bytes
  let low := bits / 32 * 32
  if bits % 32 = 0 then n else n % 2 ^ low + n / 2 ^ low / 2 ^ (32 - bits % 32) * 2 ^ low

/-- How often a number is drawn before the last one is taken reduced. -/
def maxDraws : Nat := 4096

/-- A number below `bound`, drawn up to `draws` times. -/
def belowUpTo (bound : Nat) : (draws : Nat) → Randomness → Nat × Randomness
  | 0, r => (0, r)
  | draws + 1, r =>
    let bits := bitLength bound
    let (bytes, rest) := r.take (4 * ((bits + 31) / 32))
    let n := number bits bytes
    if n < bound then (n, rest)
    else if draws = 0 then (n % bound, rest)
    else belowUpTo bound draws rest

/-- A number below a bound. -/
def below (bound : Nat) (r : Randomness) : Nat × Randomness := belowUpTo bound maxDraws r

/-- Several numbers below a bound, drawn one after another. -/
def manyBelow (bound : Nat) : (count : Nat) → Randomness → List Nat × Randomness
  | 0, r => ([], r)
  | count + 1, r =>
    let (n, r) := below bound r
    let (ns, r) := manyBelow bound count r
    (n :: ns, r)

theorem belowUpTo_lt {bound : Nat} (h : 0 < bound) (draws : Nat) (r : Randomness) :
    (belowUpTo bound draws r).1 < bound := by
  induction draws generalizing r with
  | zero => exact h
  | succ draws ih =>
    simp only [belowUpTo]
    split
    · assumption
    · split
      · exact Nat.mod_lt _ h
      · exact ih _

/-- What is drawn is below the bound. -/
theorem below_lt {bound : Nat} (h : 0 < bound) (r : Randomness) : (below bound r).1 < bound :=
  belowUpTo_lt h maxDraws r

theorem manyBelow_lt {bound : Nat} (h : 0 < bound) (count : Nat) (r : Randomness) :
    ∀ n ∈ (manyBelow bound count r).1, n < bound := by
  induction count generalizing r with
  | zero => simp [manyBelow]
  | succ count ih =>
    intro n hn
    simp only [manyBelow, List.mem_cons] at hn
    rcases hn with rfl | hn
    · exact below_lt h r
    · exact ih _ n hn

theorem length_manyBelow (bound count : Nat) (r : Randomness) :
    (manyBelow bound count r).1.length = count := by
  induction count generalizing r with
  | zero => rfl
  | succ count ih => simp [manyBelow, ih]

end Randomness
end ControlComponent
