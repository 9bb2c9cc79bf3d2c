import ControlComponent.Power

/-!
Byte strings, and the numbers and texts they carry.

A byte string is a list of bytes, most significant byte first wherever it stands for a number
unless a name says `LE`. `ofNat` writes a number in as few bytes as it needs, zero in one byte, so
that two numbers never share a written form (`toNat_ofNat`); `ofNatLE` and `ofNatBE` write into a
fixed width. Texts are their UTF-8 bytes.
-/

namespace ControlComponent

/-- A string of bytes. -/
abbrev Bytes := List UInt8

namespace Bytes

/-! ### Texts -/

/-- The UTF-8 bytes of a text. -/
def ofText (text : String) : Bytes := text.toByteArray.data.toList

/-- The text whose UTF-8 form these bytes are, if they are one. -/
def toText? (bytes : Bytes) : Option String := String.fromUTF8? ⟨bytes.toArray⟩

/-! ### Numbers -/

/-- The number that the bytes write, the first byte being the most significant one. -/
def toNat (bytes : Bytes) : Nat := bytes.foldl (fun n b => n * 256 + b.toNat) 0

/-- The number that the bytes write, the first byte being the least significant one. -/
def toNatLE : Bytes → Nat
  | [] => 0
  | b :: rest => b.toNat + 256 * toNatLE rest

/-- The last `width` bytes of a number, least significant byte first. -/
def ofNatLE : (width : Nat) → Nat → Bytes
  | 0, _ => []
  | width + 1, n => UInt8.ofNat n :: ofNatLE width (n / 256)

/-- The last `width` bytes of a number, most significant byte first. -/
def ofNatBE (width n : Nat) : Bytes := (ofNatLE width n).reverse

/-- The number of bytes that `ofNat` needs: one for zero, otherwise as many as are not zero. -/
def widthOf (n : Nat) : Nat := n.log2 / 8 + 1

/-- A number in as few bytes as it needs, most significant byte first. -/
def ofNat (n : Nat) : Bytes := ofNatBE (widthOf n) n

@[simp] theorem length_ofNatLE (width n : Nat) : (ofNatLE width n).length = width := by
  induction width generalizing n with
  | zero => rfl
  | succ width ih => simp [ofNatLE, ih]

@[simp] theorem length_ofNatBE (width n : Nat) : (ofNatBE width n).length = width := by
  simp [ofNatBE]

theorem toNatLE_ofNatLE (width n : Nat) : toNatLE (ofNatLE width n) = n % 256 ^ width := by
  induction width generalizing n with
  | zero => simp [ofNatLE, toNatLE, Nat.mod_one]
  | succ width ih =>
    have h : (UInt8.ofNat n).toNat = n % 256 := UInt8.toNat_ofNat'
    rw [ofNatLE, toNatLE, ih, h, Nat.pow_succ', Nat.mod_mul]

/-- A number in a fixed width reads as the number, if it fits. -/
theorem toNat_ofNatBE (width n : Nat) : toNat (ofNatBE width n) = n % 256 ^ width := by
  have reversed : ∀ bytes : Bytes, toNat bytes.reverse = toNatLE bytes := by
    intro bytes
    rw [toNat, List.foldl_reverse]
    induction bytes with
    | nil => rfl
    | cons b rest ih => rw [List.foldr_cons, ih, toNatLE]; omega
  rw [ofNatBE, reversed, toNatLE_ofNatLE]

/-- The bytes that a number is written in have room for it. -/
theorem lt_pow_widthOf (n : Nat) : n < 256 ^ widthOf n := by
  have below : n < 2 ^ (n.log2 + 1) := Nat.lt_log2_self
  have wide : n.log2 + 1 ≤ 8 * widthOf n := by
    unfold widthOf
    omega
  calc n < 2 ^ (n.log2 + 1) := below
    _ ≤ 2 ^ (8 * widthOf n) := Nat.pow_le_pow_right Nat.zero_lt_two wide
    _ = 256 ^ widthOf n := Nat.pow_mul 2 8 (widthOf n)

/-- A written number reads as the number. -/
theorem toNat_ofNat (n : Nat) : toNat (ofNat n) = n := by
  rw [ofNat, toNat_ofNatBE, Nat.mod_eq_of_lt (lt_pow_widthOf n)]

/-- Numbers with the same bytes are the same. -/
theorem ofNat_inj {m n : Nat} : ofNat m = ofNat n ↔ m = n := by
  constructor
  · intro same
    rw [← toNat_ofNat m, same, toNat_ofNat]
  · rintro rfl
    rfl

/-! ### Parts -/

/-- The bytes in pieces of `size`, the last piece holding what is left; at most `count` pieces. -/
def piecesUpTo (size : Nat) : (count : Nat) → Bytes → List Bytes
  | 0, _ => []
  | _ + 1, [] => []
  | count + 1, bytes => bytes.take size :: piecesUpTo size count (bytes.drop size)

/-- The bytes in pieces of `size`, the last piece holding what is left. -/
def pieces (size : Nat) (bytes : Bytes) : List Bytes :=
  piecesUpTo size bytes.length bytes

/-- Byte by byte exclusive or, as long as the shorter of the two. -/
def xor (a b : Bytes) : Bytes := List.zipWith (· ^^^ ·) a b

end Bytes
end ControlComponent
