import ControlComponent.Hash.Sha256

/-!
HMAC and HKDF over SHA-256: a keyed digest of a byte string, and the expansion of key material into
a byte string of a wanted length. The expansion has no salt and no context here, so its output is a
function of the key material and the length alone, and shorter outputs begin longer ones.
-/

namespace ControlComponent.Derivation

open Hash

/-- A key brought to the size of a hash block: hashed if it is longer, then filled with zeros. -/
def Hmac.blockKey (key : Bytes) : Bytes :=
  let key := if key.length ≤ Sha256.blockSize then key else Sha256.digest key
  key ++ List.replicate (Sha256.blockSize - key.length) 0

/-- The HMAC-SHA-256 of a message under a key. -/
def Hmac.digest (key message : Bytes) : Bytes :=
  let key := blockKey key
  let inner := Sha256.digest (key.map (· ^^^ 0x36) ++ message)
  Sha256.digest (key.map (· ^^^ 0x5c) ++ inner)

namespace Hkdf

/-- The longest output there is: 255 digests. -/
def maxLength : Nat := 255 * Sha256.digestSize

/-- The key that the key material is condensed into, with no salt. -/
def extract (material : Bytes) : Bytes :=
  Hmac.digest (List.replicate Sha256.digestSize 0) material

/-- The output from the block of number `index` on, `count` blocks of it. -/
def blocksFrom (key previous : Bytes) (index : UInt8) : (count : Nat) → Bytes
  | 0 => []
  | count + 1 =>
    let block := Hmac.digest key (previous ++ [index])
    block ++ blocksFrom key block (index + 1) count

/-- The first `length` bytes of output for a key. -/
def expand (key : Bytes) (length : Nat) : Bytes :=
  let count := (length + Sha256.digestSize - 1) / Sha256.digestSize
  (blocksFrom key [] 1 count).take length

@[simp] theorem Hmac.length_digest (key message : Bytes) :
    (Hmac.digest key message).length = 32 := by
  simp [Hmac.digest, Sha256.digestSize]

theorem length_blocksFrom (key previous : Bytes) (index : UInt8) (count : Nat) :
    (blocksFrom key previous index count).length = 32 * count := by
  induction count generalizing previous index with
  | zero => rfl
  | succ count ih => simp [blocksFrom, ih]; omega

/-- The output has the wanted length. -/
theorem length_expand (key : Bytes) (length : Nat) : (expand key length).length = length := by
  simp only [expand, List.length_take, length_blocksFrom, Sha256.digestSize]
  omega

end Hkdf
end ControlComponent.Derivation
