import ControlComponent.Cipher.Aes

/-!
AES-256-GCM without associated data: a cipher whose texts carry a tag of sixteen bytes, so that a
wrong key or a changed text is noticed. Encryption adds the key stream to the text and the tag to
its end; decryption recomputes the tag and answers only when it agrees.
-/

namespace ControlComponent.Cipher.Gcm

/-- The number of bytes in a tag. -/
def tagSize : Nat := 16

/-- The number of bytes in a nonce. -/
def nonceSize : Nat := 12

/-! ### The tag -/

/-- The bits of `x` from position `i` down, each adding its multiple of `v`: the product of two
polynomials over two elements modulo `x^128 + x^7 + x^2 + x + 1`, lowest power in the highest
bit. -/
def multiplyFrom (x : Nat) : (i : Nat) → (product v : Nat) → Nat
  | 0, product, _ => product
  | i + 1, product, v =>
    let product := if x.testBit i then product ^^^ v else product
    let v := if v.testBit 0 then (v >>> 1) ^^^ (0xe1 <<< 120) else v >>> 1
    multiplyFrom x i product v

/-- The product of two elements of the field of 2^128 elements. -/
def multiply (x y : Nat) : Nat := multiplyFrom x 128 0 y

/-- A block filled with zeros at its end, as a field element. -/
def element (block : Bytes) : Nat :=
  Bytes.toNat (block ++ List.replicate (16 - block.length) 0)

/-- The value of the polynomial whose coefficients are the blocks of a text and its bit length. -/
def hash (h : Nat) (text : Bytes) : Nat :=
  let sum := (Bytes.pieces 16 text).foldl (fun y block => multiply (y ^^^ element block) h) 0
  multiply (sum ^^^ (8 * text.length)) h

/-! ### The cipher -/

/-- The block that the key stream's block of the given number is permuted from. -/
def counterBlock (nonce : Bytes) (counter : Nat) : Bytes := nonce ++ Bytes.ofNatBE 4 counter

/-- The text with the key stream added, from the block of the given number on. -/
def stream (keys : List Bytes) (nonce : Bytes) (counter : Nat) : List Bytes → Bytes
  | [] => []
  | block :: rest =>
    Bytes.xor block (Aes.permute keys (counterBlock nonce counter)) ++
      stream keys nonce (counter + 1) rest

/-- A text with the key stream added; adding it twice gives the text back. -/
def addStream (keys : List Bytes) (nonce text : Bytes) : Bytes :=
  stream keys nonce 2 (Bytes.pieces 16 text)

/-- The tag of an encrypted text. -/
def tag (keys : List Bytes) (nonce encrypted : Bytes) : Bytes :=
  let h := Bytes.toNat (Aes.permute keys (List.replicate 16 0))
  Bytes.xor (Aes.permute keys (counterBlock nonce 1)) (Bytes.ofNatBE 16 (hash h encrypted))

/-- A text encrypted under a key of 32 bytes and a nonce of twelve, with its tag. -/
def encrypt (key nonce text : Bytes) : Bytes :=
  let keys := Aes.roundKeys key
  let encrypted := addStream keys nonce text
  encrypted ++ tag keys nonce encrypted

/-- The text that was encrypted, if the tag agrees. -/
def decrypt? (key nonce sealed_ : Bytes) : Option Bytes :=
  let keys := Aes.roundKeys key
  let encrypted := sealed_.take (sealed_.length - tagSize)
  if tagSize ≤ sealed_.length ∧ sealed_.drop (sealed_.length - tagSize) = tag keys nonce encrypted
  then some (addStream keys nonce encrypted)
  else none

end ControlComponent.Cipher.Gcm
