import ControlComponent.Hash.Blake2b

/-!
Argon2i, version 1.3, with one lane and neither secret nor associated data: a digest of a password
and a salt that takes a chosen amount of memory to compute.

Memory is a row of blocks of 1024 bytes. The first two come from the inputs; every later one is
mixed from the block before it and an earlier one, whose place depends on the position alone. The
memory is filled several times over, and the last block is condensed into the digest.
-/

namespace ControlComponent.Derivation.Argon2i

open Hash

/-! ### Blocks -/

/-- Sixteen words: an eighth of a block. -/
structure Row where
  w0 : UInt64
  w1 : UInt64
  w2 : UInt64
  w3 : UInt64
  w4 : UInt64
  w5 : UInt64
  w6 : UInt64
  w7 : UInt64
  w8 : UInt64
  w9 : UInt64
  w10 : UInt64
  w11 : UInt64
  w12 : UInt64
  w13 : UInt64
  w14 : UInt64
  w15 : UInt64

/-- A block of memory: 128 words in eight rows. -/
structure Block where
  r0 : Row
  r1 : Row
  r2 : Row
  r3 : Row
  r4 : Row
  r5 : Row
  r6 : Row
  r7 : Row

namespace Row

/-- Sixteen zero words. -/
def zero : Row := ⟨0, 0, 0, 0, 0, 0, 0, 0, 0, 0, 0, 0, 0, 0, 0, 0⟩

/-- Word by word exclusive or. -/
def xor (a b : Row) : Row :=
  ⟨a.w0 ^^^ b.w0, a.w1 ^^^ b.w1, a.w2 ^^^ b.w2, a.w3 ^^^ b.w3, a.w4 ^^^ b.w4, a.w5 ^^^ b.w5,
  a.w6 ^^^ b.w6, a.w7 ^^^ b.w7, a.w8 ^^^ b.w8, a.w9 ^^^ b.w9, a.w10 ^^^ b.w10, a.w11 ^^^ b.w11,
  a.w12 ^^^ b.w12, a.w13 ^^^ b.w13, a.w14 ^^^ b.w14, a.w15 ^^^ b.w15⟩

/-- The word at a place below sixteen. -/
def word (r : Row) : Nat → UInt64
  | 0 => r.w0
  | 1 => r.w1
  | 2 => r.w2
  | 3 => r.w3
  | 4 => r.w4
  | 5 => r.w5
  | 6 => r.w6
  | 7 => r.w7
  | 8 => r.w8
  | 9 => r.w9
  | 10 => r.w10
  | 11 => r.w11
  | 12 => r.w12
  | 13 => r.w13
  | 14 => r.w14
  | _ => r.w15

/-- The row that sixteen words make. -/
def ofWords (w : Array UInt64) : Row :=
  let g (i : Nat) := w.getD i 0
  ⟨g 0, g 1, g 2, g 3, g 4, g 5, g 6, g 7, g 8, g 9, g 10, g 11, g 12, g 13, g 14, g 15⟩

/-- The words of a row in order. -/
def toList (r : Row) : List UInt64 := (List.range 16).map r.word

/-- The sum of two words and of twice the product of their lower halves. -/
@[inline] def add (x y : UInt64) : UInt64 := x + y + 2 * (x &&& 0xffffffff) * (y &&& 0xffffffff)

/-- Four words mixed, and handed on. -/
@[inline] def blend {α : Type} (a b c d : UInt64) (use : UInt64 → UInt64 → UInt64 → UInt64 → α) :
    α :=
  let a := add a b
  let d := Blake2b.rotate (d ^^^ a) 32
  let c := add c d
  let b := Blake2b.rotate (b ^^^ c) 24
  let a := add a b
  let d := Blake2b.rotate (d ^^^ a) 16
  let c := add c d
  let b := Blake2b.rotate (b ^^^ c) 63
  use a b c d

/-- Sixteen words mixed as a square of four by four, by columns and then by diagonals. -/
def permute (r : Row) : Row :=
  blend r.w0 r.w4 r.w8 r.w12 fun w0 w4 w8 w12 =>
  blend r.w1 r.w5 r.w9 r.w13 fun w1 w5 w9 w13 =>
  blend r.w2 r.w6 r.w10 r.w14 fun w2 w6 w10 w14 =>
  blend r.w3 r.w7 r.w11 r.w15 fun w3 w7 w11 w15 =>
  blend w0 w5 w10 w15 fun w0 w5 w10 w15 =>
  blend w1 w6 w11 w12 fun w1 w6 w11 w12 =>
  blend w2 w7 w8 w13 fun w2 w7 w8 w13 =>
  blend w3 w4 w9 w14 fun w3 w4 w9 w14 =>
  ⟨w0, w1, w2, w3, w4, w5, w6, w7, w8, w9, w10, w11, w12, w13, w14, w15⟩

end Row

namespace Block

/-- A block of zeros. -/
def zero : Block := ⟨Row.zero, Row.zero, Row.zero, Row.zero, Row.zero, Row.zero, Row.zero, Row.zero⟩

/-- A function applied to every row. -/
@[inline] def map (f : Row → Row) (b : Block) : Block :=
  ⟨f b.r0, f b.r1, f b.r2, f b.r3, f b.r4, f b.r5, f b.r6, f b.r7⟩

/-- Word by word exclusive or. -/
def xor (a b : Block) : Block :=
  ⟨a.r0.xor b.r0, a.r1.xor b.r1, a.r2.xor b.r2, a.r3.xor b.r3, a.r4.xor b.r4, a.r5.xor b.r5,
  a.r6.xor b.r6, a.r7.xor b.r7⟩

/-- The rows and the columns of pairs of words exchanged. -/
def turn (b : Block) : Block :=
  ⟨⟨b.r0.w0, b.r0.w1, b.r1.w0, b.r1.w1, b.r2.w0, b.r2.w1, b.r3.w0, b.r3.w1,
    b.r4.w0, b.r4.w1, b.r5.w0, b.r5.w1, b.r6.w0, b.r6.w1, b.r7.w0, b.r7.w1⟩,
   ⟨b.r0.w2, b.r0.w3, b.r1.w2, b.r1.w3, b.r2.w2, b.r2.w3, b.r3.w2, b.r3.w3,
    b.r4.w2, b.r4.w3, b.r5.w2, b.r5.w3, b.r6.w2, b.r6.w3, b.r7.w2, b.r7.w3⟩,
   ⟨b.r0.w4, b.r0.w5, b.r1.w4, b.r1.w5, b.r2.w4, b.r2.w5, b.r3.w4, b.r3.w5,
    b.r4.w4, b.r4.w5, b.r5.w4, b.r5.w5, b.r6.w4, b.r6.w5, b.r7.w4, b.r7.w5⟩,
   ⟨b.r0.w6, b.r0.w7, b.r1.w6, b.r1.w7, b.r2.w6, b.r2.w7, b.r3.w6, b.r3.w7,
    b.r4.w6, b.r4.w7, b.r5.w6, b.r5.w7, b.r6.w6, b.r6.w7, b.r7.w6, b.r7.w7⟩,
   ⟨b.r0.w8, b.r0.w9, b.r1.w8, b.r1.w9, b.r2.w8, b.r2.w9, b.r3.w8, b.r3.w9,
    b.r4.w8, b.r4.w9, b.r5.w8, b.r5.w9, b.r6.w8, b.r6.w9, b.r7.w8, b.r7.w9⟩,
   ⟨b.r0.w10, b.r0.w11, b.r1.w10, b.r1.w11, b.r2.w10, b.r2.w11, b.r3.w10, b.r3.w11,
    b.r4.w10, b.r4.w11, b.r5.w10, b.r5.w11, b.r6.w10, b.r6.w11, b.r7.w10, b.r7.w11⟩,
   ⟨b.r0.w12, b.r0.w13, b.r1.w12, b.r1.w13, b.r2.w12, b.r2.w13, b.r3.w12, b.r3.w13,
    b.r4.w12, b.r4.w13, b.r5.w12, b.r5.w13, b.r6.w12, b.r6.w13, b.r7.w12, b.r7.w13⟩,
   ⟨b.r0.w14, b.r0.w15, b.r1.w14, b.r1.w15, b.r2.w14, b.r2.w15, b.r3.w14, b.r3.w15,
    b.r4.w14, b.r4.w15, b.r5.w14, b.r5.w15, b.r6.w14, b.r6.w15, b.r7.w14, b.r7.w15⟩⟩

/-- The rows of a block in order. -/
def rows (b : Block) : List Row := [b.r0, b.r1, b.r2, b.r3, b.r4, b.r5, b.r6, b.r7]

/-- The word at a place below 128. -/
def word (b : Block) (i : Nat) : UInt64 := (b.rows.getD (i / 16) Row.zero).word (i % 16)

/-- The block that 1024 bytes write, least significant bytes first. -/
def ofBytes (bytes : Bytes) : Block :=
  let words := (Bytes.pieces 8 bytes).map fun piece => UInt64.ofNat (Bytes.toNatLE piece)
  let row (i : Nat) := Row.ofWords ((words.drop (16 * i)).take 16).toArray
  ⟨row 0, row 1, row 2, row 3, row 4, row 5, row 6, row 7⟩

/-- The bytes of a block. -/
def toBytes (b : Block) : Bytes :=
  b.rows.flatMap fun r => r.toList.flatMap fun w => Bytes.ofNatLE 8 w.toNat

/-- Two blocks mixed into one: their difference, mixed by rows and by columns, and added back. -/
def mix (a b : Block) : Block :=
  let r := a.xor b
  ((r.map Row.permute).turn.map Row.permute).turn.xor r

end Block

/-! ### Memory -/

/-- How costly a digest is: the number of memory blocks, a multiple of four of at least eight, and
how many times they are filled. -/
structure Cost where
  blocks : Nat
  passes : Nat

/-- The number of blocks in a slice, a quarter of the memory. -/
def Cost.sliceSize (cost : Cost) : Nat := cost.blocks / 4

/-- A number in four bytes, least significant byte first. -/
def word32 (n : Nat) : Bytes := Bytes.ofNatLE 4 n

/-- The digest of the parameters, the password and the salt that the memory grows from. -/
def seed (cost : Cost) (length : Nat) (password salt : Bytes) : Bytes :=
  Blake2b.digest 64 <|
    [1, length, cost.blocks, cost.passes, 0x13, 1].flatMap word32 ++
      word32 password.length ++ password ++ word32 salt.length ++ salt ++ word32 0 ++ word32 0

/-- Digests of digests, 32 bytes of each, until at most 64 bytes are missing; these come whole. -/
def chain (previous : Bytes) (missing : Nat) : (fuel : Nat) → Bytes
  | 0 => []
  | fuel + 1 =>
    if missing ≤ 64 then Blake2b.digest missing previous
    else
      let next := Blake2b.digest 64 previous
      next.take 32 ++ chain next (missing - 32) fuel

/-- A digest of any length. -/
def longDigest (length : Nat) (input : Bytes) : Bytes :=
  let input := word32 length ++ input
  if length ≤ 64 then Blake2b.digest length input
  else
    let first := Blake2b.digest 64 input
    first.take 32 ++ chain first (length - 32) length

/-- The block of pseudo-random words that places `128 * (counter - 1)` onward of a slice use. -/
def addresses (cost : Cost) (pass slice counter : Nat) : Block :=
  let words := [pass, 0, slice, cost.blocks, cost.passes, 1, counter].map UInt64.ofNat
  let input := { Block.zero with r0 := Row.ofWords words.toArray }
  Block.zero.mix (Block.zero.mix input)

/-- The place of the earlier block that a pseudo-random word chooses for place `index` of a
slice. -/
def reference (cost : Cost) (pass slice index : Nat) (random : UInt64) : Nat :=
  let area :=
    if pass = 0 then slice * cost.sliceSize + index - 1
    else cost.blocks - cost.sliceSize + index - 1
  let x := random.toNat % 2 ^ 32
  let back := area * (x * x / 2 ^ 32) / 2 ^ 32
  let start := if pass = 0 ∨ slice = 3 then 0 else (slice + 1) * cost.sliceSize
  (start + (area - 1 - back)) % cost.blocks

/-- The memory after one block of a slice has been filled. -/
def fillBlock (cost : Cost) (pass slice : Nat) (randoms : Block) (memory : Array Block)
    (index : Nat) : Array Block :=
  let place := slice * cost.sliceSize + index
  if pass = 0 ∧ place < 2 then memory
  else
    let before := if place = 0 then cost.blocks - 1 else place - 1
    let other := reference cost pass slice index (randoms.word (index % 128))
    let mixed := (memory.getD before Block.zero).mix (memory.getD other Block.zero)
    if pass = 0 then memory.setIfInBounds place mixed
    else memory.setIfInBounds place ((memory.getD place Block.zero).xor mixed)

/-- The memory after a slice has been filled. -/
def fillSlice (cost : Cost) (pass : Nat) (memory : Array Block) (slice : Nat) : Array Block :=
  (List.range ((cost.sliceSize + 127) / 128)).foldl (fun memory group =>
    let randoms := addresses cost pass slice (group + 1)
    let count := min 128 (cost.sliceSize - 128 * group)
    (List.range count).foldl (fun memory i =>
      fillBlock cost pass slice randoms memory (128 * group + i)) memory) memory

/-- The memory after a pass. -/
def fillPass (cost : Cost) (memory : Array Block) (pass : Nat) : Array Block :=
  [0, 1, 2, 3].foldl (fillSlice cost pass) memory

/-- The memory with its first two blocks set. -/
def start (cost : Cost) (seed : Bytes) : Array Block :=
  let first (i : Nat) := Block.ofBytes (longDigest 1024 (seed ++ word32 i ++ word32 0))
  ((Array.replicate cost.blocks Block.zero).setIfInBounds 0 (first 0)).setIfInBounds 1 (first 1)

/-- The digest of a password and a salt in `length` bytes. -/
def derive (cost : Cost) (length : Nat) (password salt : Bytes) : Bytes :=
  let memory := start cost (seed cost length password salt)
  let memory := (List.range cost.passes).foldl (fillPass cost) memory
  longDigest length (memory.getD (cost.blocks - 1) Block.zero).toBytes

end ControlComponent.Derivation.Argon2i
