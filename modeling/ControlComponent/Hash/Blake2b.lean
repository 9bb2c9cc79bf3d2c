import ControlComponent.Bytes

/-!
BLAKE2b without a key: the digest of a byte string in 1 to 64 bytes.

The message is cut into blocks of 128 bytes, the last one filled with zeros; there is always one
block. Each block is mixed into a state of eight words through twelve rounds over sixteen words,
together with the number of message bytes so far and a mark on the last block.
-/

namespace ControlComponent.Hash.Blake2b

/-- The number of bytes in a block. -/
def blockSize : Nat := 128

/-- The state that every digest starts from, before its length is mixed in. -/
def initial : Array UInt64 :=
  #[0x6a09e667f3bcc908, 0xbb67ae8584caa73b, 0x3c6ef372fe94f82b, 0xa54ff53a5f1d36f1,
    0x510e527fade682d1, 0x9b05688c2b3e6c1f, 0x1f83d9abfb41bd6b, 0x5be0cd19137e2179]

/-- The order in which each of ten rounds takes the words of the message. -/
def orders : List (List Nat) :=
  [[0, 1, 2, 3, 4, 5, 6, 7, 8, 9, 10, 11, 12, 13, 14, 15],
   [14, 10, 4, 8, 9, 15, 13, 6, 1, 12, 0, 2, 11, 7, 5, 3],
   [11, 8, 12, 0, 5, 2, 15, 13, 10, 14, 3, 6, 7, 1, 9, 4],
   [7, 9, 3, 1, 13, 12, 11, 14, 2, 6, 5, 10, 4, 0, 15, 8],
   [9, 0, 5, 7, 2, 4, 10, 15, 14, 1, 11, 12, 6, 8, 3, 13],
   [2, 12, 6, 10, 0, 11, 8, 3, 4, 13, 7, 5, 15, 14, 1, 9],
   [12, 5, 1, 15, 14, 13, 4, 10, 0, 7, 6, 3, 9, 2, 8, 11],
   [13, 11, 7, 14, 12, 1, 3, 9, 5, 0, 15, 4, 8, 6, 2, 10],
   [6, 15, 14, 9, 11, 3, 0, 8, 12, 2, 13, 7, 1, 4, 10, 5],
   [10, 2, 8, 4, 7, 6, 1, 5, 15, 11, 9, 14, 3, 12, 13, 0]]

/-- A word rotated to the right. -/
@[inline] def rotate (x n : UInt64) : UInt64 := (x >>> n) ||| (x <<< (64 - n))

/-- The places of the state that each of the eight steps of a round mixes: first its columns, then
its diagonals. -/
def places : List (Nat × Nat × Nat × Nat) :=
  [(0, 4, 8, 12), (1, 5, 9, 13), (2, 6, 10, 14), (3, 7, 11, 15),
   (0, 5, 10, 15), (1, 6, 11, 12), (2, 7, 8, 13), (3, 4, 9, 14)]

/-- Four places of the state mixed with two words of the message. -/
def mix (v : Array UInt64) (at_ : Nat × Nat × Nat × Nat) (x y : UInt64) : Array UInt64 :=
  let (i, j, k, l) := at_
  let a := v.getD i 0 + v.getD j 0 + x
  let d := rotate (v.getD l 0 ^^^ a) 32
  let c := v.getD k 0 + d
  let b := rotate (v.getD j 0 ^^^ c) 24
  let a := a + b + y
  let d := rotate (d ^^^ a) 16
  let c := c + d
  let b := rotate (b ^^^ c) 63
  (((v.setIfInBounds i a).setIfInBounds j b).setIfInBounds k c).setIfInBounds l d

/-- One round, with the words of the message in that round's order. -/
def round (words : Array UInt64) (v : Array UInt64) (order : List Nat) : Array UInt64 :=
  let word (i : Nat) := words.getD (order.getD i 0) 0
  (places.zipIdx).foldl (fun v (place, i) => mix v place (word (2 * i)) (word (2 * i + 1))) v

/-- The words of a block, least significant byte first. -/
def words (block : Bytes) : Array UInt64 :=
  ((Bytes.pieces 8 (block ++ List.replicate (blockSize - block.length) 0)).map fun piece =>
    UInt64.ofNat (Bytes.toNatLE piece)).toArray

/-- The state after a block; `count` is the number of message bytes up to its end. -/
def compress (h : Array UInt64) (block : Bytes) (count : Nat) (last : Bool) : Array UInt64 :=
  let m := words block
  let tail := initial
    |>.modify 4 (· ^^^ UInt64.ofNat count)
    |>.modify 5 (· ^^^ UInt64.ofNat (count / 2 ^ 64))
    |>.modify 6 (fun w => if last then ~~~w else w)
  let v := (orders ++ orders.take 2).foldl (round m) (h ++ tail)
  ((List.range 8).map fun i => h.getD i 0 ^^^ v.getD i 0 ^^^ v.getD (i + 8) 0).toArray

/-- The state after the given blocks, of which the last one ends the message. -/
def absorb (h : Array UInt64) (count : Nat) : List Bytes → Array UInt64
  | [] => compress h [] count true
  | [block] => compress h block (count + block.length) true
  | block :: rest =>
    absorb (compress h block (count + block.length) false) (count + block.length) rest

/-- The digest of a message in `size` bytes, of which there are at most 64. -/
def digest (size : Nat) (message : Bytes) : Bytes :=
  let start := initial.modify 0 (· ^^^ (0x01010000 ^^^ UInt64.ofNat size))
  let state := absorb start 0 (Bytes.pieces blockSize message)
  (state.toList.flatMap fun w => Bytes.ofNatLE 8 w.toNat).take size

end ControlComponent.Hash.Blake2b
