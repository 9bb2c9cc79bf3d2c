import ControlComponent.Wire.Document

/-!
CBOR, as bytes.

Writing uses definite lengths and the shortest form of every length and number. Reading also takes
longer forms, indefinite lengths and semantic tags, and nests less than 128 containers and tags.
-/

namespace ControlComponent.Wire.Cbor

/-! ### Writing -/

/-- The bytes that a number below 2^64 needs behind the first byte of a head. -/
def width (n : Nat) : Nat :=
  if n < 24 then 0
  else if n < 2 ^ 8 then 1
  else if n < 2 ^ 16 then 2
  else if n < 2 ^ 32 then 4
  else 8

/-- The head of an item: its kind, from 0 to 7, and a number below 2^64 in its shortest form. -/
def head (kind : UInt8) (n : Nat) : Bytes :=
  let first (x : Nat) : UInt8 := kind * 32 + UInt8.ofNat x
  match width n with
  | 0 => [first n]
  | 1 => first 24 :: Bytes.ofNatBE 1 n
  | 2 => first 25 :: Bytes.ofNatBE 2 n
  | 4 => first 26 :: Bytes.ofNatBE 4 n
  | _ => first 27 :: Bytes.ofNatBE 8 n

/-- A text with its length in front. -/
def writeText (text : String) : Bytes :=
  let bytes := Bytes.ofText text
  head 3 bytes.length ++ bytes

mutual

/-- A value in its one written form. -/
def write : Data → Bytes
  | .null => [0xf6]
  | .bool b => [if b then 0xf5 else 0xf4]
  | .nat n => head 0 n
  | .text s => writeText s
  | .bytes b => head 2 b.length ++ b
  | .list items => head 4 items.length ++ writeItems items
  | .record fields => head 5 fields.length ++ writeFields fields

/-- Items one after another. -/
def writeItems : List Data → Bytes
  | [] => []
  | item :: items => write item ++ writeItems items

/-- Fields one after another, each behind its name. -/
def writeFields : List (String × Data) → Bytes
  | [] => []
  | (name, value) :: fields => writeText name ++ write value ++ writeFields fields

end

/-! ### Reading -/

/-- The number in the head of an item: a value and the bytes it took behind the first one, or the
mark of an indefinite length. -/
inductive Argument where
  | value (n width : Nat)
  | indefinite

/-- Whether the number took as few bytes as it needs. -/
def Argument.isShortest : Argument → Bool
  | .value n taken => taken == width n
  | .indefinite => false

/-- The length of a list or map that is left behind its first item or entry. -/
def Argument.next : Argument → Argument
  | .value n width => .value (n - 1) width
  | .indefinite => .indefinite

/-- The argument of a head whose low five bits are given, and what is left behind it. -/
def argument? (low : UInt8) (rest : Bytes) : Option (Argument × Bytes) :=
  let wide (width : Nat) : Option (Argument × Bytes) :=
    if width ≤ rest.length then some (.value (Bytes.toNat (rest.take width)) width, rest.drop width)
    else none
  if low < 24 then some (.value low.toNat 0, rest)
  else if low = 24 then wide 1
  else if low = 25 then wide 2
  else if low = 26 then wide 4
  else if low = 27 then wide 8
  else if low = 31 then some (.indefinite, rest)
  else none

/-- The chunks of a string of indefinite length up to its end, each a definite string of the given
kind. -/
def chunks (kind : UInt8) : (fuel : Nat) → Bytes → Option (Bytes × Bytes)
  | 0, _ => none
  | _ + 1, [] => none
  | fuel + 1, first :: rest =>
    if first = 0xff then some ([], rest)
    else if first / 32 = kind then
      match argument? (first % 32) rest with
      | some (.value n _, rest) =>
        if n ≤ rest.length then
          (chunks kind fuel (rest.drop n)).map fun (bytes, left) => (rest.take n ++ bytes, left)
        else none
      | _ => none
    else none

/-- The bytes of a string of the given kind, and what is left behind it. -/
def string? (kind : UInt8) : Argument → Bytes → Option (Bytes × Bytes)
  | .value n _, rest => if n ≤ rest.length then some (rest.take n, rest.drop n) else none
  | .indefinite, rest => chunks kind (rest.length + 1) rest

/-- A value without parts, of kind 7. -/
def simple (low : UInt8) (rest : Bytes) : Document × Bytes :=
  let skip (width : Nat) : Document × Bytes :=
    if width ≤ rest.length then (.real true, rest.drop width) else (.broken, [])
  if low = 20 then (.bool false, rest)
  else if low = 21 then (.bool true, rest)
  else if low = 22 then (.null, rest)
  else if low = 23 then (.undefined, rest)
  else if low = 25 then skip 2
  else if low = 26 then skip 4
  else if low = 27 then skip 8
  else (.broken, [])

mutual

/-- The document that bytes begin with, and the bytes behind it. At most `depth - 1` containers and
tags may be entered. -/
def document : (fuel depth : Nat) → Bytes → Document × Bytes
  | 0, _, _ => (.broken, [])
  | _ + 1, _, [] => (.broken, [])
  | fuel + 1, depth, first :: rest =>
    let kind := first / 32
    if kind = 7 then simple (first % 32) rest
    else
      match argument? (first % 32) rest with
      | none => (.broken, [])
      | some (argument, rest) =>
        if kind = 0 then
          match argument with
          | .value n width => (.int n width, rest)
          | .indefinite => (.broken, [])
        else if kind = 1 then
          match argument with
          | .value n width =>
            (if n < 2 ^ 63 then .int (-1 - (n : Int)) width else .real false, rest)
          | .indefinite => (.broken, [])
        else if kind = 2 then
          match string? 2 argument rest with
          | some (bytes, rest) => (.bytes bytes, rest)
          | none => (.broken, [])
        else if kind = 3 then
          match string? 3 argument rest with
          | some (bytes, rest) =>
            match Bytes.toText? bytes with
            | some s => (.text (some s), rest)
            | none => (.broken, [])
          | none => (.broken, [])
        else if depth ≤ 1 then (.broken, [])
        else if kind = 4 then
          let (ds, rest) := items fuel (depth - 1) argument rest
          (.list ds, rest)
        else if kind = 5 then
          let (es, rest) := entries fuel (depth - 1) argument rest
          (if argument.isShortest then .map es else .marked (.map es), rest)
        else
          match argument with
          | .value _ _ =>
            let (d, rest) := document fuel (depth - 1) rest
            (.marked d, rest)
          | .indefinite => (.broken, [])

/-- The items of a list: as many as its length says, or up to its end. -/
def items : (fuel depth : Nat) → Argument → Bytes → List Document × Bytes
  | _, _, .value 0 _, rest => ([], rest)
  | _, _, .indefinite, 0xff :: rest => ([], rest)
  | 0, _, _, _ => ([.broken], [])
  | _ + 1, _, _, [] => ([.broken], [])
  | fuel + 1, depth, length, bytes =>
    let (d, rest) := document fuel depth bytes
    let (ds, rest) := items fuel depth length.next rest
    (d :: ds, rest)

/-- The entries of a map: as many as its length says, or up to its end. -/
def entries : (fuel depth : Nat) → Argument → Bytes → List (Document × Document) × Bytes
  | _, _, .value 0 _, rest => ([], rest)
  | _, _, .indefinite, 0xff :: rest => ([], rest)
  | 0, _, _, _ => ([(.broken, .broken)], [])
  | _ + 1, _, _, [] => ([(.broken, .broken)], [])
  | fuel + 1, depth, length, bytes =>
    let (k, rest) := document fuel depth bytes
    let (v, rest) := document fuel depth rest
    let (es, rest) := entries fuel depth length.next rest
    ((k, v) :: es, rest)

end

/-- How deep containers and tags may nest, counting one more. -/
def depthLimit : Nat := 128

/-- What bytes read as. -/
def read (bytes : Bytes) : Reading :=
  let (d, rest) := document (2 * bytes.length + 1) depthLimit bytes
  ⟨d, rest.isEmpty⟩

end ControlComponent.Wire.Cbor
