import ControlComponent.Bytes
import ControlComponent.Modular

/-!
The points of the twisted Edwards curve `-x² + y² = 1 + d·x²·y²` over the integers modulo `2^255 -
19`, and their encoding in 32 bytes.

A point is kept in four coordinates with `x = X/Z`, `y = Y/Z` and `X·Y = Z·T`, so that addition
needs no division. Decoding takes the low 255 bits as `y`, reduced if they are too large, and finds
the `x` whose parity is the highest bit; a `y` without an `x` is refused.
-/

namespace ControlComponent.Signature.Edwards

/-! ### The field -/

/-- The prime that coordinates are taken modulo. -/
def prime : Nat := 2 ^ 255 - 19

/-- The curve's coefficient. -/
def coefficient : Nat :=
  37095705934669439343138083508754565189542113879843219016388785533085940283555

/-- A square root of minus one. -/
def rootOfMinusOne : Nat :=
  19681161376707505956807079304988542015446066515923890162744021073123829784752

/-- The difference of two reduced numbers. -/
@[inline] def sub (a b : Nat) : Nat := (a + (prime - b)) % prime

/-- The product of two numbers. -/
@[inline] def mul (a b : Nat) : Nat := a * b % prime

/-- The inverse of a number other than zero. -/
def inverse (a : Nat) : Nat := Modular.power a (prime - 2) prime

/-! ### Points -/

/-- A point of the curve. -/
structure Point where
  x : Nat
  y : Nat
  z : Nat
  t : Nat

namespace Point

/-- The neutral point. -/
def zero : Point := ⟨0, 1, 1, 0⟩

/-- The sum of two points. -/
def add (p q : Point) : Point :=
  let a := mul (sub p.y p.x) (sub q.y q.x)
  let b := mul (p.y + p.x) (q.y + q.x)
  let c := mul (mul p.t q.t) (2 * coefficient)
  let d := mul (2 * p.z) q.z
  let e := sub b a
  let f := sub d c
  let g := d + c
  let h := b + a
  ⟨mul e f, mul g h, mul f g, mul e h⟩

/-- A point added to itself. -/
def double (p : Point) : Point :=
  let a := mul p.x p.x
  let b := mul p.y p.y
  let c := 2 * mul p.z p.z
  let h := a + b
  let s := p.x + p.y
  let e := sub (h % prime) (mul s s)
  let g := sub a b
  let f := (c + g) % prime
  ⟨mul e f, mul g h, mul f g, mul e h⟩

/-- The opposite of a point. -/
def neg (p : Point) : Point := ⟨sub 0 p.x, p.y, p.z, sub 0 p.t⟩

/-- The bits of a scalar from position `i` down, applied to a multiple of `p`. -/
def scaleFrom (p : Point) (n : Nat) : (i : Nat) → Point → Point
  | 0, acc => acc
  | i + 1, acc =>
    let twice := acc.double
    scaleFrom p n i (if n.testBit i then twice.add p else twice)

/-- A point added to itself `n` times. -/
def scale (n : Nat) (p : Point) : Point := scaleFrom p n (n.log2 + 1) zero

/-- Whether two points are the same. -/
def same (p q : Point) : Bool :=
  mul p.x q.z == mul q.x p.z && mul p.y q.z == mul q.y p.z

/-- Whether a point's order divides eight, the cofactor of the curve. -/
def isSmallOrder (p : Point) : Bool := same p.double.double.double zero

/-! ### Encoding -/

/-- The 32 bytes of a point: its `y`, and the parity of its `x` in the highest bit. -/
def encode (p : Point) : Bytes :=
  let w := inverse p.z
  let x := mul p.x w
  let y := mul p.y w
  Bytes.ofNatLE 32 (y + 2 ^ 255 * (x % 2))

/-- A square root of `u / v`, if there is one. -/
def rootOfRatio? (u v : Nat) : Option Nat :=
  let v3 := mul (mul v v) v
  let v7 := mul (mul v3 v3) v
  let r := mul (mul u v3) (Modular.power (mul u v7) ((prime - 5) / 8) prime)
  let check := mul v (mul r r)
  if check = u then some r
  else if check = sub 0 u then some (mul r rootOfMinusOne)
  else none

/-- The point that 32 bytes encode, if they do. -/
def decode? (bytes : Bytes) : Option Point :=
  let n := Bytes.toNatLE bytes
  let y := n % 2 ^ 255 % prime
  let square := mul y y
  (rootOfRatio? (sub square 1) (mul coefficient square + 1)).map fun x =>
    let x := if x % 2 = n / 2 ^ 255 % 2 then x else sub 0 x
    ⟨x, y, 1, mul x y⟩

end Point

/-! ### The base point -/

/-- The order of the base point. -/
def order : Nat := 2 ^ 252 + 27742317777372353535851937790883648493

/-- The point that keys and signatures are multiples of. -/
def base : Point :=
  let x := 15112221349535400772501151409588531511454012693041857206046113283949847762202
  let y := 46316835694926478169428394003475163141307993866256225615783033603165251855960
  ⟨x, y, 1, mul x y⟩

end ControlComponent.Signature.Edwards
