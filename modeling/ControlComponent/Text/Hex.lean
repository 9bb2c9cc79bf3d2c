import ControlComponent.Bytes

/-!
Hexadecimal text: two digits a byte. Writing uses lower-case digits; reading takes either case and
says what is wrong with a text it refuses.
-/

namespace ControlComponent.Text.Hex

/-- The digit of a number below sixteen. -/
def digit (n : UInt8) : UInt8 := if n < 10 then 48 + n else 87 + n

/-- The value of a hexadecimal digit of either case. -/
def value? (c : UInt8) : Option UInt8 :=
  if 48 ≤ c ∧ c ≤ 57 then some (c - 48)
  else if 97 ≤ c ∧ c ≤ 102 then some (c - 87)
  else if 65 ≤ c ∧ c ≤ 70 then some (c - 55)
  else none

/-- The digits of a byte string. -/
def digits : Bytes → Bytes
  | [] => []
  | b :: rest => digit (b >>> 4) :: digit (b &&& 15) :: digits rest

/-- A byte string as lower-case hexadecimal text. -/
def encode (bytes : Bytes) : String :=
  String.ofList ((digits bytes).map fun d => Char.ofNat d.toNat)

/-- Why a text is not hexadecimal. A digit is named by the byte that stands in its place. -/
inductive Fault where
  | oddLength
  | badDigit (byte : UInt8) (position : Nat)
deriving DecidableEq

/-- The bytes that the digits write, counting positions from `start`. -/
def decodeDigits (start : Nat) : Bytes → Except Fault Bytes
  | [] => .ok []
  | [_] => .error .oddLength
  | high :: low :: rest =>
    match value? high, value? low with
    | none, _ => .error (.badDigit high start)
    | some _, none => .error (.badDigit low (start + 1))
    | some h, some l => (decodeDigits (start + 2) rest).map fun bytes => (h * 16 + l) :: bytes

/-- The bytes that a hexadecimal text writes. An odd length is noticed before any bad digit. -/
def decode (text : String) : Except Fault Bytes :=
  let bytes := Bytes.ofText text
  if bytes.length % 2 = 1 then .error .oddLength else decodeDigits 0 bytes

/-- The bytes that a hexadecimal text writes, if it is one. -/
def decode? (text : String) : Option Bytes := (decode text).toOption

end ControlComponent.Text.Hex
