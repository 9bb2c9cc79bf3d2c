import ControlComponent.Bytes

/-!
Decimal text of natural numbers. Writing gives the shortest form; reading takes any non-empty text
of ASCII digits, leading zeros included, and nothing else: no sign, no separator, no blank.
-/

namespace ControlComponent.Text.Decimal

/-- The shortest decimal text of a number. -/
def render (n : Nat) : String := Nat.repr n

/-- The number that a list of decimal digits writes, after the digits already read. -/
def readDigits (n : Nat) : List Char → Option Nat
  | [] => some n
  | c :: rest => if c.isDigit then readDigits (n * 10 + (c.toNat - 48)) rest else none

/-- The number that a text of one or more decimal digits writes. -/
def parse? (text : String) : Option Nat :=
  match text.toList with
  | [] => none
  | chars => readDigits 0 chars

/-- What is said of a text that is not a decimal number. -/
def complaint (text : String) : String := "'" ++ text ++ "' is not a decimal integer"

/-- The decimal texts of numbers with commas between them. -/
def commaSeparated (values : List Nat) : String := ",".intercalate (values.map render)

/-- Why a text is not a number of a fixed range. -/
inductive RangeFault where
  | empty
  | badDigit
  | tooLarge
deriving DecidableEq

/-- What is said of a fault. -/
def RangeFault.message : RangeFault → String
  | .empty => "cannot parse integer from empty string"
  | .badDigit => "invalid digit found in string"
  | .tooLarge => "number too large to fit in target type"

/-- A number of at most `limit`, written in decimal digits that a single `+` may precede. -/
def parseAtMost (limit : Nat) (text : String) : Except RangeFault Nat :=
  let read (chars : List Char) : Except RangeFault Nat :=
    match readDigits 0 chars with
    | none => .error .badDigit
    | some n => if n ≤ limit then .ok n else .error .tooLarge
  match text.toList with
  | [] => .error .empty
  | ['+'] => .error .badDigit
  | '+' :: chars => read chars
  | chars => read chars

example : parse? "007" = some 7 ∧ parse? "" = none ∧ parse? "+1" = none := by decide

end ControlComponent.Text.Decimal
