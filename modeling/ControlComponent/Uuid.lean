import ControlComponent.Text.Hex

/-!
Universally unique identifiers: sixteen bytes.

As text an identifier is 32 hexadecimal digits of either case, or the same digits in five groups
with hyphens between them, before which `urn:uuid:` may stand. It is always written in lower-case
groups.
-/

namespace ControlComponent

/-- A universally unique identifier. -/
structure Uuid where
  bytes : Bytes
deriving DecidableEq

namespace Uuid

/-- The byte of a hyphen. -/
def hyphen : UInt8 := 45

/-- The digits of text in groups of 8, 4, 4, 4 and 12 with hyphens between them. -/
def ungroup? (text : Bytes) : Option Bytes :=
  if text.length = 36 ∧ text[8]? = some hyphen ∧ text[13]? = some hyphen ∧
      text[18]? = some hyphen ∧ text[23]? = some hyphen then
    some (text.take 8 ++ (text.drop 9).take 4 ++ (text.drop 14).take 4 ++ (text.drop 19).take 4 ++
      text.drop 24)
  else none

/-- What may stand before the grouped form. -/
def scheme : Bytes := Bytes.ofText "urn:uuid:"

/-- The digits of an identifier's text in any of its forms. -/
def digits? (text : Bytes) : Option Bytes :=
  if text.length = 32 then some text
  else if text.take scheme.length = scheme then ungroup? (text.drop scheme.length)
  else ungroup? text

/-- The identifier that a text writes. -/
def parse? (text : String) : Option Uuid := do
  let digits ← digits? (Bytes.ofText text)
  let bytes ← (Text.Hex.decodeDigits 0 digits).toOption
  return ⟨bytes⟩

/-- Whether a text writes an identifier. -/
def isWritten (text : String) : Bool := (parse? text).isSome

/-- The grouped form of an identifier. -/
def render (id : Uuid) : String :=
  let part (start count : Nat) : String := Text.Hex.encode ((id.bytes.drop start).take count)
  "-".intercalate [part 0 4, part 4 2, part 6 2, part 8 2, part 10 6]

/-- An identifier of sixteen bytes. -/
def ofBytes? (bytes : Bytes) : Option Uuid := if bytes.length = 16 then some ⟨bytes⟩ else none

end Uuid
end ControlComponent
