import ControlComponent.Signature.Ed25519
import ControlComponent.Uuid
import ControlComponent.Wire.Cbor
import ControlComponent.Wire.Json
import ControlComponent.Wire.Fault

/-!
How values of a type are written as data and recognised in documents.

A codec is a pair of functions. The two encodings differ in little: keys, signatures and identifiers
are text in JSON and byte strings in CBOR. Recognising goes through a document from its beginning
and stops at the first fault.
-/

namespace ControlComponent.Wire

/-- How values of a type are written and recognised. -/
structure Codec (α : Type) where
  encode : Encoding → α → Data
  decode : Encoding → Document → Except Fault α

/-! ### Byte strings -/

/-- Data in an encoding. -/
def Encoding.write : Encoding → Data → Bytes
  | .json => Json.write
  | .cbor => Cbor.write

/-- What bytes in an encoding read as. -/
def Encoding.read : Encoding → Bytes → Reading
  | .json => Json.read
  | .cbor => Cbor.read

namespace Codec

/-- A value in an encoding. -/
def write (c : Codec α) (encoding : Encoding) (value : α) : Bytes :=
  encoding.write (c.encode encoding value)

/-- The value that bytes in an encoding write, with nothing behind it. -/
def read (c : Codec α) (encoding : Encoding) (bytes : Bytes) : Except Fault α := do
  let reading := encoding.read bytes
  let value ← c.decode encoding reading.document
  if reading.ended then .ok value else .error .shape

/-! ### Single values -/

/-- The text of a document: a text, or a byte string in UTF-8. -/
def textOf : Document → Except Fault String
  | .text (some s) => .ok s
  | .bytes b => match Bytes.toText? b with
    | some s => .ok s
    | none => .error .shape
  | .marked d => textOf d
  | _ => .error .shape

/-- Texts. -/
def text : Codec String where
  encode _ s := .text s
  decode _ := textOf

/-- Truth values. -/
def flag : Codec Bool where
  encode _ b := .bool b
  decode _ d := match d.unmarked with
    | .bool b => .ok b
    | _ => .error .shape

/-- Numbers of at most `limit`. -/
def natural (limit : Nat) : Codec Nat where
  encode _ n := .nat n
  decode _ d := match d.unmarked with
    | .int n _ => if 0 ≤ n ∧ n ≤ limit then .ok n.toNat else .error .shape
    | _ => .error .shape

/-- Numbers of 32 bits. -/
def natural32 : Codec Nat := natural (2 ^ 32 - 1)

/-- Numbers of 64 bits. -/
def natural64 : Codec Nat := natural (2 ^ 64 - 1)

/-- The number that a text writes in decimal digits. -/
def decimalOf (text : String) : Except Fault Nat :=
  match Text.Decimal.parse? text with
  | some n => .ok n
  | none => .error (.decimal text)

/-- Numbers of any size, as decimal text. -/
def decimal : Codec Nat where
  encode _ n := .text (Text.Decimal.render n)
  decode _ d := textOf d >>= decimalOf

/-- The items of a list. -/
def itemsOf (d : Document) : Except Fault (List Document) :=
  match d.unmarked with
  | .list items => .ok items
  | _ => .error .shape

/-- Lists of numbers of any size. That all of them are texts is seen to before any is looked at. -/
def decimals : Codec (List Nat) where
  encode _ ns := .list (ns.map fun n => .text (Text.Decimal.render n))
  decode _ d := do
    let items ← itemsOf d
    let texts ← items.mapM textOf
    texts.mapM decimalOf

/-- A list of values. -/
def list (c : Codec α) : Codec (List α) where
  encode e values := .list (values.map (c.encode e))
  decode e d := do
    let items ← itemsOf d
    items.mapM (c.decode e)

/-- A value that may be missing, for which `null` stands, but neither `undefined` nor a `null`
behind a tag. -/
def option (c : Codec α) : Codec (Option α) where
  encode e
    | none => .null
    | some value => c.encode e value
  decode e
    | .null => .ok none
    | d => (c.decode e d).map some

/-! ### Byte strings that JSON writes as text -/

/-- The bytes of a byte string. -/
def bytesOf (d : Document) : Except Fault Bytes :=
  match d.unmarked with
  | .bytes b => .ok b
  | _ => .error .shape

/-- Bytes in CBOR, hexadecimal text in JSON. -/
def hexOf : Encoding → Document → Except Fault Bytes
  | .json, d => do
    match Text.Hex.decode? (← textOf d) with
    | some b => .ok b
    | none => .error .shape
  | .cbor, d => bytesOf d

/-- Bytes as a byte string in CBOR and as hexadecimal text in JSON. -/
def hexData : Encoding → Bytes → Data
  | .json, b => .text (Text.Hex.encode b)
  | .cbor, b => .bytes b

/-- Public keys. -/
def publicKey : Codec Signature.PublicKey where
  encode e key := hexData e key.bytes
  decode e d := do
    match Signature.Ed25519.publicKeyOfBytes (← hexOf e d) with
    | .ok key => .ok key
    | .error _ => .error .shape

/-- Signatures. -/
def signature : Codec Signature where
  encode e signature := hexData e signature.bytes
  decode e d := do
    match Signature.Ed25519.signatureOfBytes (← hexOf e d) with
    | .ok signature => .ok signature
    | .error _ => .error .shape

/-- Identifiers. -/
def uuid : Codec Uuid where
  encode
    | .json, id => .text id.render
    | .cbor, id => .bytes id.bytes
  decode
    | .json, d => do
      match Uuid.parse? (← textOf d) with
      | some id => .ok id
      | none => .error .shape
    | .cbor, d => do
      match Uuid.ofBytes? (← bytesOf d) with
      | some id => .ok id
      | none => .error .shape

end Codec
end ControlComponent.Wire
