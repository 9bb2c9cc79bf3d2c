import ControlComponent.Error
import ControlComponent.Wire.Codec

/-!
Frames: a byte that tells the encoding, and a value in that encoding.
-/

namespace ControlComponent.Wire

/-- The byte of an encoding. -/
def Encoding.tag : Encoding → UInt8
  | .json => 0
  | .cbor => 1

/-- The encoding of a byte. -/
def Encoding.ofTag? : UInt8 → Option Encoding
  | 0 => some .json
  | 1 => some .cbor
  | _ => none

namespace Codec

/-- A value in a frame. -/
def writeFrame (c : Codec α) (e : Encoding) (value : α) : Bytes := e.tag :: c.write e value

/-- The value in a frame, and its encoding. -/
def readFrame (c : Codec α) : Bytes → Except Error (Encoding × α)
  | [] => .error .emptyMessage
  | tag :: body =>
    match Encoding.ofTag? tag with
    | none => .error (.unknownEncoding tag)
    | some e =>
      match c.read e body with
      | .ok value => .ok (e, value)
      | .error fault => .error (.undecodable e fault)

end Codec
end ControlComponent.Wire
