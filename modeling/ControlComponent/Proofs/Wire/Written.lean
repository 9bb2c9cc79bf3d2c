import ControlComponent.Wire.Cbor
import ControlComponent.Wire.Json

/-!
The document that written data reads as.

Both readers make the same document of what the writers wrote, up to numbers, whose width only CBOR
tells, and byte strings, which JSON lists as numbers. Codecs are reasoned about through this
document, and no proof about a codec ever looks at bytes.
-/

namespace ControlComponent.Wire

/-- What a number reads as. In JSON a number of more than 64 bits is no integer. -/
def Encoding.documentOfNat : Encoding → Nat → Document
  | .json, n =>
    let (value, left) := Json.fit 0 (Json.writeNat n)
    Json.integer false value left
  | .cbor, n => .int n (Cbor.width n)

namespace Data

mutual

/-- What data reads as. -/
def document (e : Encoding) : Data → Document
  | .null => .null
  | .bool b => .bool b
  | .nat n => e.documentOfNat n
  | .text s => .text (some s)
  | .bytes b =>
    match e with
    | .json => .list (b.map fun x => e.documentOfNat x.toNat)
    | .cbor => .bytes b
  | .list items => .list (documents e items)
  | .record fields => .map (entries e fields)

/-- What items read as. -/
def documents (e : Encoding) : List Data → List Document
  | [] => []
  | item :: items => document e item :: documents e items

/-- What fields read as. -/
def entries (e : Encoding) : List (String × Data) → List (Document × Document)
  | [] => []
  | (name, value) :: fields => (.text (some name), document e value) :: entries e fields

end

theorem documents_eq_map (e : Encoding) (items : List Data) :
    documents e items = items.map (document e) := by
  induction items with
  | nil => rfl
  | cons item items ih => rw [documents, ih, List.map_cons]

mutual

/-- Data that nests lists and records at most so deep, with numbers of 64 bits. -/
def Fits : (nesting : Nat) → Data → Prop
  | _, .nat n => n < 2 ^ 64
  | 0, .list _ => False
  | 0, .record _ => False
  | nesting + 1, .list items => ItemsFit nesting items
  | nesting + 1, .record fields => FieldsFit nesting fields
  | _, _ => True

/-- Items that all fit. -/
def ItemsFit (nesting : Nat) : List Data → Prop
  | [] => True
  | item :: items => Fits nesting item ∧ ItemsFit nesting items

/-- Fields that all fit. -/
def FieldsFit (nesting : Nat) : List (String × Data) → Prop
  | [] => True
  | (_, value) :: fields => Fits nesting value ∧ FieldsFit nesting fields

end

mutual

/-- Whether data fits can be computed. -/
def decideFits : (nesting : Nat) → (d : Data) → Decidable (Fits nesting d)
  | _, .null => .isTrue (by unfold Fits; trivial)
  | _, .bool _ => .isTrue (by unfold Fits; trivial)
  | _, .nat n => decidable_of_iff (n < 2 ^ 64) (by unfold Fits; rfl)
  | _, .text _ => .isTrue (by unfold Fits; trivial)
  | _, .bytes _ => .isTrue (by unfold Fits; trivial)
  | 0, .list _ => .isFalse (by unfold Fits; exact id)
  | 0, .record _ => .isFalse (by unfold Fits; exact id)
  | nesting + 1, .list items => decideItemsFit nesting items
  | nesting + 1, .record fields => decideFieldsFit nesting fields

/-- Whether items fit can be computed. -/
def decideItemsFit (nesting : Nat) : (items : List Data) → Decidable (ItemsFit nesting items)
  | [] => .isTrue trivial
  | item :: items =>
    have := decideFits nesting item
    have := decideItemsFit nesting items
    inferInstanceAs (Decidable (_ ∧ _))

/-- Whether fields fit can be computed. -/
def decideFieldsFit (nesting : Nat) :
    (fields : List (String × Data)) → Decidable (FieldsFit nesting fields)
  | [] => .isTrue trivial
  | (_, value) :: fields =>
    have := decideFits nesting value
    have := decideFieldsFit nesting fields
    inferInstanceAs (Decidable (_ ∧ _))

end

instance (nesting : Nat) (d : Data) : Decidable (Fits nesting d) := decideFits nesting d

end Data
end ControlComponent.Wire
