import ControlComponent.Proofs.Wire.Kept

/-!
Written values are told apart.

A codec is injective if it writes different values as different data. This passes from the codecs of
its fields to the codec of a record, and it holds of all values, whether or not they can be read
back: no key has to lie on a curve for it. Different data in turn are different bytes in CBOR, as
long as they can be written at all. JSON has nothing like that, for there a byte string is written
as the list of its bytes is.
-/

namespace ControlComponent.Wire

/-! ### Data -/

namespace Data

mutual

/-- Different data read as different documents in CBOR. -/
theorem document_inj (d : Data) {d' : Data} (same : d.document .cbor = d'.document .cbor) :
    d = d' := by
  match d with
  | .null => cases d' <;> cases same; rfl
  | .bool b => cases d' <;> cases same; rfl
  | .nat n => cases d' <;> cases same; rfl
  | .text s => cases d' <;> cases same; rfl
  | .bytes b => cases d' <;> cases same; rfl
  | .list items =>
    cases d' with
    | list items' => exact congrArg Data.list (documents_inj items (Document.list.inj same))
    | _ => cases same
  | .record fields =>
    cases d' with
    | record fields' => exact congrArg Data.record (entries_inj fields (Document.map.inj same))
    | _ => cases same

theorem documents_inj (items : List Data) {items' : List Data}
    (same : documents .cbor items = documents .cbor items') : items = items' := by
  match items, items' with
  | [], [] => rfl
  | [], _ :: _ => cases same
  | _ :: _, [] => cases same
  | item :: items, item' :: items' =>
    obtain ⟨first, rest⟩ := List.cons.inj same
    rw [document_inj item first, documents_inj items rest]

theorem entries_inj (fields : List (String × Data)) {fields' : List (String × Data)}
    (same : entries .cbor fields = entries .cbor fields') : fields = fields' := by
  match fields, fields' with
  | [], [] => rfl
  | [], _ :: _ => cases same
  | _ :: _, [] => cases same
  | (name, value) :: fields, (name', value') :: fields' =>
    obtain ⟨first, rest⟩ := List.cons.inj same
    obtain ⟨named, valued⟩ := Prod.mk.inj first
    cases named
    rw [document_inj value valued, entries_inj fields rest]

end

end Data

/-- Different data are written as different bytes, if one of them is not too long for its length to
be told. -/
theorem Cbor.write_inj {d d' : Data} {nesting : Nat} (fits : d.Fits nesting)
    (fits' : d'.Fits nesting) (shallow : nesting < depthLimit) (small : (write d).length < 2 ^ 64)
    (same : write d = write d') : d = d' := by
  have reading := read_write fits shallow small
  rw [same, read_write fits' shallow (same ▸ small)] at reading
  exact (Data.document_inj d' (congrArg Reading.document reading)).symm

/-! ### Codecs -/

/-- Different values are written as different data. -/
def Codec.Injective (c : Codec α) : Prop := ∀ e, Function.Injective (c.encode e)

/-- A schema whose fields all have injective codecs. -/
def Schema.Injective : Schema σ α → Prop
  | .done => True
  | .field _ codec _ rest => codec.Injective ∧ rest.Injective

namespace Codec

theorem injective_text : text.Injective := fun _ _ _ => Data.text.inj

theorem injective_natural (limit : Nat) : (natural limit).Injective := fun _ _ _ => Data.nat.inj

theorem injective_decimal : decimal.Injective := fun _ _ _ same =>
  Text.Decimal.render_injective (Data.text.inj same)

theorem injective_list {c : Codec α} (injective : c.Injective) : c.list.Injective :=
  fun e _ _ same => (List.map_inj_right fun _ _ one => injective e one).1 (Data.list.inj same)

theorem injective_decimals : decimals.Injective := injective_list injective_decimal

/-- What may be missing is told apart, unless it can be written as if it were missing. -/
theorem injective_option {c : Codec α} (injective : c.Injective)
    (present : ∀ e v, c.encode e v ≠ .null) : c.option.Injective := by
  intro e value value' same
  cases value with
  | none =>
    cases value' with
    | none => rfl
    | some v' => exact absurd same.symm (present e v')
  | some v =>
    cases value' with
    | none => exact absurd same (present e v)
    | some v' => exact congrArg some (injective e same)

theorem hexData_injective (e : Encoding) : Function.Injective (hexData e) := by
  intro b b' same
  have read := hexOf_hexData_ok e b
  rw [same, hexOf_hexData_ok] at read
  exact (Except.ok.inj read).symm

theorem injective_publicKey : publicKey.Injective := by
  rintro e ⟨b⟩ ⟨b'⟩ same
  exact congrArg Signature.PublicKey.mk (hexData_injective e same)

theorem injective_signature : signature.Injective := by
  rintro e ⟨b⟩ ⟨b'⟩ same
  exact congrArg Signature.mk (hexData_injective e same)

end Codec

/-! ### Records -/

namespace Schema

theorem Injective.done : Schema.done.Injective := trivial

theorem Injective.required {name : String} {codec : Codec α} {rest : Schema σ β}
    (field : codec.Injective) (fields : rest.Injective) : (required name codec rest).Injective :=
  ⟨field, fields⟩

theorem Injective.defaulted {name : String} {codec : Codec α} {value : α} {rest : Schema σ β}
    (field : codec.Injective) (fields : rest.Injective) :
    (defaulted name codec value rest).Injective :=
  ⟨field, fields⟩

/-- Different fields are written in different ways. -/
theorem Injective.write {s : Schema σ α} (injective : s.Injective) (e : Encoding) :
    Function.Injective (s.write e) := by
  induction s with
  | done => exact fun _ _ _ => rfl
  | field name codec absence rest ih =>
    rintro ⟨value, values⟩ ⟨value', values'⟩ same
    obtain ⟨first, behind⟩ := List.cons.inj same
    rw [injective.1 e (Prod.mk.inj first).2, ih injective.2 behind]

end Schema

namespace Codec

theorem injective_checkedRecord {s : Schema σ α} (injective : s.Injective) {toFields : ρ → α}
    {ofFields : α → Except Fault ρ} (fields : Function.Injective toFields) :
    (checkedRecord s toFields ofFields).Injective :=
  fun e _ _ same => fields (injective.write e (Data.record.inj same))

/-- The values of a record are told apart by their fields, since it is made from them. -/
theorem injective_record {s : Schema σ α} (injective : s.Injective) {toFields : ρ → α}
    {ofFields : α → ρ} (remade : ∀ r, ofFields (toFields r) = r) :
    (record s toFields ofFields).Injective :=
  injective_checkedRecord injective (Function.LeftInverse.injective remade)

theorem injective_group : group.Injective := by
  refine injective_checkedRecord (.required injective_decimal (.required injective_decimal
    (.required injective_decimal .done))) ?_
  intro g g' same
  simp only [Prod.mk.injEq, and_true] at same
  exact Group.eq_of_values same.1 same.2.1 same.2.2

end Codec
end ControlComponent.Wire
