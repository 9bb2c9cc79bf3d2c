import ControlComponent.Proofs.Signature
import ControlComponent.Proofs.Wire.CborRead
import ControlComponent.Proofs.Wire.Faithful

/-!
Values that come back.

A codec keeps a value if it reads, in both encodings, from the document of what it wrote the value
that it wrote. This says more than faithfulness, and it is said of single values: numbers have to be
within the limits of their codec, keys and signatures have to be well formed, and an identifier must
have its sixteen bytes. A record is kept if its fields are, as long as no two of them share a name.
What a codec keeps also comes back from a frame.
-/

namespace ControlComponent.Wire

/-- A value that is read back from what is written of it, with lists and records nested at most so
deep. -/
structure Codec.Keeps (c : Codec α) (nesting : Nat) (v : α) : Prop where
  decoded : ∀ e, c.decode e ((c.encode e v).document e) = .ok v
  fits : (c.encode .cbor v).Fits nesting

/-! ### Numbers -/

namespace Json

/-- Digits whose number fits 64 bits are all taken. -/
theorem fit_of_lt {value : Nat} {digits : Bytes}
    (small : digits.foldl (fun n b => n * 10 + (b.toNat - 48)) value < 2 ^ 64) :
    fit value digits = (digits.foldl (fun n b => n * 10 + (b.toNat - 48)) value, 0) := by
  have grows : ∀ (ds : Bytes) (n : Nat), n ≤ ds.foldl (fun n b => n * 10 + (b.toNat - 48)) n := by
    intro ds
    induction ds with
    | nil => exact fun n => Nat.le_refl n
    | cons d rest ih =>
      intro n
      have next : n ≤ n * 10 + (d.toNat - 48) := by omega
      exact Nat.le_trans next (ih _)
  induction digits generalizing value with
  | nil => rfl
  | cons d rest ih =>
    rw [List.foldl_cons] at small ⊢
    rw [fit, if_pos (Nat.lt_of_le_of_lt (grows rest _) small)]
    exact ih small

end Json

/-- A number of 64 bits reads as an integer. -/
theorem exists_documentOfNat {n : Nat} (small : n < 2 ^ 64) (e : Encoding) :
    ∃ width, e.documentOfNat n = .int n width := by
  cases e with
  | cbor => exact ⟨_, rfl⟩
  | json =>
    have value : (Json.writeNat n).foldl (fun n b => n * 10 + (b.toNat - 48)) 0 = n :=
      Json.digitsValue_writeNat n
    have taken : Json.fit 0 (Json.writeNat n) = (n, 0) := by
      rw [Json.fit_of_lt (value.symm ▸ small), value]
    refine ⟨8, ?_⟩
    rw [Encoding.documentOfNat, taken]
    rfl

namespace Codec

variable {nesting : Nat}

/-! ### Single values -/

theorem keeps_text (s : String) : text.Keeps nesting s :=
  ⟨fun _ => rfl, fitsIn_text s⟩

theorem keeps_flag (b : Bool) : flag.Keeps nesting b := by
  constructor
  · intro e
    rfl
  · show (Data.bool b).Fits nesting
    cases nesting <;> trivial

theorem keeps_natural {limit n : Nat} (low : n ≤ limit) (high : limit < 2 ^ 64) :
    (natural limit).Keeps nesting n := by
  have small : n < 2 ^ 64 := Nat.lt_of_le_of_lt low high
  constructor
  · intro e
    obtain ⟨width, read⟩ := exists_documentOfNat small e
    have inside : (0 : Int) ≤ n ∧ (n : Int) ≤ limit := by omega
    simp only [natural, Data.document, read, Document.unmarked]
    rw [if_pos inside]
    rfl
  · show (Data.nat n).Fits nesting
    cases nesting <;> exact small

theorem keeps_decimal (n : Nat) : decimal.Keeps nesting n := by
  constructor
  · intro e
    simp [decimal, Data.document, textOf, decimalOf, bind, Except.bind]
  · exact fitsIn_text (Text.Decimal.render n)

theorem keeps_list {c : Codec α} {values : List α} (each : ∀ v ∈ values, c.Keeps nesting v) :
    c.list.Keeps (nesting + 1) values := by
  constructor
  · intro e
    simp only [list, Data.document, Data.documents_eq_map, List.map_map]
    exact mapM_map_ok fun v mem => (each v mem).decoded e
  · show Data.ItemsFit nesting (values.map (c.encode .cbor))
    induction values with
    | nil => trivial
    | cons v rest ih =>
      exact ⟨(each v (List.mem_cons_self ..)).fits,
        ih fun w mem => each w (List.mem_cons_of_mem v mem)⟩

theorem keeps_decimals (ns : List Nat) : decimals.Keeps (nesting + 1) ns := by
  constructor
  · intro e
    simp only [decimals, Data.document, Data.documents_eq_map, List.map_map]
    refine bind_eq_ok.2 ⟨_, rfl, bind_eq_ok.2 ⟨ns.map Text.Decimal.render, ?_, ?_⟩⟩
    · have texts : ns.map (Data.document e ∘ fun n => Data.text (Text.Decimal.render n)) =
          (ns.map Text.Decimal.render).map fun s => Document.text (some s) := by
        simp [Data.document]
      rw [texts]
      exact mapM_map_ok fun s _ => rfl
    · refine mapM_map_ok fun n _ => ?_
      rw [decimalOf, Text.Decimal.parse?_render]
  · exact fitsIn_decimals ns

theorem keeps_none (c : Codec α) : c.option.Keeps nesting none := by
  constructor
  · intro e
    rfl
  · show Data.null.Fits nesting
    cases nesting <;> trivial

/-- A value that is there is not mistaken for a missing one, unless it is written as one. -/
theorem keeps_some {c : Codec α} {v : α} (kept : c.Keeps nesting v)
    (present : ∀ e, (c.encode e v).document e ≠ .null) : c.option.Keeps nesting (some v) := by
  constructor
  · intro e
    have there := present e
    -- The document of `v` is no `null`, so the other branch is taken.
    simp only [option, kept.decoded e]
    rfl
  · exact kept.fits

/-- What may be missing is kept if it is kept when it is there, unless it can be written as if it
were missing. -/
theorem keeps_option {c : Codec α} {value : Option α}
    (kept : ∀ v, value = some v → c.Keeps nesting v)
    (present : ∀ e v, (c.encode e v).document e ≠ .null) : c.option.Keeps nesting value := by
  cases value with
  | none => exact keeps_none c
  | some v => exact keeps_some (kept v rfl) fun e => present e v

/-! ### Byte strings -/

theorem hexOf_hexData_ok (e : Encoding) (b : Bytes) :
    hexOf e ((hexData e b).document e) = .ok b := by
  cases e with
  | cbor => rfl
  | json =>
    simp [hexOf, hexData, Data.document, textOf, Text.Hex.decode?, bind, Except.bind,
      Except.toOption]

theorem keeps_publicKey {key : Signature.PublicKey} (readable : key.Readable) :
    publicKey.Keeps nesting key := by
  constructor
  · intro e
    refine bind_eq_ok.2 ⟨key.bytes, hexOf_hexData_ok e key.bytes, ?_⟩
    rw [show Signature.Ed25519.publicKeyOfBytes key.bytes = .ok key from readable]
  · exact fitsIn_publicKey key

theorem keeps_signature {s : Signature} (readable : s.Readable) : signature.Keeps nesting s := by
  constructor
  · intro e
    refine bind_eq_ok.2 ⟨s.bytes, hexOf_hexData_ok e s.bytes, ?_⟩
    rw [show Signature.Ed25519.signatureOfBytes s.bytes = .ok s from readable]
  · exact fitsIn_signature s

theorem keeps_uuid {id : Uuid} (sixteen : id.bytes.length = 16) : uuid.Keeps nesting id := by
  constructor
  · intro e
    cases e with
    | json =>
      refine bind_eq_ok.2 ⟨id.render, rfl, ?_⟩
      rw [Uuid.parse?_render sixteen]
    | cbor =>
      refine bind_eq_ok.2 ⟨id.bytes, rfl, ?_⟩
      rw [Uuid.ofBytes?, if_pos sixteen]
  · show (Data.bytes id.bytes).Fits nesting
    cases nesting <;> trivial

end Codec

/-! ### Records -/

namespace Schema

/-- The names of the fields, in order. -/
def names : Schema σ α → List String
  | .done => []
  | .field name _ _ rest => name :: rest.names

/-- Whether every field of a record is kept. -/
def Keeps (nesting : Nat) : Schema σ α → α → Prop
  | .done, _ => True
  | .field _ codec _ rest, (value, values) => codec.Keeps nesting value ∧ rest.Keeps nesting values

/-- A record of which every field is filled. -/
def full : Schema σ α → α → σ
  | .done, _ => ()
  | .field _ _ _ rest, (value, values) => (some value, rest.full values)

theorem finish_full (s : Schema σ α) (values : α) : s.finish (s.full values) = .ok values := by
  induction s with
  | done => rfl
  | field name codec absence rest ih =>
    obtain ⟨value, values⟩ := values
    exact bind_eq_ok.2 ⟨value, rfl, bind_eq_ok.2 ⟨values, ih values, rfl⟩⟩

/-- The keys of a written record are the names of its fields. -/
theorem exists_name_of_mem_entries {s : Schema σ α} {e : Encoding} {values : α}
    {entry : Document × Document} (mem : entry ∈ Data.entries e (s.write e values)) :
    ∃ name ∈ s.names, entry.1 = .text (some name) := by
  induction s with
  | done => cases mem
  | field name codec absence rest ih =>
    obtain ⟨value, values⟩ := values
    rcases List.mem_cons.1 mem with rfl | mem
    · exact ⟨name, List.mem_cons_self .., rfl⟩
    · obtain ⟨other, among, key⟩ := ih mem
      exact ⟨other, List.mem_cons_of_mem name among, key⟩

/-- Entries under other names than the first field's go to the fields behind it. -/
theorem putAll_behind {name : String} {codec : Codec α} {absence : Absence α} {rest : Schema σ β}
    {e : Encoding} {slot : Option α} {slots slots' : σ} {es : List (Document × Document)}
    (others : ∀ entry ∈ es, ∃ other, other ≠ name ∧ entry.1 = .text (some other))
    (all : rest.putAll e es slots = .ok slots') :
    (field name codec absence rest).putAll e es (slot, slots) = .ok (slot, slots') := by
  induction es generalizing slots with
  | nil =>
    cases all
    rfl
  | cons entry es ih =>
    obtain ⟨k, v⟩ := entry
    obtain ⟨other, different, rfl⟩ := others (k, v) (List.mem_cons_self ..)
    obtain ⟨key, ⟨⟩, all⟩ := bind_eq_ok.1 all
    obtain ⟨slots₁, one, later⟩ := bind_eq_ok.1 all
    have unnamed : isNamed name (.name (Bytes.ofText other)) = false := by
      simpa [isNamed, Bytes.ofText_inj] using different
    refine bind_eq_ok.2 ⟨_, rfl, bind_eq_ok.2 ⟨(slot, slots₁), ?_, ?_⟩⟩
    · simp only [put, unnamed]
      exact map_eq_ok.2 ⟨slots₁, one, rfl⟩
    · exact ih (fun entry mem => others entry (List.mem_cons_of_mem _ mem)) later

/-- The entries of a written record fill every field with what was written of it. -/
theorem Keeps.putAll {nesting : Nat} {s : Schema σ α} {values : α} (kept : s.Keeps nesting values)
    (distinct : s.names.Nodup) (e : Encoding) :
    s.putAll e (Data.entries e (s.write e values)) s.blank = .ok (s.full values) := by
  induction s with
  | done => rfl
  | field name codec absence rest ih =>
    obtain ⟨value, values⟩ := values
    obtain ⟨fresh, distinct⟩ := List.nodup_cons.1 distinct
    refine bind_eq_ok.2 ⟨.name (Bytes.ofText name), rfl,
      bind_eq_ok.2 ⟨(some value, rest.blank), ?_, putAll_behind ?_ (ih kept.2 distinct)⟩⟩
    · simp only [blank, put, isNamed, beq_self_eq_true, if_true]
      exact map_eq_ok.2 ⟨value, kept.1.decoded e, rfl⟩
    · intro entry mem
      obtain ⟨other, among, key⟩ := exists_name_of_mem_entries mem
      refine ⟨other, ?_, key⟩
      rintro rfl
      exact fresh among

theorem Keeps.fits {nesting : Nat} {s : Schema σ α} {values : α} (kept : s.Keeps nesting values) :
    Data.FieldsFit nesting (s.write .cbor values) := by
  induction s with
  | done => trivial
  | field name codec absence rest ih => exact ⟨kept.1.fits, ih kept.2⟩

end Schema

namespace Codec

variable {nesting : Nat}

theorem keeps_checkedRecord {s : Schema σ α} {toFields : ρ → α} {ofFields : α → Except Fault ρ}
    {r : ρ} (distinct : s.names.Nodup) (fields : s.Keeps nesting (toFields r))
    (remade : ofFields (toFields r) = .ok r) :
    (checkedRecord s toFields ofFields).Keeps (nesting + 1) r := by
  constructor
  · intro e
    have read : s.read e (.map (Data.entries e (s.write e (toFields r)))) = .ok (toFields r) :=
      bind_eq_ok.2 ⟨_, fields.putAll distinct e, s.finish_full (toFields r)⟩
    exact bind_eq_ok.2 ⟨toFields r, read, remade⟩
  · exact fields.fits

theorem keeps_record {s : Schema σ α} {toFields : ρ → α} {ofFields : α → ρ} {r : ρ}
    (distinct : s.names.Nodup) (fields : s.Keeps nesting (toFields r))
    (remade : ofFields (toFields r) = r) : (record s toFields ofFields).Keeps (nesting + 1) r :=
  keeps_checkedRecord distinct fields (congrArg Except.ok remade)

theorem keeps_group (g : Group) : group.Keeps (nesting + 1) g := by
  refine keeps_checkedRecord (by decide)
    ⟨keeps_decimal g.p, keeps_decimal g.q, keeps_decimal g.g, trivial⟩ ?_
  have made : Group.ofValues g.p g.q g.g = .ok g := Group.ofValues_eq_ok.2 ⟨rfl, rfl, rfl⟩
  simp only [made]

/-! ### Frames -/

/-- What is kept is read from what is written of it, in whichever encoding. CBOR tells lengths in 64
bits, so what is written must not be longer than that. -/
theorem Keeps.read {c : Codec α} {v : α} (kept : c.Keeps nesting v)
    (shallow : nesting < Cbor.depthLimit) {e : Encoding}
    (small : (c.write e v).length < 2 ^ 64) : c.read e (c.write e v) = .ok v := by
  refine read_of_reading ?_ (kept.decoded e)
  cases e with
  | json => exact Json.read_write _
  | cbor => exact Cbor.read_write kept.fits shallow small

/-- What is kept comes back from a frame. -/
theorem Keeps.readFrame {c : Codec α} {v : α} (kept : c.Keeps nesting v)
    (shallow : nesting < Cbor.depthLimit) {e : Encoding}
    (small : (c.writeFrame e v).length < 2 ^ 64) : c.readFrame (c.writeFrame e v) = .ok (e, v) :=
  readFrame_of_read (kept.read shallow (Nat.lt_of_succ_lt small))

end Codec
end ControlComponent.Wire
