import ControlComponent.Proofs.Outcome
import ControlComponent.Proofs.Text
import ControlComponent.Proofs.Wire.Written
import ControlComponent.Wire.Frame

/-!
Reading CBOR that was written.

Data in its written form, with anything behind it, reads as its document and leaves what is behind.
The recursion follows the data; the fuel that is needed is bounded by twice the bytes that are read.
Lengths are below 2^64 because the whole is.
-/

namespace ControlComponent

namespace Wire.Cbor

open Data

/-! ### Heads -/

theorem first_div (kind : UInt8) {x : UInt8} (hkind : kind < 8) (hx : x < 32) :
    (kind * 32 + x) / 32 = kind := by
  rw [UInt8.lt_iff_toNat_lt] at hkind hx
  apply UInt8.toNat_inj.1
  simp at hkind hx ⊢
  omega

theorem first_mod (kind : UInt8) {x : UInt8} (hx : x < 32) : (kind * 32 + x) % 32 = x := by
  rw [UInt8.lt_iff_toNat_lt] at hx
  apply UInt8.toNat_inj.1
  simp at hx ⊢
  omega

theorem argument?_wide {low : UInt8} {width n : Nat} {rest : Bytes} (hn : n < 256 ^ width)
    (wide : ∀ rest, argument? low rest = if width ≤ rest.length then
      some (.value (Bytes.toNat (rest.take width)) width, rest.drop width) else none) :
    argument? low (Bytes.ofNatBE width n ++ rest) = some (.value n width, rest) := by
  rw [wide, if_pos (by simp)]
  simp [Bytes.toNat_ofNatBE, Nat.mod_eq_of_lt hn]

/-- A head is one byte that tells its kind, and bytes from which the number is read. -/
theorem exists_head (kind : UInt8) {n : Nat} (hn : n < 2 ^ 64) :
    ∃ (x : UInt8) (tail : Bytes), head kind n = (kind * 32 + x) :: tail ∧ x < 32 ∧
      ∀ rest, argument? x (tail ++ rest) = some (.value n (width n), rest) := by
  by_cases h0 : n < 24
  · refine ⟨UInt8.ofNat n, [], by simp [head, width, h0], ?_, ?_⟩
    · rw [UInt8.lt_iff_toNat_lt]
      simp
      omega
    · intro rest
      have small : UInt8.ofNat n < 24 := by
        rw [UInt8.lt_iff_toNat_lt]
        simp
        omega
      simp [argument?, small, width, h0]
      omega
  by_cases h1 : n < 2 ^ 8
  · have width_eq : width n = 1 := by simp [width, h0, h1]
    refine ⟨24, Bytes.ofNatBE 1 n, by simp [head, width_eq], by decide, ?_⟩
    intro rest
    rw [width_eq]
    exact argument?_wide (by omega) fun rest => rfl
  by_cases h2 : n < 2 ^ 16
  · have width_eq : width n = 2 := by simp [width, h0, h1, h2]
    refine ⟨25, Bytes.ofNatBE 2 n, by simp [head, width_eq], by decide, ?_⟩
    intro rest
    rw [width_eq]
    exact argument?_wide (by omega) fun rest => rfl
  by_cases h4 : n < 2 ^ 32
  · have width_eq : width n = 4 := by simp [width, h0, h1, h2, h4]
    refine ⟨26, Bytes.ofNatBE 4 n, by simp [head, width_eq], by decide, ?_⟩
    intro rest
    rw [width_eq]
    exact argument?_wide (by omega) fun rest => rfl
  · have width_eq : width n = 8 := by simp [width, h0, h1, h2, h4]
    refine ⟨27, Bytes.ofNatBE 8 n, by simp [head, width_eq], by decide, ?_⟩
    intro rest
    rw [width_eq]
    exact argument?_wide (by omega) fun rest => rfl

/-! ### Single items -/

variable {fuel depth : Nat} {rest : Bytes}

theorem document_nat {n : Nat} (hn : n < 2 ^ 64) :
    document (fuel + 1) depth (head 0 n ++ rest) = (.int n (width n), rest) := by
  obtain ⟨x, tail, written, hx, argument⟩ := exists_head 0 hn
  rw [written, List.cons_append, document]
  simp only [first_div 0 (by decide) hx, first_mod 0 hx, argument]
  rfl

theorem document_bytes {b : Bytes} (hlen : b.length < 2 ^ 64) :
    document (fuel + 1) depth (head 2 b.length ++ b ++ rest) = (.bytes b, rest) := by
  obtain ⟨x, tail, written, hx, argument⟩ := exists_head 2 hlen
  rw [written, List.append_assoc, List.cons_append, document]
  simp only [first_div 2 (by decide) hx, first_mod 2 hx, argument]
  simp [string?]

theorem document_text {s : String} (hlen : (Bytes.ofText s).length < 2 ^ 64) :
    document (fuel + 1) depth (writeText s ++ rest) = (.text (some s), rest) := by
  obtain ⟨x, tail, written, hx, argument⟩ := exists_head 3 hlen
  rw [writeText, written, List.append_assoc, List.cons_append, document]
  simp only [first_div 3 (by decide) hx, first_mod 3 hx, argument]
  simp [string?]

theorem document_list {n : Nat} (hn : n < 2 ^ 64) :
    document (fuel + 1) (depth + 2) (head 4 n ++ rest) =
      (.list (items fuel (depth + 1) (.value n (width n)) rest).1,
        (items fuel (depth + 1) (.value n (width n)) rest).2) := by
  obtain ⟨x, tail, written, hx, argument⟩ := exists_head 4 hn
  rw [written, List.cons_append, document]
  simp only [first_div 4 (by decide) hx, first_mod 4 hx, argument]
  simp

theorem document_map {n : Nat} (hn : n < 2 ^ 64) :
    document (fuel + 1) (depth + 2) (head 5 n ++ rest) =
      (.map (entries fuel (depth + 1) (.value n (width n)) rest).1,
        (entries fuel (depth + 1) (.value n (width n)) rest).2) := by
  obtain ⟨x, tail, written, hx, argument⟩ := exists_head 5 hn
  rw [written, List.cons_append, document]
  simp only [first_div 5 (by decide) hx, first_mod 5 hx, argument]
  simp [Argument.isShortest]

theorem length_head_pos (kind : UInt8) (n : Nat) : 0 < (head kind n).length := by
  unfold head
  split <;> simp

theorem length_write_pos (d : Data) : 0 < (write d).length := by
  cases d with
  | null | bool => exact Nat.one_pos
  | nat n => exact length_head_pos 0 n
  | text s => exact List.length_append ▸ Nat.add_pos_left (length_head_pos 3 _) _
  | bytes b => exact List.length_append ▸ Nat.add_pos_left (length_head_pos 2 _) _
  | list items => exact List.length_append ▸ Nat.add_pos_left (length_head_pos 4 _) _
  | record fields => exact List.length_append ▸ Nat.add_pos_left (length_head_pos 5 _) _

theorem length_le_writeItems (items : List Data) : items.length ≤ (writeItems items).length := by
  induction items with
  | nil => simp
  | cons item items ih =>
    have := length_write_pos item
    simp only [writeItems, List.length_cons, List.length_append]
    omega

theorem length_le_writeFields (fields : List (String × Data)) :
    fields.length ≤ (writeFields fields).length := by
  induction fields with
  | nil => simp
  | cons field fields ih =>
    have := length_write_pos field.2
    simp only [writeFields, List.length_cons, List.length_append]
    omega

theorem items_succ {n width : Nat} {bytes : Bytes} (nonempty : 0 < bytes.length) :
    items (fuel + 1) depth (.value (n + 1) width) bytes =
      let (d, rest) := document fuel depth bytes
      let (ds, rest) := items fuel depth (.value n width) rest
      (d :: ds, rest) := by
  cases bytes with
  | nil => cases nonempty
  | cons b bytes => rw [items] <;> simp [Argument.next]

theorem entries_succ {n width : Nat} {bytes : Bytes} (nonempty : 0 < bytes.length) :
    entries (fuel + 1) depth (.value (n + 1) width) bytes =
      let (k, rest) := document fuel depth bytes
      let (v, rest) := document fuel depth rest
      let (es, rest) := entries fuel depth (.value n width) rest
      ((k, v) :: es, rest) := by
  cases bytes with
  | nil => cases nonempty
  | cons b bytes => rw [entries] <;> simp [Argument.next]

/-! ### Data -/

mutual

theorem document_write (d : Data) {nesting fuel depth : Nat} (rest : Bytes)
    (fits : d.Fits nesting) (shallow : nesting < depth) (small : (write d).length < 2 ^ 64)
    (enough : 2 * (write d).length ≤ fuel + 1) :
    document fuel depth (write d ++ rest) = (d.document .cbor, rest) := by
  have positive := length_write_pos d
  obtain ⟨fuel, rfl⟩ : ∃ f, fuel = f + 1 := ⟨fuel - 1, by omega⟩
  match d with
  | .null => rfl
  | .bool b => cases b <;> rfl
  | .nat n => exact document_nat fits
  | .text s =>
    simp only [write, writeText, List.length_append] at small
    exact document_text (by omega)
  | .bytes b =>
    simp only [write, List.length_append] at small
    exact document_bytes (by omega)
  | .list parts =>
    obtain ⟨nesting, rfl⟩ : ∃ k, nesting = k + 1 := by
      cases nesting with
      | zero => cases fits
      | succ k => exact ⟨k, rfl⟩
    obtain ⟨depth, rfl⟩ : ∃ k, depth = k + 2 := ⟨depth - 2, by omega⟩
    have counted := length_le_writeItems parts
    have headed := length_head_pos 4 parts.length
    simp only [write, List.length_append] at small enough
    rw [write, List.append_assoc, document_list (by omega),
      items_write parts rest fits (by omega) (by omega) (by omega)]
    rfl
  | .record fields =>
    obtain ⟨nesting, rfl⟩ : ∃ k, nesting = k + 1 := by
      cases nesting with
      | zero => cases fits
      | succ k => exact ⟨k, rfl⟩
    obtain ⟨depth, rfl⟩ : ∃ k, depth = k + 2 := ⟨depth - 2, by omega⟩
    have counted := length_le_writeFields fields
    have headed := length_head_pos 5 fields.length
    simp only [write, List.length_append] at small enough
    rw [write, List.append_assoc, document_map (by omega),
      entries_write fields rest fits (by omega) (by omega) (by omega)]
    rfl

theorem items_write (parts : List Data) {nesting fuel depth width : Nat} (rest : Bytes)
    (fits : ItemsFit nesting parts) (shallow : nesting < depth)
    (small : (writeItems parts).length < 2 ^ 64) (enough : 2 * (writeItems parts).length ≤ fuel) :
    items fuel depth (.value parts.length width) (writeItems parts ++ rest) =
      (documents .cbor parts, rest) := by
  match parts with
  | [] => cases fuel <;> rfl
  | item :: parts =>
    have positive := length_write_pos item
    simp only [writeItems, List.length_append] at small enough
    obtain ⟨fuel, rfl⟩ : ∃ f, fuel = f + 1 := ⟨fuel - 1, by omega⟩
    rw [writeItems, List.append_assoc, List.length_cons,
      items_succ (by simp only [List.length_append]; omega),
      document_write item _ fits.1 shallow (by omega) (by omega)]
    dsimp only
    rw [items_write parts rest fits.2 shallow (by omega) (by omega)]
    rfl

theorem entries_write (fields : List (String × Data)) {nesting fuel depth width : Nat}
    (rest : Bytes) (fits : FieldsFit nesting fields) (shallow : nesting < depth)
    (small : (writeFields fields).length < 2 ^ 64)
    (enough : 2 * (writeFields fields).length ≤ fuel) :
    entries fuel depth (.value fields.length width) (writeFields fields ++ rest) =
      (Data.entries .cbor fields, rest) := by
  match fields with
  | [] => cases fuel <;> rfl
  | (name, value) :: fields =>
    have positive := length_write_pos value
    have named := length_write_pos (.text name)
    simp only [writeFields, List.length_append] at small enough
    simp only [write] at named
    obtain ⟨fuel, rfl⟩ : ∃ f, fuel = f + 1 := ⟨fuel - 1, by omega⟩
    rw [writeFields, List.append_assoc, List.append_assoc, List.length_cons,
      entries_succ (by simp only [List.length_append]; omega)]
    rw [show writeText name = write (.text name) from rfl] at small enough ⊢
    have nameFits : (Data.text name).Fits nesting := by cases nesting <;> trivial
    rw [document_write (.text name) _ nameFits shallow (by omega) (by omega)]
    dsimp only
    rw [document_write value _ fits.1 shallow (by omega) (by omega)]
    dsimp only
    rw [entries_write fields rest fits.2 shallow (by omega) (by omega)]
    rfl

end

/-- Written data reads as its document, with nothing behind it. -/
theorem read_write {d : Data} {nesting : Nat} (fits : d.Fits nesting)
    (shallow : nesting < depthLimit) (small : (write d).length < 2 ^ 64) :
    read (write d) = ⟨d.document .cbor, true⟩ := by
  have all : document (2 * (write d).length + 1) depthLimit (write d ++ []) =
      (d.document .cbor, []) := document_write d [] fits shallow small (by omega)
  rw [List.append_nil] at all
  simp [read, all]

end Wire.Cbor

namespace Wire.Codec

variable {c : Codec α} {a : α}

/-- A value is read from bytes that read as its document, if the codec recognises it there. -/
theorem read_of_reading {e : Encoding} {bytes : Bytes}
    (reading : e.read bytes = ⟨(c.encode e a).document e, true⟩)
    (recognised : c.decode e ((c.encode e a).document e) = .ok a) : c.read e bytes = .ok a := by
  rw [Codec.read, reading]
  exact bind_eq_ok.2 ⟨a, recognised, rfl⟩

/-- A frame is read if its body is. -/
theorem readFrame_of_read {e : Encoding} (read : c.read e (c.write e a) = .ok a) :
    c.readFrame (c.writeFrame e a) = .ok (e, a) := by
  cases e <;> simp [writeFrame, readFrame, Encoding.tag, Encoding.ofTag?, read]

/-- A value that its codec recognises in its document is read from its frame. -/
theorem readFrame_writeFrame (nesting : Nat)
    (fits : (c.encode .cbor a).Fits nesting) (shallow : nesting < Cbor.depthLimit)
    (small : (c.write .cbor a).length < 2 ^ 64)
    (recognised : c.decode .cbor ((c.encode .cbor a).document .cbor) = .ok a) :
    c.readFrame (c.writeFrame .cbor a) = .ok (.cbor, a) :=
  readFrame_of_read (read_of_reading (Cbor.read_write fits shallow small) recognised)

end Wire.Codec
end ControlComponent
