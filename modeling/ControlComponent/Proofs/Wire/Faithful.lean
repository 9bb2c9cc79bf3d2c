import ControlComponent.Proofs.Outcome
import ControlComponent.Proofs.Wire.JsonRead
import ControlComponent.Wire.Record

/-!
Faithful codecs.

A codec is faithful if it reads from the document of a written value that value, or else nothing. No
value is mistaken for another one, whether or not every value can be read. Faithfulness passes from
the codecs of its fields to the codec of a record.
-/

namespace ControlComponent.Wire

/-- What is read from a written value, if anything, is the value. -/
def Codec.Faithful (c : Codec α) : Prop :=
  ∀ e v v', c.decode e ((c.encode e v).document e) = .ok v' → v' = v

/-! ### Numbers -/

namespace Json

theorem fit_fst {value : Nat} {digits : Bytes} (whole : (fit value digits).2 = 0) :
    (fit value digits).1 = digits.foldl (fun n b => n * 10 + (b.toNat - 48)) value := by
  induction digits generalizing value with
  | nil => rfl
  | cons d rest ih =>
    rw [fit] at whole ⊢
    split
    · rename_i fits
      rw [if_pos fits] at whole
      exact ih whole
    · rename_i exceeds
      rw [if_neg exceeds] at whole
      cases whole

theorem foldl_digits {chars : List Char} (digits : ∀ c ∈ chars, c.isDigit = true) (value : Nat) :
    (chars.map fun c => UInt8.ofNat c.toNat).foldl (fun n b => n * 10 + (b.toNat - 48)) value =
      Nat.ofDigitChars 10 chars value := by
  induction chars generalizing value with
  | nil => rfl
  | cons c rest ih =>
    have high := toNat_le_of_isDigit (digits c (by simp))
    have byte : (UInt8.ofNat c.toNat).toNat = c.toNat := by
      simp
      omega
    rw [List.map_cons, List.foldl_cons, ih fun d mem => digits d (List.mem_cons_of_mem _ mem), byte]
    simp [Nat.ofDigitChars, Nat.mul_comm]

/-- The digits of a number write the number. -/
theorem digitsValue_writeNat (n : Nat) : digitsValue (writeNat n) = n := by
  rw [digitsValue, writeNat_eq,
    foldl_digits fun c mem => Nat.isDigit_of_mem_toDigits (by decide) (by decide) mem,
    Nat.ofDigitChars_toDigits (by decide) (by decide)]

end Json

/-- An integer that a written number reads as is the number. -/
theorem documentOfNat_int {e : Encoding} {n : Nat} {value : Int} {width : Nat}
    (read : (e.documentOfNat n).unmarked = .int value width) : value = n := by
  cases e with
  | cbor =>
    cases read
    rfl
  | json =>
    simp only [Encoding.documentOfNat, Json.integer] at read
    split at read
    · cases read
    · rename_i whole
      cases read
      rw [Json.fit_fst (by simpa using whole)]
      exact congrArg Nat.cast (Json.digitsValue_writeNat n)

namespace Codec

/-! ### Single values -/

theorem faithful_text : text.Faithful := by
  rintro e s s' ⟨⟩
  rfl

theorem faithful_flag : flag.Faithful := by
  rintro e b b' ⟨⟩
  rfl

theorem faithful_natural (limit : Nat) : (natural limit).Faithful := by
  intro e n n' read
  simp only [natural, Data.document] at read
  split at read
  · rename_i value width int
    have := documentOfNat_int int
    split at read
    · cases read
      omega
    · cases read
  · cases read

theorem faithful_decimal : decimal.Faithful := by
  intro e n n' read
  simp [decimal, Data.document, textOf, decimalOf, bind, Except.bind] at read
  exact read.symm

theorem faithful_list {c : Codec α} (faithful : c.Faithful) : c.list.Faithful := by
  intro e values values' read
  simp only [list, Data.document, Data.documents_eq_map, List.map_map] at read
  exact mapM_map_eq (fun a _ a' one => faithful e a a' one) read

theorem faithful_decimals : decimals.Faithful := by
  intro e ns ns' read
  simp only [decimals, Data.document, Data.documents_eq_map, List.map_map] at read
  obtain ⟨items, listed, read⟩ := bind_eq_ok.1 read
  cases listed
  obtain ⟨texts, written, read⟩ := bind_eq_ok.1 read
  have texts_eq : texts = ns.map Text.Decimal.render := by
    rw [show ns.map (Data.document e ∘ fun n => Data.text (Text.Decimal.render n)) =
      (ns.map Text.Decimal.render).map fun s => Document.text (some s) by simp [Data.document]]
      at written
    exact mapM_map_eq (fun s _ s' one => by cases one; rfl) written
  subst texts_eq
  refine mapM_map_eq ?_ read
  intro n _ n' one
  simp only [decimalOf, Text.Decimal.parse?_render] at one
  cases one
  rfl

/-! ### Byte strings -/

theorem hexOf_hexData {e : Encoding} {b b' : Bytes}
    (read : hexOf e ((hexData e b).document e) = .ok b') : b' = b := by
  cases e with
  | cbor =>
    cases read
    rfl
  | json =>
    simp [hexOf, hexData, Data.document, textOf, Text.Hex.decode?, bind, Except.bind,
      Except.toOption] at read
    exact read.symm

theorem faithful_publicKey : publicKey.Faithful := by
  intro e key key' read
  obtain ⟨bytes, read, checked⟩ := bind_eq_ok.1 read
  obtain rfl := hexOf_hexData read
  split at checked
  · rename_i key'' valid
    cases checked
    simp only [Signature.Ed25519.publicKeyOfBytes] at valid
    repeat' split at valid
    all_goals cases valid
    rfl
  · cases checked

theorem faithful_signature : signature.Faithful := by
  intro e s s' read
  obtain ⟨bytes, read, checked⟩ := bind_eq_ok.1 read
  obtain rfl := hexOf_hexData read
  split at checked
  · rename_i s'' valid
    cases checked
    simp only [Signature.Ed25519.signatureOfBytes] at valid
    split at valid
    · cases valid
      rfl
    · cases valid
  · cases checked

/-! ### Records -/

end Codec

namespace Schema

/-- A schema whose fields all have faithful codecs. -/
def Faithful : Schema σ α → Prop
  | .done => True
  | .field _ codec _ rest => codec.Faithful ∧ rest.Faithful

theorem Faithful.done : Schema.done.Faithful := trivial

theorem Faithful.required {name : String} {codec : Codec α} {rest : Schema σ β}
    (field : codec.Faithful) (fields : rest.Faithful) : (required name codec rest).Faithful :=
  ⟨field, fields⟩

/-- Entries whose keys are names, as those of a written record are. -/
def Named (es : List (Document × Document)) : Prop :=
  ∀ entry ∈ es, ∃ name, entry.1 = .text (some name)

theorem named_entries (e : Encoding) (fields : List (String × Data)) :
    Named (Data.entries e fields) := by
  induction fields with
  | nil => simp [Named, Data.entries]
  | cons field fields ih =>
    intro entry mem
    rcases List.mem_cons.1 mem with rfl | mem
    · exact ⟨field.1, rfl⟩
    · exact ih entry mem

/-- Once a field is filled, entries only go to the fields behind it. -/
theorem putAll_filled {name : String} {codec : Codec α} {absence : Absence α} {rest : Schema σ β}
    {e : Encoding} {value : α} {slots : σ} {es : List (Document × Document)}
    {filled : Option α × σ} (named : Named es)
    (all : (field name codec absence rest).putAll e es (some value, slots) = .ok filled) :
    ∃ slots', rest.putAll e es slots = .ok slots' ∧ filled = (some value, slots') := by
  induction es generalizing slots with
  | nil =>
    cases all
    exact ⟨slots, rfl, rfl⟩
  | cons entry es ih =>
    obtain ⟨k, v⟩ := entry
    obtain ⟨other, rfl⟩ := named (k, v) (by simp)
    obtain ⟨key, ⟨⟩, all⟩ := bind_eq_ok.1 all
    obtain ⟨slots₁, one, later⟩ := bind_eq_ok.1 all
    rw [put] at one
    split at one
    · cases one
    · obtain ⟨slots₂, behind, rfl⟩ := map_eq_ok.1 one
      obtain ⟨slots', more, rfl⟩ :=
        ih (fun entry mem => named entry (List.mem_cons_of_mem _ mem)) later
      exact ⟨slots', bind_eq_ok.2 ⟨_, rfl, bind_eq_ok.2 ⟨slots₂, behind, more⟩⟩, rfl⟩

/-- What the entries of a written record fill is the record. -/
theorem Faithful.finish {s : Schema σ α} (faithful : s.Faithful) {e : Encoding} {values values' : α}
    {slots : σ} (filled : s.putAll e (Data.entries e (s.write e values)) s.blank = .ok slots)
    (finished : s.finish slots = .ok values') : values' = values := by
  induction s with
  | done => rfl
  | field name codec absence rest ih =>
    obtain ⟨value, values⟩ := values
    simp only [write, Data.entries] at filled
    obtain ⟨key, ⟨⟩, filled⟩ := bind_eq_ok.1 filled
    obtain ⟨slots₁, one, later⟩ := bind_eq_ok.1 filled
    simp only [blank, put, isNamed, beq_self_eq_true, if_true] at one
    obtain ⟨value', decoded, rfl⟩ := map_eq_ok.1 one
    obtain rfl := faithful.1 e value value' decoded
    obtain ⟨slots', more, rfl⟩ := putAll_filled (named_entries e _) later
    obtain ⟨value'', ⟨⟩, finishing⟩ := bind_eq_ok.1 finished
    obtain ⟨values'', ended, ⟨⟩⟩ := bind_eq_ok.1 finishing
    rw [ih faithful.2 more ended]

end Schema

namespace Codec

/-- A record is read from what was written of it, if its fields are and make the record again. -/
theorem faithful_checkedRecord {s : Schema σ α} (faithful : s.Faithful) {toFields : ρ → α}
    {ofFields : α → Except Fault ρ}
    (remade : ∀ r r', ofFields (toFields r) = .ok r' → r' = r) :
    (checkedRecord s toFields ofFields).Faithful := by
  intro e r r' read
  obtain ⟨values, read, made⟩ := bind_eq_ok.1 read
  obtain ⟨slots, filled, finished⟩ := bind_eq_ok.1 read
  obtain rfl := faithful.finish filled finished
  exact remade r r' made

theorem faithful_record {s : Schema σ α} (faithful : s.Faithful) {toFields : ρ → α}
    {ofFields : α → ρ} (remade : ∀ r, ofFields (toFields r) = r) :
    (record s toFields ofFields).Faithful :=
  faithful_checkedRecord faithful fun r r' made => by
    cases made
    exact remade r

theorem faithful_group : group.Faithful := by
  refine faithful_checkedRecord (.required faithful_decimal (.required faithful_decimal
    (.required faithful_decimal .done))) ?_
  intro g g' made
  dsimp only at made
  split at made
  · rename_i group valid
    cases made
    obtain ⟨p, q, g⟩ := Group.ofValues_eq_ok.1 valid
    exact Group.eq_of_values p q g
  · cases made

/-- A byte string that reads as the document of a value gives the value, if it gives any. -/
theorem Faithful.read {c : Codec α} (faithful : c.Faithful) {e : Encoding} {bytes : Bytes}
    {v v' : α} (reads : e.read bytes = ⟨(c.encode e v).document e, true⟩)
    (done : c.read e bytes = .ok v') : v' = v := by
  unfold Codec.read at done
  rw [reads] at done
  obtain ⟨v'', decoded, done⟩ := bind_eq_ok.1 done
  cases done
  exact faithful e v v' decoded

end Codec

/-! ### Nesting -/

/-- A codec whose values are written with lists and records nested at most so deep. -/
def Codec.FitsIn (c : Codec α) (nesting : Nat) : Prop :=
  ∀ v, (c.encode .cbor v).Fits nesting

/-- A schema whose fields are written with lists and records nested at most so deep. -/
def Schema.FitsIn (nesting : Nat) : Schema σ α → Prop
  | .done => True
  | .field _ codec _ rest => codec.FitsIn nesting ∧ rest.FitsIn nesting

theorem Schema.FitsIn.done {nesting : Nat} : Schema.done.FitsIn nesting := trivial

theorem Schema.FitsIn.required {nesting : Nat} {name : String} {codec : Codec α}
    {rest : Schema σ β} (field : codec.FitsIn nesting) (fields : rest.FitsIn nesting) :
    (Schema.required name codec rest).FitsIn nesting :=
  ⟨field, fields⟩

theorem Schema.FitsIn.write {nesting : Nat} {s : Schema σ α} (fits : s.FitsIn nesting)
    (values : α) : Data.FieldsFit nesting (s.write .cbor values) := by
  induction s with
  | done => trivial
  | field name codec absence rest ih => exact ⟨fits.1 values.1, ih fits.2 values.2⟩

namespace Codec

variable {nesting : Nat}

theorem fitsIn_text : text.FitsIn nesting := fun _ => by cases nesting <;> trivial

theorem fitsIn_publicKey : publicKey.FitsIn nesting := fun _ => by cases nesting <;> trivial

theorem fitsIn_signature : signature.FitsIn nesting := fun _ => by cases nesting <;> trivial

theorem fitsIn_list {c : Codec α} (fits : c.FitsIn nesting) : c.list.FitsIn (nesting + 1) := by
  intro values
  show Data.ItemsFit nesting (values.map (c.encode .cbor))
  induction values with
  | nil => trivial
  | cons v rest ih => exact ⟨fits v, ih⟩

theorem fitsIn_decimals : decimals.FitsIn (nesting + 1) :=
  fitsIn_list (c := decimal) fun n => fitsIn_text (Text.Decimal.render n)

theorem fitsIn_checkedRecord {s : Schema σ α} (fits : s.FitsIn nesting) {toFields : ρ → α}
    {ofFields : α → Except Fault ρ} : (checkedRecord s toFields ofFields).FitsIn (nesting + 1) :=
  fun r => fits.write (toFields r)

theorem fitsIn_group : group.FitsIn (nesting + 1) :=
  have decimal : decimal.FitsIn nesting := fun n => fitsIn_text (Text.Decimal.render n)
  fitsIn_checkedRecord (.required decimal (.required decimal (.required decimal .done)))

end Codec
end ControlComponent.Wire
