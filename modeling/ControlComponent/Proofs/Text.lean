import ControlComponent.Proofs.Outcome
import ControlComponent.Text.Decimal
import ControlComponent.Text.Hex
import ControlComponent.Uuid

/-!
Texts that are read back.

The UTF-8 bytes of a text, the hexadecimal text of a byte string and the decimal text of a number
each read as what they were written from.
-/

namespace ControlComponent

/-! ### UTF-8 -/

namespace Bytes

/-- The bytes of a text read as the text. -/
@[simp] theorem toText?_ofText (text : String) : toText? (ofText text) = some text := by
  unfold toText? ofText String.fromUTF8?
  exact dif_pos text.isValidUTF8

/-- Texts with the same bytes are the same. -/
theorem ofText_inj {s t : String} : ofText s = ofText t ↔ s = t := by
  constructor
  · intro same
    have read := congrArg toText? same
    rw [toText?_ofText, toText?_ofText] at read
    exact Option.some.inj read
  · rintro rfl
    rfl

theorem ofText_append (s t : String) : ofText (s ++ t) = ofText s ++ ofText t := by
  simp [ofText]

/-- The first byte of a text does not continue a character. -/
theorem isUTF8FirstByte_of_ofText {text : String} {b : UInt8} {rest : Bytes}
    (bytes : ofText text = b :: rest) : b.IsUTF8FirstByte := by
  have nonempty : 0 < (ofText text).length := by
    rw [bytes]
    exact Nat.succ_pos _
  have positive : 0 < text.toByteArray.size := nonempty
  have first : text.toByteArray[0] = b :=
    calc text.toByteArray[0]
      _ = (ofText text)[0] := rfl
      _ = b := by simp only [bytes, List.getElem_cons_zero]
  exact first ▸ text.isValidUTF8.isUTF8FirstByte_getElem_zero positive

theorem ofText_ofList (chars : List Char) :
    ofText (String.ofList chars) = chars.flatMap String.utf8EncodeChar := by
  simp [ofText, String.toByteArray_ofList, List.utf8Encode]

/-- An ASCII character is one byte. -/
theorem utf8EncodeChar_of_ascii {c : Char} (ascii : c.toNat < 128) :
    String.utf8EncodeChar c = [UInt8.ofNat c.toNat] := by
  have size : c.utf8Size = 1 := by
    rw [Char.utf8Size_eq_one_iff, UInt32.le_iff_toNat_le]
    exact Nat.le_of_lt_succ ascii
  rw [String.utf8EncodeChar_eq_singleton size]
  rfl

theorem ofText_ofList_of_ascii {chars : List Char} (ascii : ∀ c ∈ chars, c.toNat < 128) :
    ofText (String.ofList chars) = chars.map fun c => UInt8.ofNat c.toNat := by
  rw [ofText_ofList]
  induction chars with
  | nil => rfl
  | cons c rest ih =>
    rw [List.flatMap_cons, utf8EncodeChar_of_ascii (ascii c (by simp)),
      ih fun d mem => ascii d (List.mem_cons_of_mem _ mem)]
    rfl

theorem toNat_charOfNat {n : Nat} (ascii : n < 128) : (Char.ofNat n).toNat = n := by
  have valid : n.isValidChar := .inl (by omega)
  rw [Char.ofNat, dif_pos valid]
  rfl

/-- ASCII bytes are the bytes of the text that has them as its characters. -/
theorem ofText_ofList_map_of_ascii {bytes : Bytes} (ascii : ∀ b ∈ bytes, b.toNat < 128) :
    ofText (String.ofList (bytes.map fun b => Char.ofNat b.toNat)) = bytes := by
  rw [ofText_ofList_of_ascii]
  · rw [List.map_map]
    refine (List.map_congr_left ?_).trans (List.map_id _)
    intro b mem
    simp [toNat_charOfNat (ascii b mem)]
  · intro c mem
    obtain ⟨b, among, rfl⟩ := List.mem_map.1 mem
    rw [toNat_charOfNat (ascii b among)]
    exact ascii b among

theorem isSome_toText?_of_ascii {bytes : Bytes} (ascii : ∀ b ∈ bytes, b.toNat < 128) :
    (toText? bytes).isSome = true := by
  rw [← ofText_ofList_map_of_ascii ascii, toText?_ofText]
  rfl

end Bytes

/-! ### Hexadecimal text -/

namespace Text.Hex

/-- The sixteen numbers that a digit stands for, one by one. -/
theorem exists_fin_of_lt {n : UInt8} (small : n < 16) : ∃ k : Fin 16, n = UInt8.ofNat k :=
  ⟨⟨n.toNat, UInt8.lt_iff_toNat_lt.1 small⟩, by simp⟩

theorem digit_ascii {n : UInt8} (small : n < 16) : (digit n).toNat < 128 := by
  obtain ⟨k, rfl⟩ := exists_fin_of_lt small
  revert k
  decide

/-- A digit has the value that it was written for. -/
theorem value?_digit {n : UInt8} (small : n < 16) : value? (digit n) = some n := by
  obtain ⟨k, rfl⟩ := exists_fin_of_lt small
  revert k
  decide

theorem high_lt (b : UInt8) : b >>> 4 < 16 := by
  have := b.toNat_lt
  rw [UInt8.lt_iff_toNat_lt]
  simp [Nat.shiftRight_eq_div_pow]
  omega

theorem low_lt (b : UInt8) : b &&& 15 < 16 := by
  rw [UInt8.lt_iff_toNat_lt]
  have low : b.toNat &&& 15 = b.toNat % 16 := Nat.and_two_pow_sub_one_eq_mod b.toNat 4
  simp [low]
  omega

/-- A byte is sixteen times its high half and its low half. -/
theorem byte_halves (b : UInt8) : (b >>> 4) * 16 + (b &&& 15) = b := by
  have low : b.toNat &&& 15 = b.toNat % 16 := Nat.and_two_pow_sub_one_eq_mod b.toNat 4
  have bound := b.toNat_lt
  apply UInt8.toNat_inj.1
  simp [low, Nat.shiftRight_eq_div_pow]
  omega

theorem digits_ascii (bytes : Bytes) : ∀ d ∈ digits bytes, d.toNat < 128 := by
  induction bytes with
  | nil => simp [digits]
  | cons b rest ih =>
    intro d mem
    rcases List.mem_cons.1 mem with rfl | mem
    · exact digit_ascii (high_lt b)
    rcases List.mem_cons.1 mem with rfl | mem
    · exact digit_ascii (low_lt b)
    · exact ih d mem

theorem ofText_encode (bytes : Bytes) : Bytes.ofText (encode bytes) = digits bytes :=
  Bytes.ofText_ofList_map_of_ascii (digits_ascii bytes)

theorem decodeDigits_digits (bytes : Bytes) (start : Nat) :
    decodeDigits start (digits bytes) = .ok bytes := by
  induction bytes generalizing start with
  | nil => rfl
  | cons b rest ih =>
    simp [digits, decodeDigits, value?_digit (high_lt b), value?_digit (low_lt b), ih, Except.map,
      byte_halves]

@[simp] theorem length_digits (bytes : Bytes) : (digits bytes).length = 2 * bytes.length := by
  induction bytes with
  | nil => rfl
  | cons b rest ih => simp [digits, ih]; omega

/-- Two digits were read for every byte. -/
theorem length_of_decodeDigits {start : Nat} {ds bytes : Bytes}
    (read : decodeDigits start ds = .ok bytes) : ds.length = 2 * bytes.length := by
  induction start, ds using decodeDigits.induct generalizing bytes with
  | case1 start => cases read; rfl
  | case2 start d => cases read
  | case3 start high low rest h => simp [decodeDigits, h] at read
  | case4 start high low rest h lv hv => simp [decodeDigits, hv, lv] at read
  | case5 start high low rest h l hv lv ih =>
    simp only [decodeDigits, hv, lv] at read
    obtain ⟨behind, later, rfl⟩ := map_eq_ok.1 read
    rw [List.length_cons, List.length_cons, List.length_cons, ih later]
    omega

/-- The text of a byte string reads as the byte string. -/
@[simp] theorem decode_encode (bytes : Bytes) : decode (encode bytes) = .ok bytes := by
  simp [decode, ofText_encode, decodeDigits_digits]

end Text.Hex

/-! ### Identifiers -/

namespace Uuid

open Text.Hex (digits)

/-- Text of 36 bytes with hyphens behind the 8th, 12th, 16th and 20th digit is taken as groups. -/
theorem ungroup?_groups {a b c d e : Bytes} (eight : a.length = 8) (four₁ : b.length = 4)
    (four₂ : c.length = 4) (four₃ : d.length = 4) (twelve : e.length = 12) :
    ungroup? (a ++ hyphen :: (b ++ hyphen :: (c ++ hyphen :: (d ++ hyphen :: e)))) =
      some (a ++ b ++ c ++ d ++ e) := by
  rw [ungroup?, if_pos]
  · simp [eight, four₁, four₂, four₃, List.drop_append, List.drop_of_length_le]
  · simp [eight, four₁, four₂, four₃, twelve]

theorem ofText_render (id : Uuid) :
    Bytes.ofText id.render = digits (id.bytes.take 4) ++ hyphen ::
      (digits ((id.bytes.drop 4).take 2) ++ hyphen :: (digits ((id.bytes.drop 6).take 2) ++
        hyphen :: (digits ((id.bytes.drop 8).take 2) ++
          hyphen :: digits ((id.bytes.drop 10).take 6)))) := by
  have bytes : Bytes.ofText "-" = [hyphen] := by decide
  have joined (s t : String) (rest : List String) :
      "-".intercalate (s :: t :: rest) = s ++ "-" ++ "-".intercalate (t :: rest) :=
    String.intercalate_cons_cons
  simp only [render, joined, String.intercalate_singleton, Bytes.ofText_append, bytes,
    Text.Hex.ofText_encode, List.drop_zero, List.append_assoc, List.singleton_append]

theorem digits_append (a b : Bytes) : digits (a ++ b) = digits a ++ digits b := by
  induction a with
  | nil => rfl
  | cons x rest ih => simp [digits, ih]

/-- The text of an identifier of sixteen bytes reads as the identifier. -/
theorem parse?_render {id : Uuid} (sixteen : id.bytes.length = 16) :
    parse? id.render = some id := by
  have groups : digits? (Bytes.ofText id.render) = ungroup? (Bytes.ofText id.render) := by
    have long : (Bytes.ofText id.render).length = 36 := by
      simp [ofText_render, sixteen]
    have other : (Bytes.ofText id.render).take scheme.length ≠ scheme := by
      intro same
      have ninth : ((Bytes.ofText id.render).take scheme.length)[8]? = some hyphen := by
        have inside : 8 < scheme.length := by decide
        rw [List.getElem?_take_of_lt inside, ofText_render]
        simp [sixteen]
      rw [same] at ninth
      exact absurd ninth (by decide)
    rw [digits?, if_neg (by omega), if_neg other]
  have whole : id.bytes.take 4 ++ (id.bytes.drop 4).take 2 ++ (id.bytes.drop 6).take 2 ++
      (id.bytes.drop 8).take 2 ++ (id.bytes.drop 10).take 6 = id.bytes := by
    simp only [← List.take_add, Nat.reduceAdd]
    exact List.take_of_length_le (Nat.le_of_eq sixteen)
  have read : digits? (Bytes.ofText id.render) = some (digits id.bytes) := by
    rw [groups, ofText_render, ungroup?_groups]
    · rw [← digits_append, ← digits_append, ← digits_append, ← digits_append, whole]
    all_goals simp [sixteen]
  simp [parse?, read, Text.Hex.decodeDigits_digits, Except.toOption]

/-- The forms of an identifier all have 32 digits. -/
theorem length_of_digits? {text ds : Bytes} (read : digits? text = some ds) : ds.length = 32 := by
  have grouped {text : Bytes} (read : ungroup? text = some ds) : ds.length = 32 := by
    unfold ungroup? at read
    split at read
    · rename_i form
      cases read
      simp [form.1]
    · cases read
  unfold digits? at read
  split at read
  · rename_i plain
    cases read
    exact plain
  · split at read <;> exact grouped read

/-- An identifier that was read from text has sixteen bytes. -/
theorem length_of_parse? {text : String} {id : Uuid} (read : parse? text = some id) :
    id.bytes.length = 16 := by
  obtain ⟨ds, form, read⟩ := Option.bind_eq_some_iff.1 read
  obtain ⟨bytes, decoded, ⟨⟩⟩ := Option.bind_eq_some_iff.1 read
  have two := Text.Hex.length_of_decodeDigits (toOption_eq_some.1 decoded)
  rw [length_of_digits? form] at two
  show bytes.length = 16
  omega

end Uuid

/-! ### Decimal text -/

namespace Text.Decimal

theorem readDigits_eq {n : Nat} {chars : List Char} (digits : ∀ c ∈ chars, c.isDigit = true) :
    readDigits n chars = some (Nat.ofDigitChars 10 chars n) := by
  induction chars generalizing n with
  | nil => rfl
  | cons c rest ih =>
    rw [readDigits, if_pos (digits c (by simp)),
      ih fun d mem => digits d (List.mem_cons_of_mem _ mem)]
    simp [Nat.ofDigitChars, Nat.mul_comm]

/-- The text of a number reads as the number. -/
@[simp] theorem parse?_render (n : Nat) : parse? (render n) = some n := by
  have nonempty : Nat.toDigits 10 n ≠ [] := Nat.toDigits_ne_nil
  simp only [parse?, render, Nat.toList_repr]
  rw [readDigits_eq fun c mem => Nat.isDigit_of_mem_toDigits (by decide) (by decide) mem,
    Nat.ofDigitChars_toDigits (by decide) (by decide)]

/-- Different numbers are different texts. -/
theorem render_injective : Function.Injective render := by
  intro n n' same
  have parsed := parse?_render n
  rw [same, parse?_render] at parsed
  exact (Option.some.inj parsed).symm

end Text.Decimal
end ControlComponent
