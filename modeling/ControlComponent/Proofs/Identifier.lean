import ControlComponent.Message.Computation
import ControlComponent.Proofs.Text

/-!
Where the parts of a text end that is put together without marks between them.

Numbers are written with commas between them, and nothing else is written with them, so a list of
numbers can be told from its text. The text of an identifier has one of three forms, of which one
is the end of another: the scheme name can be left out. The other ends of a text cannot be mistaken,
because the 28th byte from the end is a hyphen in two of the forms and a digit in the third. So an
identifier at the end of a text can be told from what stands before it, unless that ends in a colon
like the scheme name. At the beginning of a text no form is the beginning of another one, and an
identifier can always be told from what stands behind it.
-/

namespace ControlComponent

/-! ### Lists of numbers -/

namespace Text.Decimal

/-- The characters that stand behind the first number of a list. -/
def behindFirst (rest : List Nat) : List Char := rest.flatMap fun n => ',' :: (render n).toList

theorem toList_commaSeparated_cons (n : Nat) (rest : List Nat) :
    (commaSeparated (n :: rest)).toList = (render n).toList ++ behindFirst rest := by
  induction rest generalizing n with
  | nil => simp [commaSeparated, behindFirst]
  | cons m rest ih =>
    have joined : commaSeparated (n :: m :: rest) = render n ++ "," ++ commaSeparated (m :: rest) :=
      String.intercalate_cons_cons
    rw [joined, String.toList_append, String.toList_append, ih, List.append_assoc]
    rfl

theorem isDigit_of_mem_render {n : Nat} {c : Char} (mem : c ∈ (render n).toList) :
    c.isDigit = true := by
  rw [render, Nat.toList_repr] at mem
  exact Nat.isDigit_of_mem_toDigits (by decide) (by decide) mem

/-- A number can be told from what stands behind it. -/
theorem render_append_inj {n n' : Nat} {rest rest' : List Nat}
    (same : (render n).toList ++ behindFirst rest = (render n').toList ++ behindFirst rest') :
    n = n' ∧ behindFirst rest = behindFirst rest' := by
  have digits (n : Nat) (rest : List Nat) :
      ((render n).toList ++ behindFirst rest).takeWhile Char.isDigit = (render n).toList := by
    rw [List.takeWhile_append_of_pos fun c mem => isDigit_of_mem_render mem]
    cases rest with
    | nil => simp [behindFirst]
    | cons m rest => simp [behindFirst]
  have first : (render n).toList = (render n').toList := by
    rw [← digits n rest, same, digits n' rest']
  rw [first] at same
  exact ⟨render_injective (String.toList_inj.1 first), List.append_cancel_left same⟩

theorem behindFirst_injective : Function.Injective behindFirst := by
  intro rest rest' same
  induction rest generalizing rest' with
  | nil =>
    cases rest' with
    | nil => rfl
    | cons n' rest' => cases same
  | cons n rest ih =>
    cases rest' with
    | nil => cases same
    | cons n' rest' =>
      obtain ⟨rfl, later⟩ := render_append_inj (List.cons.inj same).2
      rw [ih later]

/-- A list of numbers can be told from its text. -/
theorem commaSeparated_injective : Function.Injective commaSeparated := by
  intro values values' same
  have nonempty (n : Nat) (rest : List Nat) : commaSeparated (n :: rest) ≠ "" := by
    intro empty
    have chars := toList_commaSeparated_cons n rest
    rw [empty, render, Nat.toList_repr] at chars
    exact Nat.toDigits_ne_nil (List.append_eq_nil_iff.1 chars.symm).1
  cases values with
  | nil =>
    cases values' with
    | nil => rfl
    | cons n' rest' => exact absurd same.symm (nonempty n' rest')
  | cons n rest =>
    cases values' with
    | nil => exact absurd same (nonempty n rest)
    | cons n' rest' =>
      have chars := congrArg String.toList same
      rw [toList_commaSeparated_cons, toList_commaSeparated_cons] at chars
      obtain ⟨rfl, later⟩ := render_append_inj chars
      rw [behindFirst_injective later]

theorem mem_commaSeparated {values : List Nat} {c : Char}
    (mem : c ∈ (commaSeparated values).toList) : c = ',' ∨ c.isDigit = true := by
  cases values with
  | nil => cases mem
  | cons n rest =>
    rw [toList_commaSeparated_cons] at mem
    rcases List.mem_append.1 mem with first | behind
    · exact .inr (isDigit_of_mem_render first)
    · obtain ⟨m, -, mem⟩ := List.mem_flatMap.1 behind
      rcases List.mem_cons.1 mem with rfl | digit
      · exact .inl rfl
      · exact .inr (isDigit_of_mem_render digit)

end Text.Decimal

/-! ### Hexadecimal digits -/

namespace Text.Hex

/-- All digits that are read are digits. -/
theorem isSome_value?_of_decodeDigits {start : Nat} {ds bytes : Bytes}
    (read : decodeDigits start ds = .ok bytes) :
    ∀ d ∈ ds, (value? d).isSome = true := by
  induction start, ds using decodeDigits.induct generalizing bytes with
  | case1 start => exact fun _ mem => absurd mem List.not_mem_nil
  | case2 start d => cases read
  | case3 start high low rest bad => simp [decodeDigits, bad] at read
  | case4 start high low rest h bad good => simp [decodeDigits, good, bad] at read
  | case5 start high low rest h l second first ih =>
    simp only [decodeDigits, first, second] at read
    obtain ⟨behind, later, -⟩ := map_eq_ok.1 read
    have digit : (value? high).isSome = true := by rw [first]; rfl
    have digit' : (value? low).isSome = true := by rw [second]; rfl
    exact List.forall_mem_cons.2 ⟨digit, List.forall_mem_cons.2 ⟨digit', ih later⟩⟩

end Text.Hex

/-! ### Identifiers -/

namespace Uuid

open Text.Hex (value?)

/-- The byte of a colon, with which the scheme name ends. -/
def colon : UInt8 := 58

/-- Whether a text has the grouped form, as far as it matters where a text ends: it has 36 bytes, a
hyphen behind the first eight digits, and digits at its end. -/
structure Grouped (text : Bytes) : Prop where
  length : text.length = 36
  divided : text[8]? = some hyphen
  digits : ∀ b ∈ text.drop 24, (value? b).isSome = true

/-- The forms of an identifier's text. -/
inductive Form : Bytes → Prop
  | plain {text : Bytes} (length : text.length = 32)
      (digits : ∀ b ∈ text, (value? b).isSome = true) : Form text
  | grouped {text : Bytes} (grouped : Grouped text) : Form text
  | schemed {text : Bytes} (grouped : Grouped text) : Form (scheme ++ text)

theorem grouped_of_ungroup? {text ds : Bytes} (read : ungroup? text = some ds)
    (digits : ∀ d ∈ ds, (value? d).isSome = true) : Grouped text := by
  unfold ungroup? at read
  split at read
  · rename_i form
    cases read
    refine ⟨form.1, form.2.1, fun b mem => digits b ?_⟩
    exact List.mem_append_right _ mem
  · cases read

/-- What writes an identifier has one of the forms. -/
theorem form_of_isWritten {text : String} (written : isWritten text = true) :
    Form (Bytes.ofText text) := by
  obtain ⟨id, read⟩ := Option.isSome_iff_exists.1 written
  obtain ⟨ds, form, read⟩ := Option.bind_eq_some_iff.1 read
  obtain ⟨bytes, decoded, -⟩ := Option.bind_eq_some_iff.1 read
  have digits := Text.Hex.isSome_value?_of_decodeDigits (toOption_eq_some.1 decoded)
  unfold digits? at form
  split at form
  · rename_i length
    cases form
    exact .plain length digits
  · split at form
    · rename_i begins
      have whole : scheme ++ (Bytes.ofText text).drop scheme.length = Bytes.ofText text := by
        conv => lhs; lhs; rw [← begins]
        exact List.take_append_drop ..
      rw [← whole]
      exact .schemed (grouped_of_ungroup? form digits)
    · exact .grouped (grouped_of_ungroup? form digits)

/-- The last byte of the grouped form is a digit. -/
theorem Grouped.getLast {text : Bytes} (grouped : Grouped text) :
    ∃ b, text.getLast? = some b ∧ (value? b).isSome = true := by
  have length : (text.drop 24).length = 12 := by rw [List.length_drop, grouped.length]
  have nonempty : text.drop 24 ≠ [] := by
    intro empty
    rw [empty] at length
    cases length
  refine ⟨(text.drop 24).getLast nonempty, ?_, grouped.digits _ (List.getLast_mem nonempty)⟩
  rw [← List.getLast?_eq_some_getLast nonempty, List.getLast?_drop,
    if_neg (by rw [grouped.length]; decide)]

/-- The last byte of an identifier's text is a digit. -/
theorem Form.getLast {text : Bytes} (form : Form text) :
    ∃ b, text.getLast? = some b ∧ (value? b).isSome = true := by
  cases form with
  | plain length digits =>
    have nonempty : text ≠ [] := by
      rintro rfl
      cases length
    exact ⟨_, List.getLast?_eq_some_getLast nonempty, digits _ (List.getLast_mem nonempty)⟩
  | grouped grouped => exact grouped.getLast
  | schemed grouped =>
    obtain ⟨b, last, digit⟩ := grouped.getLast
    refine ⟨b, ?_, digit⟩
    rw [List.getLast?_append, last]
    rfl

/-- The 28th byte from the end is a hyphen in the grouped form. -/
theorem Grouped.mark {text : Bytes} (grouped : Grouped text) (before : Bytes) :
    (before ++ text).reverse[27]? = some hyphen := by
  have inside : 27 < text.reverse.length := by
    rw [List.length_reverse, grouped.length]
    decide
  rw [List.reverse_append, List.getElem?_append_left inside, List.getElem?_reverse
    (by rw [grouped.length]; decide), grouped.length]
  exact grouped.divided

/-- The 28th byte from the end is a digit in the plain form. -/
theorem mark_plain {text : Bytes} (length : text.length = 32)
    (digits : ∀ b ∈ text, (value? b).isSome = true) (before : Bytes) :
    (before ++ text).reverse[27]? ≠ some hyphen := by
  have inside : 27 < text.reverse.length := by
    rw [List.length_reverse, length]
    decide
  rw [List.reverse_append, List.getElem?_append_left inside]
  intro mark
  have digit := digits _ (List.mem_reverse.1 (List.mem_of_getElem? mark))
  exact absurd digit (by decide)

/-- **An identifier at the end of a text can be told from what stands before it**, up to the scheme
name. -/
theorem Form.append_cases {x y a b : Bytes} (forma : Form a) (formb : Form b)
    (same : x ++ a = y ++ b) :
    (x = y ∧ a = b) ∨ x = y ++ scheme ∨ y = x ++ scheme := by
  have grouped_append {t u : Bytes} (first : Grouped t) (second : Grouped u) {x y : Bytes}
      (same : x ++ t = y ++ u) : x = y ∧ t = u :=
    List.append_inj' same (first.length.trans second.length.symm)
  cases forma with
  | plain length digits =>
    cases formb with
    | plain length' digits' => exact .inl (List.append_inj' same (length.trans length'.symm))
    | grouped second => exact absurd (same ▸ second.mark y) (mark_plain length digits x)
    | schemed second =>
      rw [← List.append_assoc] at same
      exact absurd (same ▸ second.mark (y ++ scheme)) (mark_plain length digits x)
  | grouped first =>
    cases formb with
    | plain length' digits' => exact absurd (same ▸ first.mark x) (mark_plain length' digits' y)
    | grouped second => exact .inl (grouped_append first second same)
    | schemed second =>
      rw [← List.append_assoc] at same
      exact .inr (.inl (grouped_append first second same).1)
  | schemed first =>
    rw [← List.append_assoc] at same
    cases formb with
    | plain length' digits' =>
      exact absurd (same ▸ first.mark (x ++ scheme)) (mark_plain length' digits' y)
    | grouped second => exact .inr (.inr (grouped_append first second same).1.symm)
    | schemed second =>
      rw [← List.append_assoc] at same
      obtain ⟨before, rfl⟩ := grouped_append first second same
      exact .inl ⟨List.append_cancel_right before, rfl⟩

/-- An identifier at the end of a text can be told from what stands before it, if that does not end
in a colon. -/
theorem Form.append_inj {x y a b : Bytes} (forma : Form a) (formb : Form b)
    (unmarked : x.getLast? ≠ some colon) (unmarked' : y.getLast? ≠ some colon)
    (same : x ++ a = y ++ b) : x = y ∧ a = b := by
  have last (z : Bytes) : (z ++ scheme).getLast? = some colon := by
    rw [List.getLast?_append, show scheme.getLast? = some colon by decide]
    rfl
  rcases forma.append_cases formb same with parts | rfl | rfl
  · exact parts
  · exact absurd (last y) unmarked
  · exact absurd (last x) unmarked'

/-- What ends in an identifier does not end in a colon. -/
theorem Form.getLast?_append_ne {text : Bytes} (form : Form text) (before : Bytes) :
    (before ++ text).getLast? ≠ some colon := by
  obtain ⟨b, last, digit⟩ := form.getLast
  rw [List.getLast?_append, last]
  intro same
  cases same
  exact absurd digit (by decide)

/-- A list of numbers does not end in a colon. -/
theorem getLast?_commaSeparated_ne (values : List Nat) :
    (Bytes.ofText (Text.Decimal.commaSeparated values)).getLast? ≠ some colon := by
  intro last
  have range : ∀ c ∈ (Text.Decimal.commaSeparated values).toList, c.toNat < 58 := by
    intro c mem
    rcases Text.Decimal.mem_commaSeparated mem with rfl | digit
    · decide
    · simp only [Char.isDigit, Bool.and_eq_true, decide_eq_true_eq, UInt32.le_iff_toNat_le] at digit
      exact Nat.lt_succ_of_le digit.2
  have chars : Text.Decimal.commaSeparated values =
      String.ofList (Text.Decimal.commaSeparated values).toList := String.ofList_toList.symm
  have mem := List.mem_of_getLast? last
  rw [chars, Bytes.ofText_ofList_of_ascii fun c mem => Nat.lt_trans (range c mem) (by decide)]
    at mem
  obtain ⟨c, mem, same⟩ := List.mem_map.1 mem
  have small := range c mem
  have value := congrArg UInt8.toNat same
  rw [UInt8.toNat_ofNat', Nat.mod_eq_of_lt (by omega)] at value
  exact absurd value (Nat.ne_of_lt small)

/-- A list of numbers and two identifiers behind it can be told from their joint text. -/
theorem commaSeparated_append_inj {values values' : List Nat} {s t s' t' : String}
    (first : isWritten s = true) (second : isWritten t = true) (first' : isWritten s' = true)
    (second' : isWritten t' = true)
    (same : Bytes.ofText (Text.Decimal.commaSeparated values) ++ Bytes.ofText s ++ Bytes.ofText t =
      Bytes.ofText (Text.Decimal.commaSeparated values') ++ Bytes.ofText s' ++ Bytes.ofText t') :
    values = values' ∧ s = s' ∧ t = t' := by
  have form := form_of_isWritten first
  have form' := form_of_isWritten first'
  obtain ⟨front, seconds⟩ := (form_of_isWritten second).append_inj (form_of_isWritten second')
    (form.getLast?_append_ne _) (form'.getLast?_append_ne _) same
  obtain ⟨lists, firsts⟩ := form.append_inj form' (getLast?_commaSeparated_ne values)
    (getLast?_commaSeparated_ne values') front
  exact ⟨Text.Decimal.commaSeparated_injective (Bytes.ofText_inj.1 lists),
    Bytes.ofText_inj.1 firsts, Bytes.ofText_inj.1 seconds⟩

/-! ### At the beginning of a text -/

/-- The ninth byte is a hyphen in the grouped form, a colon behind the scheme name and a digit in
the plain form, so it tells how long an identifier's text is. -/
theorem Form.length_eq {text : Bytes} (form : Form text) :
    text.length =
      if text[8]? = some hyphen then 36 else if text[8]? = some colon then 45 else 32 := by
  cases form with
  | plain length digits =>
    have digit {b : UInt8} (ninth : text[8]? = some b) : (value? b).isSome = true :=
      digits b (List.mem_of_getElem? ninth)
    rw [if_neg fun ninth => absurd (digit ninth) (by decide),
      if_neg fun ninth => absurd (digit ninth) (by decide), length]
  | grouped grouped => rw [if_pos grouped.divided, grouped.length]
  | @schemed text grouped =>
    have ninth : (scheme ++ text)[8]? = some colon := by
      rw [List.getElem?_append_left (by decide)]
      decide
    rw [ninth, if_neg (by decide), if_pos rfl, List.length_append, grouped.length]
    decide

theorem Form.eight_lt_length {text : Bytes} (form : Form text) : 8 < text.length := by
  rw [form.length_eq]
  split
  · decide
  · split <;> decide

/-- An identifier at the beginning of a text can be told from what stands behind it. -/
theorem Form.append_inj_front {a b x y : Bytes} (forma : Form a) (formb : Form b)
    (same : a ++ x = b ++ y) : a = b ∧ x = y := by
  have ninth : a[8]? = b[8]? := by
    rw [← List.getElem?_append_left forma.eight_lt_length, same,
      List.getElem?_append_left formb.eight_lt_length]
  exact List.append_inj same (by rw [forma.length_eq, formb.length_eq, ninth])

/-! ### Blank texts -/

/-- The blank characters, one by one. -/
theorem mem_blanks {c : Char} (blank : Text.isBlankChar c = true) :
    c.toNat ∈ [9, 10, 11, 12, 13, 0x20, 0x85, 0xA0, 0x1680, 0x2000, 0x2001, 0x2002, 0x2003, 0x2004,
      0x2005, 0x2006, 0x2007, 0x2008, 0x2009, 0x200A, 0x2028, 0x2029, 0x202F, 0x205F, 0x3000] := by
  simp only [Text.isBlankChar, Bool.or_eq_true, Bool.and_eq_true, decide_eq_true_eq,
    beq_iff_eq] at blank
  simp only [List.mem_cons, List.not_mem_nil, or_false]
  omega

/-- A blank character is written without hexadecimal digits. -/
theorem value?_of_isBlankChar {c : Char} (blank : Text.isBlankChar c = true) :
    ∀ b ∈ String.utf8EncodeChar c, value? b = none := by
  have mem := mem_blanks blank
  rw [← Char.ofNat_toNat c]
  generalize c.toNat = n at mem
  revert n
  decide +kernel

/-- What writes an identifier is not blank. -/
theorem isBlank_of_isWritten {text : String} (written : isWritten text = true) :
    Text.isBlank text = false := by
  obtain ⟨b, last, digit⟩ := (form_of_isWritten written).getLast
  have mem := List.mem_of_getLast? last
  rw [← text.ofList_toList, Bytes.ofText_ofList] at mem
  obtain ⟨c, among, inside⟩ := List.mem_flatMap.1 mem
  refine Bool.eq_false_iff.2 fun blank => ?_
  rw [value?_of_isBlankChar (List.all_eq_true.1 blank c among) b inside] at digit
  cases digit

end Uuid

/-! ### Requests -/

/-- The names of a request are taken if they are identifiers. -/
theorem Message.Computation.Envelope.isId_eq_isWritten (text : String) :
    isId text = Uuid.isWritten text := by
  unfold isId
  cases written : Uuid.isWritten text with
  | false => rw [Bool.and_false]
  | true => rw [Uuid.isBlank_of_isWritten written, Bool.not_false, Bool.and_true]

/-- No field is invalid if there is a request's name, three identifiers and a payload. -/
theorem Message.Computation.Envelope.invalidFields_eq_nil {e : Envelope α} :
    e.invalidFields = [] ↔ Text.isBlank e.requestId = false ∧ Uuid.isWritten e.cardId = true ∧
      Uuid.isWritten e.setId = true ∧ Uuid.isWritten e.electionId = true ∧
      e.payload.isSome = true := by
  unfold invalidFields
  rw [isId_eq_isWritten, isId_eq_isWritten, isId_eq_isWritten, List.append_eq_nil_iff,
    List.append_eq_nil_iff, List.append_eq_nil_iff, List.append_eq_nil_iff, and_assoc, and_assoc,
    and_assoc]
  refine and_congr ?_ (and_congr ?_ (and_congr ?_ (and_congr ?_ ?_)))
  · cases Text.isBlank e.requestId <;> simp
  · cases Uuid.isWritten e.cardId <;> simp
  · cases Uuid.isWritten e.setId <;> simp
  · cases Uuid.isWritten e.electionId <;> simp
  · cases e.payload <;> simp

end ControlComponent
