import ControlComponent.Proofs.Text
import ControlComponent.Proofs.Wire.Written

/-!
Reading JSON that was written.

Written data is cut into the tokens of its document, whatever white space stands between them, and
these tokens make the document. The two halves meet in `dataTokens`; only the first one looks at
bytes. So both layouts, indented and without any space, read as the same document.
-/

namespace ControlComponent.Wire.Json

/-! ### Strings -/

/-- How a byte of a text is read back: as a byte, or as the unit that escapes it. -/
def pieceOf (b : UInt8) : Piece :=
  if b < 32 ∧ b ≠ 8 ∧ b ≠ 9 ∧ b ≠ 10 ∧ b ≠ 12 ∧ b ≠ 13 then .unit b.toNat else .byte b

/-- The control characters, one by one. -/
theorem exists_fin_of_lt {b : UInt8} (control : b < 32) : ∃ k : Fin 32, b = UInt8.ofNat k :=
  ⟨⟨b.toNat, UInt8.lt_iff_toNat_lt.1 control⟩, by simp⟩

theorem pieces_byte {b : UInt8} {before : List Piece} {rest : Bytes} (printable : ¬ b < 32)
    (quote : b ≠ 34) (backslash : b ≠ 92) :
    pieces before (b :: rest) = pieces (.byte b :: before) rest := by
  rw [pieces]
  · rw [if_neg (by simp [printable, backslash])]
  all_goals simp [quote, backslash]

theorem pieces_short {b c : UInt8} {before : List Piece} {rest : Bytes}
    (short : escaped? c = some b) (unit : c ≠ 117) :
    pieces before (92 :: c :: rest) = pieces (.byte b :: before) rest := by
  rw [pieces]
  · rw [short]
  all_goals simp [unit]

/-- The two last digits of an escaped control character. -/
theorem unit?_hexDigits {b : UInt8} (control : b < 32) :
    hexDigits b = [48 + b / 16, (hexDigits b).getLastD 0] ∧
      unit? 48 48 (48 + b / 16) ((hexDigits b).getLastD 0) = some b.toNat := by
  obtain ⟨k, rfl⟩ := exists_fin_of_lt control
  revert k
  decide

theorem pieces_unit {b : UInt8} (control : b < 32) (before : List Piece) (rest : Bytes) :
    pieces before (92 :: 117 :: 48 :: 48 :: (hexDigits b ++ rest)) =
      pieces (.unit b.toNat :: before) rest := by
  obtain ⟨digits, unit⟩ := unit?_hexDigits control
  rw [digits, List.cons_append, List.cons_append, List.nil_append, pieces, unit]

/-- An escaped byte is read as its piece. -/
theorem pieces_escape (b : UInt8) (before : List Piece) (rest : Bytes) :
    pieces before (escape b ++ rest) = pieces (pieceOf b :: before) rest := by
  unfold escape pieceOf
  by_cases h34 : b = 34
  · subst h34
    exact pieces_short rfl (by decide)
  by_cases h92 : b = 92
  · subst h92
    exact pieces_short rfl (by decide)
  by_cases h8 : b = 8
  · subst h8
    exact pieces_short rfl (by decide)
  by_cases h9 : b = 9
  · subst h9
    exact pieces_short rfl (by decide)
  by_cases h10 : b = 10
  · subst h10
    exact pieces_short rfl (by decide)
  by_cases h12 : b = 12
  · subst h12
    exact pieces_short rfl (by decide)
  by_cases h13 : b = 13
  · subst h13
    exact pieces_short rfl (by decide)
  by_cases control : b < 32
  · simp only [h34, h92, h8, h9, h10, h12, h13, control, if_false, if_true, ne_eq,
      not_false_eq_true, and_self]
    exact pieces_unit control before rest
  · simp only [h34, h92, h8, h9, h10, h12, h13, control, if_false, false_and]
    exact pieces_byte control h34 h92

/-- What stands between quotes is read up to the closing one. -/
theorem pieces_flatMap_escape (bytes : Bytes) (before : List Piece) (rest : Bytes) :
    pieces before (bytes.flatMap escape ++ 34 :: rest) =
      some (before.reverse ++ bytes.map pieceOf, rest) := by
  induction bytes generalizing before with
  | nil => simp [pieces]
  | cons b bytes ih =>
    rw [List.flatMap_cons, List.append_assoc, pieces_escape, ih]
    simp

theorem assemble_map_pieceOf (bytes : Bytes) : assemble (bytes.map pieceOf) = some bytes := by
  induction bytes with
  | nil => rfl
  | cons b bytes ih =>
    rw [List.map_cons, pieceOf]
    split
    · rename_i control
      have small : b.toNat < 32 := UInt8.lt_iff_toNat_lt.1 control.1
      rw [assemble.eq_def]
      simp only [ih, characterBytes]
      rw [if_neg (by omega), if_neg (by omega), Bytes.utf8EncodeChar_of_ascii
        (by rw [Bytes.toNat_charOfNat (by omega)]; omega), Bytes.toNat_charOfNat (by omega)]
      simp
    · simp [assemble, ih]

/-- A written text is read as the text. -/
theorem text?_pieces (s : String) : text? ((Bytes.ofText s).map pieceOf) = some s := by
  simp [text?, assemble_map_pieceOf]

/-! ### Numbers -/

/-- What may stand behind a number: nothing that would go on with it. -/
def Ends (rest : Bytes) : Prop :=
  ∀ b ∈ rest.head?, isDigit b = false ∧ b ≠ 46 ∧ b ≠ 101 ∧ b ≠ 69

theorem toNat_le_of_isDigit {c : Char} (digit : c.isDigit = true) : c.toNat ≤ 57 := by
  simp only [Char.isDigit, Bool.and_eq_true, decide_eq_true_eq, UInt32.le_iff_toNat_le] at digit
  exact digit.2

/-- The digits of a number are bytes of digits. -/
theorem writeNat_eq (n : Nat) :
    writeNat n = (Nat.toDigits 10 n).map fun c => UInt8.ofNat c.toNat := by
  rw [writeNat, Nat.repr_eq_ofList_toDigits]
  apply Bytes.ofText_ofList_of_ascii
  intro c mem
  have digit := Nat.isDigit_of_mem_toDigits (by decide) (by decide) mem
  have := toNat_le_of_isDigit digit
  omega

theorem isDigit_of_isDigit {c : Char} (digit : c.isDigit = true) :
    isDigit (UInt8.ofNat c.toNat) = true := by
  have high := toNat_le_of_isDigit digit
  simp only [Char.isDigit, Bool.and_eq_true, decide_eq_true_eq, UInt32.le_iff_toNat_le] at digit
  have low : 48 ≤ c.toNat := digit.1
  simp only [isDigit, Bool.and_eq_true, decide_eq_true_eq, UInt8.le_iff_toNat_le]
  simp
  omega

theorem isDigit_of_mem_writeNat {n : Nat} {b : UInt8} (mem : b ∈ writeNat n) :
    isDigit b = true := by
  rw [writeNat_eq] at mem
  obtain ⟨c, among, rfl⟩ := List.mem_map.1 mem
  exact isDigit_of_isDigit (Nat.isDigit_of_mem_toDigits (by decide) (by decide) among)

theorem writeNat_ne_nil (n : Nat) : writeNat n ≠ [] := by
  rw [writeNat_eq]
  simp [Nat.toDigits_ne_nil]

/-- A number of more than one digit does not begin with zero. -/
theorem head?_toDigits {n : Nat} (positive : 0 < n) : (Nat.toDigits 10 n).head? ≠ some '0' := by
  induction n using Nat.strongRecOn with
  | _ n ih =>
    by_cases single : n < 10
    · rw [Nat.toDigits_of_lt_base single]
      simpa using Nat.ne_of_gt positive
    · have shorter := ih (n / 10) (by omega) (by omega)
      rw [Nat.toDigits_of_base_le (by decide) (by omega), List.head?_append]
      cases front : Nat.toDigits 10 (n / 10) with
      | nil => exact absurd front Nat.toDigits_ne_nil
      | cons c rest => simpa [front] using shorter

theorem not_leadingZero (n : Nat) :
    ¬ ((writeNat n).head? = some 48 ∧ 1 < (writeNat n).length) := by
  rintro ⟨zero, long⟩
  by_cases positive : 0 < n
  · have first := head?_toDigits positive
    rw [writeNat_eq, List.head?_map] at zero
    obtain ⟨c, head, byte⟩ := Option.map_eq_some_iff.1 zero
    have digit := Nat.isDigit_of_mem_toDigits (by decide) (by decide)
      (List.mem_of_mem_head? (Option.mem_def.2 head))
    have value : c.toNat = 48 := by
      have byte := congrArg UInt8.toNat byte
      have high := toNat_le_of_isDigit digit
      simp at byte
      omega
    exact first (head.trans (congrArg some (Char.toNat_inj.1 value)))
  · obtain rfl : n = 0 := by omega
    simp [writeNat_eq] at long

/-- Digits are read up to what stands behind the number. -/
theorem takeWhile_writeNat (n : Nat) {rest : Bytes} (ends : Ends rest) :
    (writeNat n ++ rest).takeWhile isDigit = writeNat n ∧
      (writeNat n ++ rest).dropWhile isDigit = rest := by
  have digits : ∀ b ∈ writeNat n, isDigit b = true := fun b => isDigit_of_mem_writeNat
  rw [List.takeWhile_append_of_pos digits, List.dropWhile_append_of_pos digits]
  cases rest with
  | nil => simp
  | cons b rest => simp [(ends b rfl).1]

/-- A written number is read as its document. -/
theorem number_writeNat (n : Nat) {rest : Bytes} (ends : Ends rest) :
    number false (writeNat n ++ rest) = some (Encoding.json.documentOfNat n, rest) := by
  obtain ⟨taken, left⟩ := takeWhile_writeNat n ends
  simp only [number, taken, left]
  rw [if_neg (not_or.2 ⟨writeNat_ne_nil n, not_leadingZero n⟩)]
  cases rest with
  | nil => rfl
  | cons b rest =>
    obtain ⟨-, point, e, E⟩ := ends b rfl
    simp [e, E, Encoding.documentOfNat]

/-! ### Tokens -/

/-- What a text is cut into, with as much fuel as it has bytes or more. -/
def Lexes (bytes : Bytes) (ts : List Token) : Prop :=
  ∀ fuel, bytes.length ≤ fuel → tokensUpTo fuel bytes = ts

theorem lexes_nil : Lexes [] [] := by
  intro fuel _
  cases fuel <;> rfl

theorem Lexes.space {b : UInt8} {rest : Bytes} {ts : List Token} (space : isSpace b = true)
    (lexes : Lexes rest ts) : Lexes (b :: rest) ts := by
  intro fuel enough
  rw [List.length_cons] at enough
  have same : tokensUpTo fuel (b :: rest) = tokensUpTo fuel rest := by
    cases fuel with
    | zero => omega
    | succ fuel => simp [tokensUpTo, space]
  rw [same]
  exact lexes fuel (by omega)

theorem Lexes.token {b : UInt8} {bytes rest : Bytes} {t : Token} {ts : List Token}
    (solid : isSpace b = false) (token : token? (b :: bytes) = some (t, rest))
    (shorter : rest.length ≤ bytes.length) (lexes : Lexes rest ts) :
    Lexes (b :: bytes) (t :: ts) := by
  intro fuel enough
  rw [List.length_cons] at enough
  obtain ⟨fuel, rfl⟩ : ∃ f, fuel = f + 1 := ⟨fuel - 1, by omega⟩
  rw [tokensUpTo, List.dropWhile_cons_of_neg (by simp [solid])]
  simp only [token, lexes fuel (by omega)]

theorem Lexes.newLine {rest : Bytes} {ts : List Token} (level : Nat) (lexes : Lexes rest ts) :
    Lexes (newLine level ++ rest) ts := by
  refine Lexes.space rfl ?_
  induction 2 * level with
  | zero => exact lexes
  | succ k ih => exact Lexes.space rfl ih

/-- The tokens of brackets and separators. -/
theorem Lexes.mark {b : UInt8} {rest : Bytes} {t : Token} {ts : List Token}
    (mark : token? (b :: rest) = some (t, rest)) (solid : isSpace b = false)
    (lexes : Lexes rest ts) : Lexes (b :: rest) (t :: ts) :=
  .token solid mark (Nat.le_refl _) lexes

section Marks

variable {rest : Bytes} {ts : List Token} (lexes : Lexes rest ts)

include lexes

theorem Lexes.openList : Lexes (91 :: rest) (.openList :: ts) := .mark rfl (by decide) lexes

theorem Lexes.closeList : Lexes (93 :: rest) (.closeList :: ts) := .mark rfl (by decide) lexes

theorem Lexes.openMap : Lexes (123 :: rest) (.openMap :: ts) := .mark rfl (by decide) lexes

theorem Lexes.closeMap : Lexes (125 :: rest) (.closeMap :: ts) := .mark rfl (by decide) lexes

theorem Lexes.comma : Lexes (44 :: rest) (.comma :: ts) := .mark rfl (by decide) lexes

theorem Lexes.colon : Lexes (58 :: rest) (.colon :: ts) := .mark rfl (by decide) lexes

end Marks

theorem Lexes.text {rest : Bytes} {ts : List Token} (s : String) (lexes : Lexes rest ts) :
    Lexes (writeText s ++ rest) (.text (some s) :: ts) := by
  rw [writeText, List.cons_append, List.cons_append, List.append_assoc]
  refine .token (by decide) ?_ ?_ lexes
  · simp only [token?, List.singleton_append, pieces_flatMap_escape]
    simp [text?_pieces]
  · simp
    omega

theorem not_space_of_isDigit {b : UInt8} (digit : isDigit b = true) : isSpace b = false := by
  cases space : isSpace b with
  | false => rfl
  | true =>
    simp only [isSpace, Bool.or_eq_true, beq_iff_eq, or_assoc] at space
    rcases space with rfl | rfl | rfl | rfl <;> cases digit

theorem token?_of_isDigit {b : UInt8} (digit : isDigit b = true) (rest : Bytes) :
    token? (b :: rest) = (number false (b :: rest)).map fun (d, rest) => (.other d, rest) := by
  rw [token?]
  all_goals
    intro _ same
    cases same
    cases digit

theorem Lexes.number {rest : Bytes} {ts : List Token} (n : Nat) (ends : Ends rest)
    (lexes : Lexes rest ts) :
    Lexes (writeNat n ++ rest) (.other (Encoding.json.documentOfNat n) :: ts) := by
  have read := number_writeNat n ends
  cases digits : writeNat n with
  | nil => exact absurd digits (writeNat_ne_nil n)
  | cons b more =>
    have digit : isDigit b = true := isDigit_of_mem_writeNat (n := n) (by simp [digits])
    rw [digits] at read
    rw [List.cons_append] at read ⊢
    refine .token (not_space_of_isDigit digit) ?_ (by simp) lexes
    rw [token?_of_isDigit digit, read]
    rfl

/-! ### Tokens of data -/

/-- The token of a number. -/
def natToken (n : Nat) : Token := .other (Encoding.json.documentOfNat n)

/-- The tokens of a byte string behind its first byte, and the end of the list. -/
def byteTokens : Bytes → List Token
  | [] => [.closeList]
  | x :: bytes => .comma :: natToken x.toNat :: byteTokens bytes

mutual

/-- The tokens of written data. -/
def dataTokens : Data → List Token
  | .null => [.other .null]
  | .bool b => [.other (.bool b)]
  | .nat n => [natToken n]
  | .text s => [.text (some s)]
  | .bytes [] => [.openList, .closeList]
  | .bytes (x :: bytes) => .openList :: natToken x.toNat :: byteTokens bytes
  | .list [] => [.openList, .closeList]
  | .list (item :: items) => .openList :: (dataTokens item ++ itemTokens items)
  | .record [] => [.openMap, .closeMap]
  | .record ((name, value) :: fields) =>
    .openMap :: .text (some name) :: .colon :: (dataTokens value ++ fieldTokens fields)

/-- The tokens of the items of a list behind its first one, and its end. -/
def itemTokens : List Data → List Token
  | [] => [.closeList]
  | item :: items => .comma :: (dataTokens item ++ itemTokens items)

/-- The tokens of the fields of a record behind its first one, and its end. -/
def fieldTokens : List (String × Data) → List Token
  | [] => [.closeMap]
  | (name, value) :: fields =>
    .comma :: .text (some name) :: .colon :: (dataTokens value ++ fieldTokens fields)

end

/-! ### Cutting written data into tokens -/

theorem ends_cons {b : UInt8} {rest : Bytes}
    (ends : isDigit b = false ∧ b ≠ 46 ∧ b ≠ 101 ∧ b ≠ 69) : Ends (b :: rest) := by
  rintro x ⟨⟩
  exact ends

theorem Lexes.null {rest : Bytes} {ts : List Token} (lexes : Lexes rest ts) :
    Lexes (write .null ++ rest) (.other .null :: ts) :=
  have word : write .null = [110, 117, 108, 108] := rfl
  word ▸ .token (by decide) rfl (Nat.le_add_right _ 3) lexes

theorem Lexes.bool {rest : Bytes} {ts : List Token} (b : Bool) (lexes : Lexes rest ts) :
    Lexes (write (.bool b) ++ rest) (.other (.bool b) :: ts) := by
  cases b with
  | false =>
    rw [show write (.bool false) = [102, 97, 108, 115, 101] from rfl]
    exact .token (by decide) rfl (Nat.le_add_right _ 4) lexes
  | true =>
    rw [show write (.bool true) = [116, 114, 117, 101] from rfl]
    exact .token (by decide) rfl (Nat.le_add_right _ 3) lexes

/-- Numbers with commas between them, behind the first one. -/
theorem intercalate_writeNat (x : UInt8) (bytes : Bytes) :
    List.intercalate [44] ((x :: bytes).map fun y => writeNat y.toNat) =
      writeNat x.toNat ++ bytes.flatMap fun y => 44 :: writeNat y.toNat := by
  induction bytes generalizing x with
  | nil => simp [List.intercalate]
  | cons y bytes ih =>
    have := ih y
    simp only [List.intercalate, List.map_cons, List.intersperse_cons_cons, List.flatten_cons,
      List.flatMap_cons] at this ⊢
    rw [this]
    rfl

theorem lexes_byteTokens (bytes : Bytes) {rest : Bytes} {ts : List Token} (lexes : Lexes rest ts) :
    Lexes ((bytes.flatMap fun y => 44 :: writeNat y.toNat) ++ 93 :: rest)
      (byteTokens bytes ++ ts) := by
  induction bytes with
  | nil => exact .closeList lexes
  | cons x bytes ih =>
    simp only [List.flatMap_cons, List.cons_append, List.append_assoc, byteTokens]
    refine .comma (.number _ ?_ ih)
    cases bytes <;> exact ends_cons (by decide)

theorem lexes_bytes (bytes : Bytes) {rest : Bytes} {ts : List Token} (lexes : Lexes rest ts) :
    Lexes (write (.bytes bytes) ++ rest) (dataTokens (.bytes bytes) ++ ts) := by
  cases bytes with
  | nil => exact .openList (.closeList lexes)
  | cons x bytes =>
    rw [write, intercalate_writeNat]
    simp only [dataTokens, List.cons_append, List.append_assoc, List.nil_append]
    refine .openList (.number _ ?_ (lexes_byteTokens bytes lexes))
    cases bytes <;> exact ends_cons (by decide)

theorem ends_writeIndentedItems (level : Nat) (items : List Data) (rest : Bytes) :
    Ends (writeIndentedItems level items ++ rest) := by
  cases items <;> exact ends_cons (by decide)

theorem ends_writeIndentedFields (level : Nat) (fields : List (String × Data)) (rest : Bytes) :
    Ends (writeIndentedFields level fields ++ rest) := by
  cases fields <;> exact ends_cons (by decide)

mutual

theorem lexes_writeIndented (d : Data) (level : Nat) {rest : Bytes} {ts : List Token}
    (ends : Ends rest) (lexes : Lexes rest ts) :
    Lexes (writeIndented level d ++ rest) (dataTokens d ++ ts) := by
  match d with
  | .null => exact .null lexes
  | .bool b => exact .bool b lexes
  | .nat n => exact .number n ends lexes
  | .text s => exact .text s lexes
  | .bytes b => exact lexes_bytes b lexes
  | .list [] => exact .openList (.closeList lexes)
  | .list (item :: items) =>
    simp only [writeIndented, dataTokens, List.cons_append, List.append_assoc]
    exact .openList (.newLine _ (lexes_writeIndented item _
      (ends_writeIndentedItems level items rest) (lexes_writeIndentedItems items level lexes)))
  | .record [] => exact .openMap (.closeMap lexes)
  | .record ((name, value) :: fields) =>
    simp only [writeIndented, dataTokens, List.cons_append, List.append_assoc]
    exact .openMap (.newLine _ (.text name (.colon (.space rfl (lexes_writeIndented value _
      (ends_writeIndentedFields level fields rest)
      (lexes_writeIndentedFields fields level lexes))))))

theorem lexes_writeIndentedItems (items : List Data) (level : Nat) {rest : Bytes}
    {ts : List Token} (lexes : Lexes rest ts) :
    Lexes (writeIndentedItems level items ++ rest) (itemTokens items ++ ts) := by
  match items with
  | [] =>
    simp only [writeIndentedItems, itemTokens, List.append_assoc]
    exact .newLine level (.closeList lexes)
  | item :: items =>
    simp only [writeIndentedItems, itemTokens, List.cons_append, List.append_assoc]
    exact .comma (.newLine _ (lexes_writeIndented item _
      (ends_writeIndentedItems level items rest) (lexes_writeIndentedItems items level lexes)))

theorem lexes_writeIndentedFields (fields : List (String × Data)) (level : Nat) {rest : Bytes}
    {ts : List Token} (lexes : Lexes rest ts) :
    Lexes (writeIndentedFields level fields ++ rest) (fieldTokens fields ++ ts) := by
  match fields with
  | [] =>
    simp only [writeIndentedFields, fieldTokens, List.append_assoc]
    exact .newLine level (.closeMap lexes)
  | (name, value) :: fields =>
    simp only [writeIndentedFields, fieldTokens, List.cons_append, List.append_assoc]
    exact .comma (.newLine _ (.text name (.colon (.space rfl (lexes_writeIndented value _
      (ends_writeIndentedFields level fields rest)
      (lexes_writeIndentedFields fields level lexes))))))

end

/-! ### Making the document of tokens -/

theorem document_openList {fuel : Nat} {t : Token} {ts : List Token} (more : t ≠ .closeList) :
    document (fuel + 1) (.openList :: t :: ts) =
      (.list (items fuel (t :: ts)).1, (items fuel (t :: ts)).2) := by
  rw [document]
  intro rest same
  cases same
  exact more rfl

theorem document_openMap {fuel : Nat} {s : Option String} {ts : List Token} :
    document (fuel + 1) (.openMap :: .text s :: ts) =
      (.map (entries fuel (.text s :: ts)).1, (entries fuel (.text s :: ts)).2) := by
  rw [document]
  intro rest same
  cases same

/-- No data begins with the end of a list. -/
theorem exists_dataTokens (d : Data) : ∃ t ts, dataTokens d = t :: ts ∧ t ≠ .closeList := by
  unfold dataTokens
  split <;> exact ⟨_, _, rfl, nofun⟩

theorem items_of_document {fuel : Nat} {tokens ts : List Token} {d : Document}
    (first : document fuel tokens = (d, .closeList :: ts)) :
    items (fuel + 1) tokens = ([d], ts) := by
  rw [items, first]

theorem items_of_comma {fuel : Nat} {tokens ts : List Token} {d : Document}
    (first : document fuel tokens = (d, .comma :: ts)) :
    items (fuel + 1) tokens = (d :: (items fuel ts).1, (items fuel ts).2) := by
  rw [items, first]

theorem entries_of_document {fuel : Nat} {key : Option String} {tokens ts : List Token}
    {d : Document} (first : document fuel tokens = (d, .closeMap :: ts)) :
    entries (fuel + 1) (.text key :: .colon :: tokens) = ([(.text key, d)], ts) := by
  rw [entries, first]

theorem entries_of_comma {fuel : Nat} {key : Option String} {tokens ts : List Token} {d : Document}
    (first : document fuel tokens = (d, .comma :: ts)) :
    entries (fuel + 1) (.text key :: .colon :: tokens) =
      ((.text key, d) :: (entries fuel ts).1, (entries fuel ts).2) := by
  rw [entries, first]

theorem document_natToken (fuel n : Nat) (ts : List Token) :
    document (fuel + 1) (natToken n :: ts) = (Encoding.json.documentOfNat n, ts) := by
  rw [natToken, document]

/-- The items behind the first byte of a byte string. -/
theorem items_byteTokens (bytes : Bytes) {fuel : Nat} {tokens ts : List Token} {d : Document}
    (first : document fuel tokens = (d, byteTokens bytes ++ ts))
    (enough : (byteTokens bytes).length ≤ fuel) :
    items (fuel + 1) tokens =
      (d :: bytes.map fun x => Encoding.json.documentOfNat x.toNat, ts) := by
  induction bytes generalizing fuel tokens d with
  | nil => exact items_of_document first
  | cons x bytes ih =>
    simp only [byteTokens, List.length_cons, List.cons_append] at first enough
    obtain ⟨fuel, rfl⟩ : ∃ f, fuel = f + 2 := ⟨fuel - 2, by omega⟩
    rw [items_of_comma first, ih (document_natToken fuel x.toNat _) (by omega)]
    rfl

mutual

theorem document_dataTokens (d : Data) (fuel : Nat) (ts : List Token)
    (enough : (dataTokens d).length ≤ fuel) :
    document fuel (dataTokens d ++ ts) = (d.document .json, ts) := by
  obtain ⟨fuel, rfl⟩ : ∃ f, fuel = f + 1 := by
    obtain ⟨t, more, begins, -⟩ := exists_dataTokens d
    rw [begins, List.length_cons] at enough
    exact ⟨fuel - 1, by omega⟩
  match d with
  | .null => rfl
  | .bool b => rfl
  | .nat n => exact document_natToken fuel n ts
  | .text s => rfl
  | .bytes [] => rfl
  | .bytes (x :: bytes) =>
    have nonempty : 0 < (byteTokens bytes).length := by cases bytes <;> simp [byteTokens]
    simp only [dataTokens, List.length_cons] at enough
    obtain ⟨fuel, rfl⟩ : ∃ f, fuel = f + 2 := ⟨fuel - 2, by omega⟩
    have listed := items_byteTokens bytes (document_natToken fuel x.toNat (byteTokens bytes ++ ts))
      (by omega)
    simp only [dataTokens, List.cons_append]
    rw [document_openList (by simp [natToken]), listed]
    rfl
  | .list [] => rfl
  | .list (item :: rest) =>
    obtain ⟨t, more, begins, other⟩ := exists_dataTokens item
    simp only [dataTokens, List.length_cons, List.length_append] at enough
    have nonempty : 0 < (itemTokens rest).length := by cases rest <;> simp [itemTokens]
    obtain ⟨fuel, rfl⟩ : ∃ f, fuel = f + 1 := ⟨fuel - 1, by omega⟩
    have listed := items_itemTokens rest
      (document_dataTokens item fuel (itemTokens rest ++ ts) (by omega)) (by omega)
    simp only [dataTokens, List.cons_append, List.append_assoc]
    rw [begins, List.cons_append] at listed ⊢
    rw [document_openList other, listed]
    rfl
  | .record [] => rfl
  | .record ((name, value) :: fields) =>
    simp only [dataTokens, List.length_cons, List.length_append] at enough
    have nonempty : 0 < (fieldTokens fields).length := by cases fields <;> simp [fieldTokens]
    obtain ⟨fuel, rfl⟩ : ∃ f, fuel = f + 1 := ⟨fuel - 1, by omega⟩
    have listed := entries_fieldTokens fields (some name)
      (document_dataTokens value fuel (fieldTokens fields ++ ts) (by omega)) (by omega)
    simp only [dataTokens, List.cons_append, List.append_assoc]
    rw [document_openMap, listed]
    rfl

theorem items_itemTokens (rest : List Data) {fuel : Nat} {tokens ts : List Token} {d : Document}
    (first : document fuel tokens = (d, itemTokens rest ++ ts))
    (enough : (itemTokens rest).length ≤ fuel + 1) :
    items (fuel + 1) tokens = (d :: Data.documents .json rest, ts) := by
  match rest with
  | [] => exact items_of_document first
  | item :: rest =>
    simp only [itemTokens, List.cons_append, List.append_assoc] at first
    simp only [itemTokens, List.length_cons, List.length_append] at enough
    have nonempty : 0 < (itemTokens rest).length := by cases rest <;> simp [itemTokens]
    obtain ⟨fuel, rfl⟩ : ∃ f, fuel = f + 1 := ⟨fuel - 1, by omega⟩
    rw [items_of_comma first, items_itemTokens rest
      (document_dataTokens item _ (itemTokens rest ++ ts) (by omega)) (by omega)]
    rfl

theorem entries_fieldTokens (fields : List (String × Data)) {fuel : Nat} (key : Option String)
    {tokens ts : List Token} {d : Document}
    (first : document fuel tokens = (d, fieldTokens fields ++ ts))
    (enough : (fieldTokens fields).length ≤ fuel + 1) :
    entries (fuel + 1) (.text key :: .colon :: tokens) =
      ((.text key, d) :: Data.entries .json fields, ts) := by
  match fields with
  | [] => exact entries_of_document first
  | (name, value) :: fields =>
    simp only [fieldTokens, List.cons_append, List.append_assoc] at first
    simp only [fieldTokens, List.length_cons, List.length_append] at enough
    have nonempty : 0 < (fieldTokens fields).length := by cases fields <;> simp [fieldTokens]
    obtain ⟨fuel, rfl⟩ : ∃ f, fuel = f + 1 := ⟨fuel - 1, by omega⟩
    rw [entries_of_comma first, entries_fieldTokens fields _
      (document_dataTokens value _ (fieldTokens fields ++ ts) (by omega)) (by omega)]
    rfl

end

/-- What is cut into the tokens of data reads as its document, with nothing behind it. -/
theorem read_of_lexes {d : Data} {bytes : Bytes} (lexes : Lexes bytes (dataTokens d)) :
    read bytes = ⟨d.document .json, true⟩ := by
  have cut : tokens bytes = dataTokens d := lexes _ (Nat.le_refl _)
  have made := document_dataTokens d (2 * (dataTokens d).length + 1) [] (by omega)
  rw [List.append_nil] at made
  simp [read, cut, made]

theorem ends_nil : Ends [] := by simp [Ends]

/-- Indented data reads as its document. -/
theorem read_writePretty (d : Data) : read (writePretty d) = ⟨d.document .json, true⟩ := by
  have lexes := lexes_writeIndented d 0 ends_nil lexes_nil
  rw [List.append_nil, List.append_nil] at lexes
  exact read_of_lexes lexes

/-! ### Data without spaces -/

theorem ends_writeItems (items : List Data) (rest : Bytes) : Ends (writeItems items ++ rest) := by
  cases items <;> exact ends_cons (by decide)

theorem ends_writeFields (fields : List (String × Data)) (rest : Bytes) :
    Ends (writeFields fields ++ rest) := by
  cases fields <;> exact ends_cons (by decide)

mutual

theorem lexes_write (d : Data) {rest : Bytes} {ts : List Token} (ends : Ends rest)
    (lexes : Lexes rest ts) : Lexes (write d ++ rest) (dataTokens d ++ ts) := by
  match d with
  | .null => exact .null lexes
  | .bool b => exact .bool b lexes
  | .nat n => exact .number n ends lexes
  | .text s => exact .text s lexes
  | .bytes b => exact lexes_bytes b lexes
  | .list [] => exact .openList (.closeList lexes)
  | .list (item :: items) =>
    simp only [write, dataTokens, List.cons_append, List.append_assoc]
    exact .openList (lexes_write item (ends_writeItems items rest) (lexes_writeItems items lexes))
  | .record [] => exact .openMap (.closeMap lexes)
  | .record ((name, value) :: fields) =>
    simp only [write, dataTokens, List.cons_append, List.append_assoc]
    exact .openMap (.text name (.colon (lexes_write value (ends_writeFields fields rest)
      (lexes_writeFields fields lexes))))

theorem lexes_writeItems (items : List Data) {rest : Bytes} {ts : List Token}
    (lexes : Lexes rest ts) : Lexes (writeItems items ++ rest) (itemTokens items ++ ts) := by
  match items with
  | [] => exact .closeList lexes
  | item :: items =>
    simp only [writeItems, itemTokens, List.cons_append, List.append_assoc]
    exact .comma (lexes_write item (ends_writeItems items rest) (lexes_writeItems items lexes))

theorem lexes_writeFields (fields : List (String × Data)) {rest : Bytes} {ts : List Token}
    (lexes : Lexes rest ts) : Lexes (writeFields fields ++ rest) (fieldTokens fields ++ ts) := by
  match fields with
  | [] => exact .closeMap lexes
  | (name, value) :: fields =>
    simp only [writeFields, fieldTokens, List.cons_append, List.append_assoc]
    exact .comma (.text name (.colon (lexes_write value (ends_writeFields fields rest)
      (lexes_writeFields fields lexes))))

end

/-- Written data reads as its document. -/
theorem read_write (d : Data) : read (write d) = ⟨d.document .json, true⟩ := by
  have lexes := lexes_write d ends_nil lexes_nil
  rw [List.append_nil, List.append_nil] at lexes
  exact read_of_lexes lexes

end ControlComponent.Wire.Json
