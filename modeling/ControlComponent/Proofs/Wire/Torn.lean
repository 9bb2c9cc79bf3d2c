import ControlComponent.Proofs.Wire.JsonRead

/-!
Torn JSON.

The beginning of a written record, short of its end, is not read as anything: it leaves a bracket
open, and what has been read to its end leaves none. Both halves count brackets in tokens, so braces
inside texts do not matter.
-/

namespace ControlComponent.Wire.Json

/-! ### Counting brackets -/

/-- What a token adds to the number of open brackets. -/
def Token.weight : Token → Int
  | .openList | .openMap => 1
  | .closeList | .closeMap => -1
  | _ => 0

/-- How many more brackets are opened than closed. -/
def openings : List Token → Int
  | [] => 0
  | t :: ts => t.weight + openings ts

mutual

/-- A document that was read to its end has closed what it opened. -/
theorem openings_document (fuel : Nat) (ts : List Token)
    (intact : (document fuel ts).1.isIntact = true) :
    openings ts = openings (document fuel ts).2 := by
  match fuel with
  | 0 => cases intact
  | fuel + 1 =>
    unfold document at intact ⊢
    split at intact <;> simp only [openings, Token.weight]
    · cases ‹fuel + 1 = 0›
    · omega
    · omega
    · omega
    · rename_i fuel' rest _ succ
      obtain rfl : fuel = fuel' := Nat.succ.inj succ
      have inside := openings_items fuel rest intact
      omega
    · omega
    · rename_i fuel' rest _ succ
      obtain rfl : fuel = fuel' := Nat.succ.inj succ
      have inside := openings_entries fuel rest intact
      omega
    · cases intact

/-- So have items, with the bracket behind them. -/
theorem openings_items (fuel : Nat) (ts : List Token)
    (intact : Document.areIntact (items fuel ts).1 = true) :
    openings ts + 1 = openings (items fuel ts).2 := by
  match fuel with
  | 0 => cases intact
  | fuel + 1 =>
    unfold items at intact ⊢
    split at intact
    · rename_i d rest read
      simp only [Document.areIntact, Bool.and_true] at intact
      have first := openings_document fuel ts (by rw [read]; exact intact)
      simp only [read, openings, Token.weight] at first ⊢
      omega
    · rename_i d rest read
      simp only [Document.areIntact, Bool.and_eq_true] at intact
      have first := openings_document fuel ts (by rw [read]; exact intact.1)
      have others := openings_items fuel rest intact.2
      simp only [read, openings, Token.weight] at first ⊢
      omega
    · simp [Document.areIntact, Document.isIntact] at intact

/-- So have entries, with the bracket behind them. -/
theorem openings_entries (fuel : Nat) (ts : List Token)
    (intact : Document.areIntactEntries (entries fuel ts).1 = true) :
    openings ts + 1 = openings (entries fuel ts).2 := by
  match fuel with
  | 0 => cases intact
  | fuel + 1 =>
    unfold entries at intact ⊢
    split at intact
    · cases ‹fuel + 1 = 0›
    · rename_i fuel' key tokens succ
      obtain rfl : fuel = fuel' := Nat.succ.inj succ
      split at intact
      · rename_i d rest read
        simp only [Document.areIntactEntries, Document.isIntact, Bool.and_true,
          Bool.true_and] at intact
        have first := openings_document fuel tokens (by rw [read]; exact intact)
        simp only [read, openings, Token.weight] at first ⊢
        omega
      · rename_i d rest read
        simp only [Document.areIntactEntries, Document.isIntact, Bool.and_eq_true,
          true_and] at intact
        have first := openings_document fuel tokens (by rw [read]; exact intact.1)
        have others := openings_entries fuel rest intact.2
        simp only [read, openings, Token.weight] at first ⊢
        omega
      · simp [Document.areIntactEntries, Document.isIntact] at intact
    · simp [Document.areIntactEntries, Document.isIntact] at intact
    · simp [Document.areIntactEntries, Document.isIntact] at intact

end

/-! ### Beginnings -/

/-- A proper beginning of what is joined ends in the first part, or beyond it in the second. -/
theorem prefix_append_cases {a b p : Bytes} (begins : p <+: a ++ b) (proper : p ≠ a ++ b) :
    (p <+: a ∧ p ≠ a) ∨ ∃ q, q <+: b ∧ q ≠ b ∧ p = a ++ q := by
  rcases List.prefix_or_prefix_of_prefix begins (List.prefix_append a b) with inside | ⟨q, rfl⟩
  · by_cases whole : p = a
    · subst whole
      exact .inr ⟨[], List.nil_prefix, by rintro rfl; simp at proper, by simp⟩
    · exact .inl ⟨inside, whole⟩
  · refine .inr ⟨q, (List.prefix_append_right_inj a).1 begins, ?_, rfl⟩
    rintro rfl
    exact proper rfl

/-- Wherever the bytes are cut off, brackets stay open, with so many open before them. -/
def StaysOpen (level : Int) (bytes : Bytes) : Prop :=
  ∀ p, p <+: bytes → p ≠ bytes → ∀ fuel, p.length ≤ fuel →
    0 < level + openings (tokensUpTo fuel p)

theorem staysOpen_nil (level : Int) : StaysOpen level [] :=
  fun _ begins proper => absurd (List.prefix_nil.1 begins) proper

theorem tokensUpTo_nil (fuel : Nat) : tokensUpTo fuel [] = [] := by
  cases fuel <;> rfl

/-- A token that is cut off is broken, or a shorter number: in any case no bracket. -/
def Whole (token : Bytes) : Prop :=
  ∀ p, p <+: token → p ≠ token → p ≠ [] →
    token? p = none ∨ ∃ d, token? p = some (.other d, [])

namespace StaysOpen

variable {level : Int} {rest : Bytes}

theorem space {b : UInt8} (opened : 0 < level) (space : isSpace b = true)
    (open_ : StaysOpen level rest) : StaysOpen level (b :: rest) := by
  intro p begins proper fuel enough
  rcases List.prefix_cons_iff.1 begins with rfl | ⟨q, rfl, behind⟩
  · simpa [tokensUpTo_nil, openings] using opened
  · have same : tokensUpTo fuel (b :: q) = tokensUpTo fuel q := by
      cases fuel with
      | zero => simp at enough
      | succ fuel => simp [tokensUpTo, space]
    rw [same]
    exact open_ q behind (by rintro rfl; exact proper rfl) fuel
      (Nat.le_trans (Nat.le_succ _) enough)

theorem token {b : UInt8} {more : Bytes} {t : Token} (opened : 0 < level)
    (solid : isSpace b = false) (whole : Whole (b :: more))
    (read : ∀ q, q <+: rest → token? (b :: more ++ q) = some (t, q))
    (open_ : StaysOpen (level + t.weight) rest) : StaysOpen level (b :: more ++ rest) := by
  intro p begins proper fuel enough
  rcases prefix_append_cases begins proper with ⟨inside, short⟩ | ⟨q, behind, short, rfl⟩
  · suffices flat : openings (tokensUpTo fuel p) = 0 by omega
    rcases List.prefix_cons_iff.1 inside with rfl | ⟨q, rfl, -⟩
    · rw [tokensUpTo_nil, openings]
    · obtain ⟨fuel, rfl⟩ : ∃ f, fuel = f + 1 := ⟨fuel - 1, by simp at enough; omega⟩
      rw [tokensUpTo, List.dropWhile_cons_of_neg (by simp [solid])]
      rcases whole _ inside short (by simp) with cut | ⟨d, cut⟩
      · simp only [cut, openings, Token.weight, Int.add_zero]
      · simp only [cut, tokensUpTo_nil, openings, Token.weight, Int.add_zero]
  · rw [List.cons_append] at enough ⊢
    simp only [List.length_cons, List.length_append] at enough
    obtain ⟨fuel, rfl⟩ : ∃ f, fuel = f + 1 := ⟨fuel - 1, by omega⟩
    have first := read q behind
    rw [List.cons_append] at first
    have later := open_ q behind short fuel (by omega)
    rw [tokensUpTo, List.dropWhile_cons_of_neg (by simp [solid])]
    simp only [first, openings]
    omega

/-- Brackets and separators are of one byte. -/
theorem mark {b : UInt8} {t : Token} (solid : isSpace b = false)
    (read : ∀ q, token? (b :: q) = some (t, q)) (opened : 0 < level)
    (open_ : StaysOpen (level + t.weight) rest) : StaysOpen level (b :: rest) := by
  change StaysOpen level (b :: [] ++ rest)
  refine token opened solid ?_ (fun q _ => read q) open_
  intro p begins proper present
  rcases List.prefix_cons_iff.1 begins with rfl | ⟨q, rfl, behind⟩
  · exact absurd rfl present
  · obtain rfl := List.prefix_nil.1 behind
    exact absurd rfl proper

theorem openList (opened : 0 < level) (open_ : StaysOpen (level + 1) rest) :
    StaysOpen level (91 :: rest) :=
  mark (t := .openList) (by decide) (fun _ => rfl) opened open_

theorem closeList (enclosed : 0 ≤ level) (open_ : StaysOpen level rest) :
    StaysOpen (level + 1) (93 :: rest) :=
  mark (t := .closeList) (by decide) (fun _ => rfl) (by omega)
    ((Int.add_neg_cancel_right level 1).symm ▸ open_)

theorem openMap (opened : 0 < level) (open_ : StaysOpen (level + 1) rest) :
    StaysOpen level (123 :: rest) :=
  mark (t := .openMap) (by decide) (fun _ => rfl) opened open_

theorem closeMap (enclosed : 0 ≤ level) (open_ : StaysOpen level rest) :
    StaysOpen (level + 1) (125 :: rest) :=
  mark (t := .closeMap) (by decide) (fun _ => rfl) (by omega)
    ((Int.add_neg_cancel_right level 1).symm ▸ open_)

theorem comma (opened : 0 < level) (open_ : StaysOpen level rest) :
    StaysOpen level (44 :: rest) :=
  mark (t := .comma) (by decide) (fun _ => rfl) opened ((Int.add_zero level).symm ▸ open_)

theorem colon (opened : 0 < level) (open_ : StaysOpen level rest) :
    StaysOpen level (58 :: rest) :=
  mark (t := .colon) (by decide) (fun _ => rfl) opened ((Int.add_zero level).symm ▸ open_)

end StaysOpen

/-! ### Tokens that are cut off -/

/-- What stands behind a string has no part in it. -/
theorem pieces_append {before ps : List Piece} {bytes rest : Bytes}
    (read : pieces before bytes = some (ps, rest)) (more : Bytes) :
    pieces before (bytes ++ more) = some (ps, rest ++ more) := by
  fun_induction pieces before bytes with
  | case1 => cases read
  | case2 before rest' =>
    cases read
    rfl
  | case3 before a b c d rest' n unit ih =>
    simp only [List.cons_append, pieces, unit]
    exact ih read
  | case4 => cases read
  | case5 before c rest' _ b short ih =>
    rw [List.cons_append, List.cons_append, pieces_short short (by rintro rfl; cases short)]
    exact ih read
  | case6 => cases read
  | case7 => cases read
  | case8 before b rest' quote _ _ printable ih =>
    obtain ⟨visible, backslash⟩ := not_or.1 printable
    rw [List.cons_append, pieces_byte visible quote backslash]
    exact ih read

/-- A text without its closing quote is none. -/
theorem whole_writeText (s : String) : Whole (writeText s) := by
  intro p begins proper present
  rw [writeText, List.cons_append] at begins proper
  rcases List.prefix_cons_iff.1 begins with rfl | ⟨q, rfl, ⟨more, cut⟩⟩
  · exact absurd rfl present
  left
  cases read : pieces [] q with
  | none => simp [token?, read]
  | some found =>
    obtain ⟨ps, behind⟩ := found
    have whole := pieces_append read more
    rw [cut, pieces_flatMap_escape] at whole
    simp only [Option.some.injEq, Prod.mk.injEq, List.nil_eq_append_iff] at whole
    obtain ⟨-, -, rfl⟩ := whole
    rw [List.append_nil] at cut
    exact absurd (by rw [cut]) proper

/-- The first digits of a number are a number or none. -/
theorem whole_writeNat (n : Nat) : Whole (writeNat n) := by
  intro p begins _ present
  have digits : ∀ b ∈ p, isDigit b = true := by
    intro b mem
    exact isDigit_of_mem_writeNat (begins.subset mem)
  cases p with
  | nil => exact absurd rfl present
  | cons b more =>
    have all : (b :: more).dropWhile isDigit = [] := by
      have dropped : (b :: more ++ []).dropWhile isDigit = _ := List.dropWhile_append_of_pos digits
      rwa [List.append_nil] at dropped
    rw [token?_of_isDigit (digits b (by simp))]
    simp only [number, all]
    split
    · exact .inl rfl
    · exact .inr ⟨_, rfl⟩

/-- Words are broken without their last letter. -/
theorem whole_word {word : Bytes} (all : ∀ count < word.length, 0 < count →
    (token? (word.take count)).isNone = true) : Whole word := by
  intro p begins proper present
  left
  rw [List.prefix_iff_eq_take.1 begins]
  refine Option.isNone_iff_eq_none.1 (all _ ?_ (List.length_pos_iff.2 present))
  exact Nat.lt_of_le_of_ne begins.length_le fun same => proper (begins.eq_of_length same)

/-! ### Written data -/

theorem Ends.of_prefix {rest q : Bytes} (ends : Ends rest) (begins : q <+: rest) : Ends q := by
  cases q with
  | nil => simp [Ends]
  | cons b q =>
    obtain ⟨more, rfl⟩ := begins
    exact ends

namespace StaysOpen

variable {level : Int} {rest : Bytes}

theorem newLine (depth : Nat) (opened : 0 < level) (open_ : StaysOpen level rest) :
    StaysOpen level (newLine depth ++ rest) := by
  refine space opened rfl ?_
  induction 2 * depth with
  | zero => exact open_
  | succ k ih => exact space opened rfl ih

theorem text (s : String) (opened : 0 < level) (open_ : StaysOpen level rest) :
    StaysOpen level (writeText s ++ rest) := by
  refine token (t := .text (some s)) opened (by decide) (whole_writeText s) (fun q _ => ?_)
    (by simpa [Token.weight] using open_)
  change token? (writeText s ++ q) = _
  rw [writeText, List.cons_append, List.cons_append, List.append_assoc]
  simp only [token?, List.singleton_append, pieces_flatMap_escape]
  simp [text?_pieces]

theorem number (n : Nat) (ends : Ends rest) (opened : 0 < level) (open_ : StaysOpen level rest) :
    StaysOpen level (writeNat n ++ rest) := by
  have whole := whole_writeNat n
  have read : ∀ q, q <+: rest → Json.number false (writeNat n ++ q) =
      some (Encoding.json.documentOfNat n, q) := by
    intro q begins
    exact number_writeNat n (ends.of_prefix begins)
  cases digits : writeNat n with
  | nil => exact absurd digits (writeNat_ne_nil n)
  | cons b more =>
    have digit : isDigit b = true := isDigit_of_mem_writeNat (n := n) (by simp [digits])
    rw [digits] at whole read
    refine token (t := natToken n) opened (not_space_of_isDigit digit) whole (fun q begins => ?_)
      (by simpa [natToken, Token.weight] using open_)
    rw [List.cons_append, token?_of_isDigit digit, ← List.cons_append, read q begins]
    rfl

theorem null (opened : 0 < level) (open_ : StaysOpen level rest) :
    StaysOpen level (write .null ++ rest) := by
  rw [show write .null = [110, 117, 108, 108] from rfl]
  exact token (t := .other .null) opened (by decide) (whole_word (by decide)) (fun _ _ => rfl)
    (by simpa [Token.weight] using open_)

theorem bool (b : Bool) (opened : 0 < level) (open_ : StaysOpen level rest) :
    StaysOpen level (write (.bool b) ++ rest) := by
  cases b with
  | false =>
    rw [show write (.bool false) = [102, 97, 108, 115, 101] from rfl]
    exact token (t := .other (.bool false)) opened (by decide) (whole_word (by decide))
      (fun _ _ => rfl) (by simpa [Token.weight] using open_)
  | true =>
    rw [show write (.bool true) = [116, 114, 117, 101] from rfl]
    exact token (t := .other (.bool true)) opened (by decide) (whole_word (by decide))
      (fun _ _ => rfl) (by simpa [Token.weight] using open_)

end StaysOpen

theorem staysOpen_bytes (bytes : Bytes) {level : Int} {rest : Bytes} (opened : 0 < level)
    (open_ : StaysOpen level rest) : StaysOpen level (write (.bytes bytes) ++ rest) := by
  cases bytes with
  | nil => exact .openList opened (.closeList (by omega) open_)
  | cons x more =>
    rw [write, intercalate_writeNat]
    simp only [List.cons_append, List.append_assoc, List.nil_append]
    refine .openList opened ?_
    induction more generalizing x with
    | nil => exact .number _ (ends_cons (by decide)) (by omega) (.closeList (by omega) open_)
    | cons y more ih =>
      simp only [List.flatMap_cons, List.cons_append, List.append_assoc]
      exact .number _ (ends_cons (by decide)) (by omega) (.comma (by omega) (ih y))

mutual

/-- Data that stands inside brackets leaves them open. -/
theorem staysOpen_writeIndented (d : Data) (depth : Nat) {level : Int} {rest : Bytes}
    (ends : Ends rest) (opened : 0 < level) (open_ : StaysOpen level rest) :
    StaysOpen level (writeIndented depth d ++ rest) := by
  match d with
  | .null => exact .null opened open_
  | .bool b => exact .bool b opened open_
  | .nat n => exact .number n ends opened open_
  | .text s => exact .text s opened open_
  | .bytes b => exact staysOpen_bytes b opened open_
  | .list [] => exact .openList opened (.closeList (by omega) open_)
  | .list (item :: items) =>
    simp only [writeIndented, List.cons_append, List.append_assoc]
    exact .openList opened (.newLine _ (by omega) (staysOpen_writeIndented item _
      (ends_writeIndentedItems depth items rest) (by omega)
      (staysOpen_writeIndentedItems items depth (by omega) open_)))
  | .record [] => exact .openMap opened (.closeMap (by omega) open_)
  | .record ((name, value) :: fields) =>
    simp only [writeIndented, List.cons_append, List.append_assoc]
    exact .openMap opened (.newLine _ (by omega) (.text name (by omega) (.colon (by omega)
      (.space (by omega) rfl (staysOpen_writeIndented value _
        (ends_writeIndentedFields depth fields rest) (by omega)
        (staysOpen_writeIndentedFields fields depth (by omega) open_))))))

theorem staysOpen_writeIndentedItems (items : List Data) (depth : Nat) {level : Int}
    {rest : Bytes} (enclosed : 0 ≤ level) (open_ : StaysOpen level rest) :
    StaysOpen (level + 1) (writeIndentedItems depth items ++ rest) := by
  match items with
  | [] =>
    simp only [writeIndentedItems, List.append_assoc]
    exact .newLine depth (by omega) (.closeList enclosed open_)
  | item :: items =>
    simp only [writeIndentedItems, List.cons_append, List.append_assoc]
    exact .comma (by omega) (.newLine _ (by omega) (staysOpen_writeIndented item _
      (ends_writeIndentedItems depth items rest) (by omega)
      (staysOpen_writeIndentedItems items depth enclosed open_)))

theorem staysOpen_writeIndentedFields (fields : List (String × Data)) (depth : Nat) {level : Int}
    {rest : Bytes} (enclosed : 0 ≤ level) (open_ : StaysOpen level rest) :
    StaysOpen (level + 1) (writeIndentedFields depth fields ++ rest) := by
  match fields with
  | [] =>
    simp only [writeIndentedFields, List.append_assoc]
    exact .newLine depth (by omega) (.closeMap enclosed open_)
  | (name, value) :: fields =>
    simp only [writeIndentedFields, List.cons_append, List.append_assoc]
    exact .comma (by omega) (.newLine _ (by omega) (.text name (by omega) (.colon (by omega)
      (.space (by omega) rfl (staysOpen_writeIndented value _
        (ends_writeIndentedFields depth fields rest) (by omega)
        (staysOpen_writeIndentedFields fields depth enclosed open_))))))

end

/-- Once a record has begun, it stays open. -/
theorem exists_writePretty (fields : List (String × Data)) :
    ∃ inside, writePretty (.record fields) = 123 :: inside ∧ StaysOpen (0 + 1) inside := by
  cases fields with
  | nil => exact ⟨_, rfl, .closeMap (Int.le_refl 0) (staysOpen_nil 0)⟩
  | cons field fields =>
    have ends := ends_writeIndentedFields 0 fields []
    have others := staysOpen_writeIndentedFields fields 0 (Int.le_refl 0) (staysOpen_nil 0)
    rw [List.append_nil] at ends others
    simp only [writePretty, writeIndented, List.cons_append, List.append_assoc]
    exact ⟨_, rfl, .newLine _ (by omega) (.text field.1 (by omega) (.colon (by omega)
      (.space (by omega) rfl (staysOpen_writeIndented field.2 _ ends (by omega) others))))⟩

/-- The beginning of a written record, short of its end, is not read to its end. -/
theorem not_intact_of_torn {fields : List (String × Data)} {p : Bytes}
    (begins : p <+: writePretty (.record fields)) (proper : p ≠ writePretty (.record fields))
    (ended : (read p).ended = true) : (read p).document.isIntact = false := by
  rw [← Bool.not_eq_true]
  intro intact
  have closed : openings (tokens p) = 0 := by
    simp only [read, List.isEmpty_iff] at intact ended
    rw [openings_document _ _ intact, ended, openings]
  obtain ⟨inside, written, leaves⟩ := exists_writePretty fields
  rw [written] at begins proper
  rcases List.prefix_cons_iff.1 begins with rfl | ⟨q, rfl, behind⟩
  · exact absurd intact (by decide)
  · have opened := leaves q behind (by rintro rfl; exact proper rfl) q.length (Nat.le_refl _)
    have first : tokens (123 :: q) = .openMap :: tokensUpTo q.length q := rfl
    rw [first, openings, Token.weight] at closed
    omega

end ControlComponent.Wire.Json
