/-!
Blank characters: those with the Unicode property `White_Space`. A text is blank when it has no
other character, and trimming takes blank characters off both of its ends.
-/

namespace ControlComponent.Text

/-- A character with the Unicode property `White_Space`. -/
def isBlankChar (c : Char) : Bool :=
  let n := c.toNat
  (9 ≤ n && n ≤ 13) || n == 0x20 || n == 0x85 || n == 0xA0 || n == 0x1680 ||
    (0x2000 ≤ n && n ≤ 0x200A) || n == 0x2028 || n == 0x2029 || n == 0x202F || n == 0x205F ||
    n == 0x3000

/-- A text of blank characters only, such as the empty one. -/
def isBlank (text : String) : Bool := text.toList.all isBlankChar

/-- The characters left when blank ones are taken off both ends. -/
def trimChars (chars : List Char) : List Char :=
  ((chars.dropWhile isBlankChar).reverse.dropWhile isBlankChar).reverse

/-- A text without the blank characters at its ends. -/
def trim (text : String) : String := String.ofList (trimChars text.toList)

/-- Every white space character of ASCII is blank. -/
theorem isBlankChar_of_isWhitespace {c : Char} (h : c.isWhitespace = true) :
    isBlankChar c = true := by
  simp only [Char.isWhitespace, Bool.or_eq_true, decide_eq_true_eq] at h
  rcases h with ((rfl | rfl) | rfl) | rfl <;> rfl

example : isBlank "\u00a0\u3000 \t" = true ∧ isBlank "\u200b" = false := by decide

end ControlComponent.Text
