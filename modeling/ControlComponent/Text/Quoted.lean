import ControlComponent.Text.Unprintable

/-!
Quoted text, as it stands in messages: between double quotes, with escapes for the quote, the
backslash, the common control characters and whatever cannot be shown, the last by code point.
-/

namespace ControlComponent.Text

/-- A number in lower-case hexadecimal digits. -/
def hexNumber (n : Nat) : String := String.ofList (Nat.toDigits 16 n)

/-- A character inside quotes. -/
def quotedChar (quote c : Char) : String :=
  if c = '\x00' then "\\0"
  else if c = '\t' then "\\t"
  else if c = '\r' then "\\r"
  else if c = '\n' then "\\n"
  else if c = '\\' then "\\\\"
  else if c = quote then String.ofList ['\\', c]
  else if isUnprintable c then "\\u\x7b" ++ hexNumber c.toNat ++ "\x7d"
  else c.toString

/-- A text between double quotes. -/
def quoted (text : String) : String :=
  "\"" ++ String.join (text.toList.map (quotedChar '"')) ++ "\""

example : quoted "a\"\n\u0301" = "\"a\\\"\\n\\u\x7b301\x7d\"" := by decide +kernel

end ControlComponent.Text
