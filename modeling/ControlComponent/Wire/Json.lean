import ControlComponent.Wire.Binary64
import ControlComponent.Wire.Document

/-!
JSON, as bytes.

Reading cuts the bytes into tokens and builds the document from them. Text is taken as it stands:
invalid UTF-8 and unpaired surrogates make a string unusable but let it be skipped, and raw control
characters are refused. Writing comes in two layouts, without any space and indented by two; in both
only quotes, backslashes and control characters are escaped.
-/

namespace ControlComponent.Wire.Json

/-! ### Strings -/

/-- A piece of a string: a byte that stands for itself, or a UTF-16 unit that was escaped. -/
inductive Piece where
  | byte (value : UInt8)
  | unit (value : Nat)

/-- The value of four hexadecimal digits. -/
def unit? (a b c d : UInt8) : Option Nat :=
  let digit (x : UInt8) : Option Nat :=
    if 48 ≤ x ∧ x ≤ 57 then some (x.toNat - 48)
    else if 97 ≤ x ∧ x ≤ 102 then some (x.toNat - 87)
    else if 65 ≤ x ∧ x ≤ 70 then some (x.toNat - 55)
    else none
  match digit a, digit b, digit c, digit d with
  | some a, some b, some c, some d => some (((a * 16 + b) * 16 + c) * 16 + d)
  | _, _, _, _ => none

/-- The byte that a one-letter escape stands for. -/
def escaped? : UInt8 → Option UInt8
  | 34 => some 34
  | 92 => some 92
  | 47 => some 47
  | 98 => some 8
  | 102 => some 12
  | 110 => some 10
  | 114 => some 13
  | 116 => some 9
  | _ => none

/-- The pieces of a string, read from behind its opening quote to behind its closing one. The
pieces already read come in reverse. -/
def pieces (before : List Piece) : Bytes → Option (List Piece × Bytes)
  | [] => none
  | 34 :: rest => some (before.reverse, rest)
  | 92 :: 117 :: a :: b :: c :: d :: rest =>
    match unit? a b c d with
    | some n => pieces (.unit n :: before) rest
    | none => none
  | 92 :: c :: rest =>
    match escaped? c with
    | some b => pieces (.byte b :: before) rest
    | none => none
  | b :: rest => if b < 32 ∨ b = 92 then none else pieces (.byte b :: before) rest

/-- The UTF-8 form of a character. -/
def characterBytes (code : Nat) : Bytes := String.utf8EncodeChar (Char.ofNat code)

/-- The bytes that pieces write, unless a surrogate stands alone. -/
def assemble : List Piece → Option Bytes
  | [] => some []
  | .byte b :: rest => (assemble rest).map (b :: ·)
  | .unit n :: rest =>
    if 0xDC00 ≤ n ∧ n ≤ 0xDFFF then none
    else if 0xD800 ≤ n ∧ n ≤ 0xDBFF then
      match rest with
      | .unit m :: rest =>
        if 0xDC00 ≤ m ∧ m ≤ 0xDFFF then
          (assemble rest).map
            (characterBytes ((n - 0xD800) * 0x400 + (m - 0xDC00) + 0x10000) ++ ·)
        else none
      | _ => none
    else (assemble rest).map (characterBytes n ++ ·)

/-- The text that pieces write, if it is one. -/
def text? (pieces : List Piece) : Option String := (assemble pieces).bind Bytes.toText?

/-! ### Numbers -/

/-- Whether a byte is a decimal digit. -/
def isDigit (b : UInt8) : Bool := 48 ≤ b && b ≤ 57

/-- The number that decimal digits write. -/
def digitsValue (digits : Bytes) : Nat := digits.foldl (fun n b => n * 10 + (b.toNat - 48)) 0

/-- A number with digits written behind it as long as it fits 64 bits, and how many of them were
left out. -/
def fit (value : Nat) : (digits : Bytes) → Nat × Nat
  | [] => (value, 0)
  | d :: rest =>
    let next := value * 10 + (d.toNat - 48)
    if next < 2 ^ 64 then fit next rest else (value, rest.length + 1)

/-- A number without a fraction or exponent: an integer if it fits 64 bits. -/
def integer (negative : Bool) (value left : Nat) : Document :=
  if left ≠ 0 then .real (Binary64.isFinite value left)
  else if negative then
    if 0 < value ∧ value ≤ 2 ^ 63 then .int (-(value : Int)) 8 else .real true
  else .int value 8

/-- The exponent behind a number, and what is left. Without one the exponent is zero. -/
def exponent (bytes : Bytes) : Option (Int × Bytes) :=
  match bytes with
  | e :: rest =>
    if e = 101 ∨ e = 69 then
      let (negative, rest) :=
        match rest with
        | 43 :: rest => (false, rest)
        | 45 :: rest => (true, rest)
        | rest => (false, rest)
      let digits := rest.takeWhile isDigit
      if digits = [] then none
      else
        -- an exponent of twelve digits is beyond every bound already
        let value : Int := digitsValue ((digits.dropWhile (· == 48)).take 12)
        some (if negative then -value else value, rest.dropWhile isDigit)
    else some (0, bytes)
  | [] => some (0, [])

/-- A number, read from behind its sign. Digits of the fraction go on where those before the point
stopped, and those that do not fit are left out. -/
def number (negative : Bool) (bytes : Bytes) : Option (Document × Bytes) :=
  let digits := bytes.takeWhile isDigit
  let rest := bytes.dropWhile isDigit
  let (whole, left) := fit 0 digits
  if digits = [] ∨ (digits.head? = some 48 ∧ 1 < digits.length) then none
  else
    match rest with
    | 46 :: rest =>
      let fraction := rest.takeWhile isDigit
      if fraction = [] then none
      else
        let (value, unused) := fit whole fraction
        let scale : Int := left + unused - fraction.length
        (exponent (rest.dropWhile isDigit)).map fun (e, rest) =>
          (.real (Binary64.isFinite value (scale + e)), rest)
    | e :: _ =>
      if e = 101 ∨ e = 69 then
        (exponent rest).map fun (e, rest) => (.real (Binary64.isFinite whole (left + e)), rest)
      else some (integer negative whole left, rest)
    | [] => some (integer negative whole left, [])

/-! ### Tokens -/

/-- The words of JSON. -/
inductive Token where
  | openList
  | closeList
  | openMap
  | closeMap
  | colon
  | comma
  | text (value : Option String)
  | other (value : Document)

/-- The first token, and what is left behind it. -/
def token? : Bytes → Option (Token × Bytes)
  | 91 :: rest => some (.openList, rest)
  | 93 :: rest => some (.closeList, rest)
  | 123 :: rest => some (.openMap, rest)
  | 125 :: rest => some (.closeMap, rest)
  | 58 :: rest => some (.colon, rest)
  | 44 :: rest => some (.comma, rest)
  | 34 :: rest => (pieces [] rest).map fun (p, rest) => (.text (text? p), rest)
  | 110 :: 117 :: 108 :: 108 :: rest => some (.other .null, rest)
  | 116 :: 114 :: 117 :: 101 :: rest => some (.other (.bool true), rest)
  | 102 :: 97 :: 108 :: 115 :: 101 :: rest => some (.other (.bool false), rest)
  | 45 :: rest => (number true rest).map fun (d, rest) => (.other d, rest)
  | bytes => (number false bytes).map fun (d, rest) => (.other d, rest)

/-- White space between tokens. -/
def isSpace (b : UInt8) : Bool := b == 32 || b == 9 || b == 10 || b == 13

/-- The tokens of a text; where there is none to be had, a broken one ends the list. There are at
most `fuel` of them, one for every byte being enough. -/
def tokensUpTo : (fuel : Nat) → Bytes → List Token
  | 0, _ => []
  | fuel + 1, bytes =>
    match bytes.dropWhile isSpace with
    | [] => []
    | bytes =>
      match token? bytes with
      | some (t, rest) => t :: tokensUpTo fuel rest
      | none => [.other .broken]

/-- The tokens of a text. -/
def tokens (bytes : Bytes) : List Token := tokensUpTo bytes.length bytes

/-! ### Documents -/

mutual

/-- The document that tokens begin with, and the tokens behind it. -/
def document : (fuel : Nat) → List Token → Document × List Token
  | 0, _ => (.broken, [])
  | _ + 1, .text s :: rest => (.text s, rest)
  | _ + 1, .other d :: rest => (d, rest)
  | _ + 1, .openList :: .closeList :: rest => (.list [], rest)
  | fuel + 1, .openList :: rest =>
    let (items, rest) := items fuel rest
    (.list items, rest)
  | _ + 1, .openMap :: .closeMap :: rest => (.map [], rest)
  | fuel + 1, .openMap :: rest =>
    let (entries, rest) := entries fuel rest
    (.map entries, rest)
  | _ + 1, _ => (.broken, [])

/-- The items of a list up to its end. -/
def items : (fuel : Nat) → List Token → List Document × List Token
  | 0, _ => ([.broken], [])
  | fuel + 1, tokens =>
    match document fuel tokens with
    | (d, .closeList :: rest) => ([d], rest)
    | (d, .comma :: rest) =>
      let (ds, rest) := items fuel rest
      (d :: ds, rest)
    | (d, _) => ([d, .broken], [])

/-- The entries of a map up to its end. -/
def entries : (fuel : Nat) → List Token → List (Document × Document) × List Token
  | 0, _ => ([(.broken, .broken)], [])
  | fuel + 1, .text key :: .colon :: tokens =>
    match document fuel tokens with
    | (d, .closeMap :: rest) => ([(.text key, d)], rest)
    | (d, .comma :: rest) =>
      let (es, rest) := entries fuel rest
      ((.text key, d) :: es, rest)
    | (d, _) => ([(.text key, d), (.broken, .broken)], [])
  | _ + 1, .text key :: _ => ([(.text key, .broken)], [])
  | _ + 1, _ => ([(.broken, .broken)], [])

end

/-- What a text reads as. -/
def read (bytes : Bytes) : Reading :=
  let tokens := tokens bytes
  let (d, rest) := document (2 * tokens.length + 1) tokens
  ⟨d, rest.isEmpty⟩

/-! ### Writing -/

/-- Two hexadecimal digits. -/
def hexDigits (b : UInt8) : Bytes :=
  let digit (n : UInt8) : UInt8 := if n < 10 then 48 + n else 87 + n
  [digit (b / 16), digit (b % 16)]

/-- A byte inside a string. -/
def escape (b : UInt8) : Bytes :=
  if b = 34 then [92, 34]
  else if b = 92 then [92, 92]
  else if b = 8 then [92, 98]
  else if b = 9 then [92, 116]
  else if b = 10 then [92, 110]
  else if b = 12 then [92, 102]
  else if b = 13 then [92, 114]
  else if b < 32 then [92, 117, 48, 48] ++ hexDigits b
  else [b]

/-- A text in quotes. -/
def writeText (text : String) : Bytes :=
  34 :: (Bytes.ofText text).flatMap escape ++ [34]

/-- A number in decimal digits. -/
def writeNat (n : Nat) : Bytes := Bytes.ofText (Nat.repr n)

mutual

/-- A value without any space. -/
def write : Data → Bytes
  | .null => Bytes.ofText "null"
  | .bool b => Bytes.ofText (if b then "true" else "false")
  | .nat n => writeNat n
  | .text s => writeText s
  | .bytes b => 91 :: List.intercalate [44] (b.map fun x => writeNat x.toNat) ++ [93]
  | .list [] => [91, 93]
  | .list (item :: items) => 91 :: write item ++ writeItems items
  | .record [] => [123, 125]
  | .record ((name, value) :: fields) =>
    123 :: writeText name ++ 58 :: write value ++ writeFields fields

/-- The items of a list behind its first one, and its end. -/
def writeItems : List Data → Bytes
  | [] => [93]
  | item :: items => 44 :: write item ++ writeItems items

/-- The fields of a record behind its first one, and its end. -/
def writeFields : List (String × Data) → Bytes
  | [] => [125]
  | (name, value) :: fields => 44 :: writeText name ++ 58 :: write value ++ writeFields fields

end

/-- A line break and the indentation of a level. -/
def newLine (level : Nat) : Bytes := 10 :: List.replicate (2 * level) 32

mutual

/-- A value with every item on a line of its own, indented by two for each level. -/
def writeIndented (level : Nat) : Data → Bytes
  | .list (item :: items) =>
    91 :: newLine (level + 1) ++ writeIndented (level + 1) item ++ writeIndentedItems level items
  | .record ((name, value) :: fields) =>
    123 :: newLine (level + 1) ++ writeText name ++ [58, 32] ++ writeIndented (level + 1) value ++
      writeIndentedFields level fields
  | .list [] => [91, 93]
  | .record [] => [123, 125]
  | .null => write .null
  | .bool b => write (.bool b)
  | .nat n => write (.nat n)
  | .text s => write (.text s)
  | .bytes b => write (.bytes b)

/-- The items of an indented list behind its first one, and its end. -/
def writeIndentedItems (level : Nat) : List Data → Bytes
  | [] => newLine level ++ [93]
  | item :: items =>
    44 :: newLine (level + 1) ++ writeIndented (level + 1) item ++ writeIndentedItems level items

/-- The fields of an indented record behind its first one, and its end. -/
def writeIndentedFields (level : Nat) : List (String × Data) → Bytes
  | [] => newLine level ++ [125]
  | (name, value) :: fields =>
    44 :: newLine (level + 1) ++ writeText name ++ [58, 32] ++ writeIndented (level + 1) value ++
      writeIndentedFields level fields

end

/-- A value with every item on a line of its own. -/
def writePretty (data : Data) : Bytes := writeIndented 0 data

end ControlComponent.Wire.Json
