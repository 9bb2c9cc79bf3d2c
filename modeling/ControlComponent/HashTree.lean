import ControlComponent.Hash.Sha256

/-!
Structured values and their digest.

Each kind of value carries a byte of its own in front of what is hashed, and a list hashes the
digests of its items, so that the text `1`, the number 1 and a list of either have different inputs.
The digest is stated over any hash function `h`; `digest` takes SHA-256.
-/

namespace ControlComponent

/-- A structured value. -/
inductive HashTree where
  | bytes (value : Bytes)
  | integer (value : Nat)
  | text (value : String)
  | list (items : List HashTree)

namespace HashTree

/-- What holds of a list as soon as it holds of all its items holds of every value. -/
@[elab_as_elim, induction_eliminator]
theorem induct {motive : HashTree → Prop} (bytes : ∀ b, motive (.bytes b))
    (integer : ∀ n, motive (.integer n)) (text : ∀ s, motive (.text s))
    (list : ∀ items, (∀ item ∈ items, motive item) → motive (.list items)) (tree : HashTree) :
    motive tree :=
  match tree with
  | .bytes b => bytes b
  | .integer n => integer n
  | .text s => text s
  | .list items => list items fun item _ => induct bytes integer text list item

mutual

/-- What is hashed for a value. -/
def input (h : Bytes → Bytes) : HashTree → Bytes
  | .bytes b => 0 :: b
  | .integer n => 1 :: Bytes.ofNat n
  | .text s => 2 :: Bytes.ofText s
  | .list items => 3 :: digests h items

/-- The digests of values one after another. -/
def digests (h : Bytes → Bytes) : List HashTree → Bytes
  | [] => []
  | item :: items => h (input h item) ++ digests h items

end

/-- The digest of a value under a hash function. -/
def digestWith (h : Bytes → Bytes) (tree : HashTree) : Bytes := h (input h tree)

/-- The SHA-256 digest of a value. -/
def digest (tree : HashTree) : Bytes := digestWith Hash.Sha256.digest tree

/-- The list of numbers. -/
def integers (values : List Nat) : HashTree := .list (values.map .integer)

/-- The list of texts. -/
def texts (values : List String) : HashTree := .list (values.map .text)

end HashTree
end ControlComponent
