import ControlComponent.Wire.Record

/-!
Values that are one of several cases, each of which has a name.

A case without parts is written as its name. It is recognised by its name, in CBOR also by its
position, either alone or together with a `null`. A case with the fields of a record is written as
that record, its name being one more field in front. Such a record has to be held as a whole before
its case is known, so every fault of form in it counts before any fault in a field.
-/

namespace ControlComponent.Wire.Codec

/-- The case of a key: the names stand in the order of their positions. -/
def caseOfKey (cases : List (String × α)) : Key → Except Fault α
  | .name b =>
    match cases.find? fun c => Bytes.ofText c.1 == b with
    | some c => .ok c.2
    | none => .error .shape
  | .index i =>
    match cases[i]? with
    | some c => .ok c.2
    | none => .error .shape

/-- The case that the name or position in a document stands for; only CBOR knows cases by
position. -/
def caseOf (cases : List (String × α)) (e : Encoding) (d : Document) : Except Fault α := do
  match e, d with
  | .json, .text (some s) => caseOfKey cases (.name (Bytes.ofText s))
  | .json, _ => .error .shape
  | .cbor, d => caseOfKey cases (← Key.ofDocument d)

/-- Cases without parts. A map of the case and a `null` must not be marked. -/
def cases (cases : List (String × α)) (name : α → String) : Codec α where
  encode _ value := .text (name value)
  decode e d := do
    let alone (k v : Document) : Except Fault α := do
      let value ← caseOf cases e k
      match v.unmarked with
      | .null | .undefined => .ok value
      | _ => .error .shape
    match e, d with
    | _, .map [(k, v)] => alone k v
    | .cbor, .list [k, v] => alone k v
    | _, d => caseOf cases e d

/-! ### Tagged records -/

/-- How deep a document may nest that is held as a whole, counting one more. -/
def holdLimit : Nat := 128

/-- Whether the key of an entry is the given text. -/
def isKey (text : String) (d : Document) : Bool :=
  match d.unmarked with
  | .text (some s) => s == text
  | .bytes b => b == Bytes.ofText text
  | _ => false

/-- The key of an entry once it is held. A position is known by its number only in the narrowest and
the widest form: one that took two or four bytes names nothing. -/
def heldKey : Document → Document
  | .marked d => heldKey d
  | .int n width => if width = 2 ∨ width = 4 then .real true else .int n width
  | d => d

/-- A record whose case is one of several: its `tag` field, which may stand anywhere, is taken off
and names the schema of the rest. In a list the tag comes first. -/
def splitTag (tag : String) : Document → Except Fault (Document × Document)
  | .map entries =>
    match entries.filter fun (k, _) => isKey tag k with
    | [(_, v)] =>
      let rest := entries.filter fun (k, _) => !isKey tag k
      .ok (v, .map (rest.map fun (k, v) => (heldKey k, v)))
    | _ => .error .shape
  | .list (d :: ds) => .ok (d, .list ds)
  | _ => .error .shape

/-- Recognises records that are tagged with one of several cases. -/
def decodeTagged (tag : String) (cases : List (String × (Encoding → Document → Except Fault α)))
    (e : Encoding) (d : Document) : Except Fault α := do
  if d.isHoldable holdLimit then
    let (name, rest) ← splitTag tag d.unmarked
    let decode ← caseOf cases e name
    decode e rest
  else .error .shape

end ControlComponent.Wire.Codec
