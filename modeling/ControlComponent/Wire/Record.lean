import ControlComponent.Wire.Codec

/-!
Records: values with named fields.

A record is written as a map, its fields in the order of its schema. It is recognised in a map with
its fields in any order, known by name or by position, among others that are skipped, and in a list
of its fields in order. A field may stand only once. What stands for a field that is missing is said
by the schema; fields are filled as they come, and missing ones are noticed at the end.
-/

namespace ControlComponent.Wire

/-- What stands for a field that is missing: nothing, or a value, either in maps only or at the end
of lists as well. -/
inductive Absence (α : Type) where
  | refused
  | inMaps (value : α)
  | anywhere (value : α)

/-- The fields of a record as a tuple of type `α` that ends with the unit. While some of them are
missing, they are a tuple of type `σ` in which every one is optional. -/
inductive Schema : (σ α : Type) → Type 1 where
  | done : Schema Unit Unit
  | field {σ α β : Type} (name : String) (codec : Codec α) (absence : Absence α)
    (rest : Schema σ β) : Schema (Option α × σ) (α × β)

/-- How a map names a field. -/
inductive Key where
  | name (bytes : Bytes)
  | index (position : Nat)

/-- The field that the key of an entry names. -/
def Key.ofDocument : Document → Except Fault Key
  | .text (some s) => .ok (.name (Bytes.ofText s))
  | .bytes b => .ok (.name b)
  | .int n _ => if 0 ≤ n then .ok (.index n.toNat) else .error .shape
  | .marked d => ofDocument d
  | _ => .error .shape

namespace Schema

/-- A field that must be there. -/
def required (name : String) (codec : Codec α) (rest : Schema σ β) :
    Schema (Option α × σ) (α × β) :=
  .field name codec .refused rest

/-- A field for which `value` stands when it is missing, at the end of a list too. -/
def defaulted (name : String) (codec : Codec α) (value : α) (rest : Schema σ β) :
    Schema (Option α × σ) (α × β) :=
  .field name codec (.anywhere value) rest

/-- A field that a map may leave out. -/
def optional (name : String) (codec : Codec α) (rest : Schema σ β) :
    Schema (Option (Option α) × σ) (Option α × β) :=
  .field name codec.option (.inMaps none) rest

/-- The fields of a record, written in order. -/
def write (e : Encoding) : Schema σ α → α → List (String × Data)
  | .done, () => []
  | .field name codec _ rest, (value, values) => (name, codec.encode e value) :: rest.write e values

/-! ### Maps -/

/-- A record of which no field is filled. -/
def blank : Schema σ α → σ
  | .done => ()
  | .field _ _ _ rest => (none, rest.blank)

/-- Whether a key names the first field. -/
def isNamed (name : String) : Key → Bool
  | .name b => b == Bytes.ofText name
  | .index i => i == 0

/-- A key as the fields behind the first one see it. -/
def behind : Key → Key
  | .name b => .name b
  | .index i => .index (i - 1)

/-- Fills the field that a key names. An entry that names no field is skipped. -/
def put (e : Encoding) (key : Key) (d : Document) : Schema σ α → σ → Except Fault σ
  | .done, () => if d.isIntact then .ok () else .error .shape
  | .field name codec _ rest, (slot, slots) =>
    if isNamed name key then
      match slot with
      | some _ => .error .shape
      | none => (codec.decode e d).map fun value => (some value, slots)
    else (put e (behind key) d rest slots).map fun slots => (slot, slots)

/-- Fills fields from the entries of a map. -/
def putAll (e : Encoding) (s : Schema σ α) : List (Document × Document) → σ → Except Fault σ
  | [], slots => .ok slots
  | (k, v) :: rest, slots => do
    let key ← Key.ofDocument k
    let slots ← s.put e key v slots
    s.putAll e rest slots

/-- The value that stands in a map for a field. -/
def settle (absence : Absence α) : Option α → Except Fault α
  | some value => .ok value
  | none =>
    match absence with
    | .refused => .error .shape
    | .inMaps value => .ok value
    | .anywhere value => .ok value

/-- The record, once no more fields come. -/
def finish : Schema σ α → σ → Except Fault α
  | .done, () => .ok ()
  | .field _ _ absence rest, (slot, slots) => do
    let value ← settle absence slot
    let values ← rest.finish slots
    return (value, values)

/-! ### Lists -/

/-- The record whose fields are the items of a list. -/
def ofItems (e : Encoding) : Schema σ α → List Document → Except Fault α
  | .done, [] => .ok ()
  | .done, _ :: _ => .error .shape
  | .field _ codec _ rest, d :: ds => do
    let value ← codec.decode e d
    let values ← rest.ofItems e ds
    return (value, values)
  | .field _ _ absence rest, [] => do
    match absence with
    | .anywhere value =>
      let values ← rest.ofItems e []
      return (value, values)
    | _ => .error .shape

/-- The record that a document holds. -/
def read (e : Encoding) (s : Schema σ α) (d : Document) : Except Fault α :=
  match d.unmarked with
  | .map entries => s.putAll e entries s.blank >>= s.finish
  | .list items => s.ofItems e items
  | _ => .error .shape

end Schema

/-! ### Codecs -/

namespace Codec

/-- Records of a schema that fulfil a condition, which is looked at last. -/
def checkedRecord (s : Schema σ α) (toFields : ρ → α) (ofFields : α → Except Fault ρ) :
    Codec ρ where
  encode e r := .record (s.write e (toFields r))
  decode e d := s.read e d >>= ofFields

/-- Records of a schema. -/
def record (s : Schema σ α) (toFields : ρ → α) (ofFields : α → ρ) : Codec ρ :=
  checkedRecord s toFields fun fields => .ok (ofFields fields)

/-- Groups: three numbers that form one. -/
def group : Codec Group :=
  checkedRecord
    (.required "p" decimal <| .required "q" decimal <| .required "g" decimal .done)
    (fun g => (g.p, g.q, g.g, ()))
    (fun (p, q, g, ()) =>
      match Group.ofValues p q g with
      | .ok group => .ok group
      | .error fault => .error (.group fault))

end Codec
end ControlComponent.Wire
