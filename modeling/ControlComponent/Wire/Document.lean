import ControlComponent.Bytes

/-!
What is written, and what has been read.

`Data` is a value ready to be written in either encoding. `Document` is what a reader makes of a
byte string. A reader never fails as a whole: where it cannot go on it leaves `broken` and reads
nothing further, so that whoever looks at the document from its beginning meets faults in the order
in which they stand in the text.
-/

namespace ControlComponent.Wire

/-- The two encodings of messages. -/
inductive Encoding where
  | json
  | cbor
deriving DecidableEq

/-- A value ready to be written. -/
inductive Data where
  | null
  | bool (value : Bool)
  | nat (value : Nat)
  | text (value : String)
  | bytes (value : Bytes)
  | list (items : List Data)
  | record (fields : List (String × Data))
deriving Inhabited

/-- What was read. An integer of 64 bits comes with the number of bytes that it was written in
behind its head; any other number is `real`, with a mark on those that can be held. A text that may
be skipped but not used is `text none`. What stands behind a semantic tag is `marked`, and so is a
map whose length is not written in as few bytes as it needs; most readers look through the mark. -/
inductive Document where
  | null
  | undefined
  | bool (value : Bool)
  | int (value : Int) (width : Nat)
  | real (inRange : Bool)
  | text (value : Option String)
  | bytes (value : Bytes)
  | list (items : List Document)
  | map (entries : List (Document × Document))
  | marked (value : Document)
  | broken

namespace Document

/-- A document without the marks on it. -/
def unmarked : Document → Document
  | .marked d => d.unmarked
  | d => d

mutual

/-- A document that was read to its end, so that it can be skipped. -/
def isIntact : Document → Bool
  | .list items => areIntact items
  | .map entries => areIntactEntries entries
  | .marked d => d.isIntact
  | .broken => false
  | _ => true

/-- Whether all items were read to their end. -/
def areIntact : List Document → Bool
  | [] => true
  | d :: rest => d.isIntact && areIntact rest

/-- Whether all entries were read to their end. -/
def areIntactEntries : List (Document × Document) → Bool
  | [] => true
  | (k, v) :: rest => k.isIntact && v.isIntact && areIntactEntries rest

end

mutual

/-- A document that can be held as it is: read to its end, every text usable, every number in
range, and lists and maps nested less than `depth` deep. -/
def isHoldable (depth : Nat) : Document → Bool
  | .list items => 1 < depth && areHoldable (depth - 1) items
  | .map entries => 1 < depth && areHoldableEntries (depth - 1) entries
  | .marked d => d.isHoldable depth
  | .text none => false
  | .real inRange => inRange
  | .broken => false
  | _ => true

/-- Whether all items can be held. -/
def areHoldable (depth : Nat) : List Document → Bool
  | [] => true
  | d :: rest => d.isHoldable depth && areHoldable depth rest

/-- Whether all entries can be held. -/
def areHoldableEntries (depth : Nat) : List (Document × Document) → Bool
  | [] => true
  | (k, v) :: rest => k.isHoldable depth && v.isHoldable depth && areHoldableEntries depth rest

end

end Document

/-- A document, and whether nothing stood behind it. -/
structure Reading where
  document : Document
  ended : Bool

end ControlComponent.Wire
