import ControlComponent.Store.Record
import ControlComponent.Store.Table

/-!
The store of a node: a table for each kind of record.

A snapshot lists the records of a store in the order of their places. A store can be made from any
lists of records: of several counts for one card set the first holds, of several records or keys
for one card the last.
-/

namespace ControlComponent

/-- What a node remembers. -/
structure Store where
  counts : Table SelectionCount.place
  cards : Table CardRecord.place
  cardKeys : Table CardKey.place

namespace Store

/-- What is wrong with a store that does not hold what it should, or holds what it should not. -/
inductive Fault where
  | missingCard (electionId cardId : String)
  | alreadyExponentiated (cardId : String)
  | notExponentiated (cardId : String)
  | missingCount (electionId setId : String)
  | missingCardKey (cardId : String)
deriving DecidableEq

/-- What is said of a fault. -/
def Fault.message : Fault → String
  | .missingCard electionId cardId =>
    "returncodes state: card " ++ cardId ++ " (" ++ electionId ++ ") not computed"
  | .alreadyExponentiated cardId =>
    "returncodes state: exponentiation already computed for verification card " ++ cardId
  | .notExponentiated cardId =>
    "returncodes state: exponentiation not yet computed for verification card " ++ cardId
  | .missingCount _ setId => "returncodes state: no correctness info for set " ++ setId
  | .missingCardKey cardId =>
    "returncodes state: no public key stored for verification card " ++ cardId

/-- The name of a fault. -/
def Fault.name : Fault → String
  | .missingCard _ _ => "MissingComputedVerificationCard"
  | .alreadyExponentiated _ => "AlreadyExponentiated"
  | .notExponentiated _ => "NotExponentiated"
  | .missingCount _ _ => "MissingCorrectnessInformation"
  | .missingCardKey _ => "MissingVerificationCardPublicKey"

/-- The store that holds nothing. -/
def empty : Store := ⟨.empty, .empty, .empty⟩

/-! ### Records -/

/-- The number of selections of a card set. -/
def selections (s : Store) (electionId setId : String) : Except Fault Nat :=
  match s.counts.get? ⟨electionId, setId⟩ with
  | some r => .ok r.selections
  | none => .error (.missingCount electionId setId)

/-- The record of a card. -/
def card (s : Store) (electionId cardId : String) : Except Fault CardRecord :=
  match s.cards.get? ⟨electionId, cardId⟩ with
  | some r => .ok r
  | none => .error (.missingCard electionId cardId)

/-- The public key of a card. -/
def cardKey (s : Store) (electionId cardId : String) : Except Fault CardKey :=
  match s.cardKeys.get? ⟨electionId, cardId⟩ with
  | some r => .ok r
  | none => .error (.missingCardKey cardId)

/-- Whether there is a record of a card. -/
def hasCard (s : Store) (electionId cardId : String) : Bool :=
  s.cards.contains ⟨electionId, cardId⟩

/-- The store with a count, unless there is one for its card set, in which case it is none. -/
def addCount? (s : Store) (r : SelectionCount) : Option Store :=
  if s.counts.contains r.place then none else some { s with counts := s.counts.put r }

/-- The store with a card's first record, unless there is one already, in which case it is none. -/
def addCard? (s : Store) (r : CardRecord) : Option Store :=
  if s.cards.contains r.place then none else some { s with cards := s.cards.put r }

/-- The store with a count, which does not replace another one. -/
def addCount (s : Store) (r : SelectionCount) : Store := (s.addCount? r).getD s

/-- The store with the record of a card. -/
def putCard (s : Store) (r : CardRecord) : Store := { s with cards := s.cards.put r }

/-- The store with the public key of a card. -/
def putCardKey (s : Store) (r : CardKey) : Store := { s with cardKeys := s.cardKeys.put r }

/-! ### Snapshots -/

/-- The records of a store, listed. -/
structure Snapshot where
  counts : List SelectionCount
  cards : List CardRecord
  cardKeys : List CardKey
deriving DecidableEq

/-- How snapshots are written. -/
def Snapshot.codec : Wire.Codec Snapshot :=
  .record
    (.required "correctness_info" (.list SelectionCount.codec) <|
      .required "verification_cards" (.list CardRecord.codec) <|
      .required "verification_card_public_keys" (.list CardKey.codec) .done)
    (fun s => (s.counts, s.cards, s.cardKeys, ()))
    (fun (counts, cards, cardKeys, ()) => ⟨counts, cards, cardKeys⟩)

/-- The records of a store, listed. -/
def snapshot (s : Store) : Snapshot := ⟨s.counts.entries, s.cards.entries, s.cardKeys.entries⟩

/-- The store of listed records. -/
def ofSnapshot (snapshot : Snapshot) : Store :=
  let store := snapshot.counts.foldl addCount empty
  let store := snapshot.cards.foldl putCard store
  snapshot.cardKeys.foldl putCardKey store

/-- A store as JSON text with a record's fields on lines of their own. -/
def toBytes (s : Store) : Bytes := Wire.Json.writePretty (Snapshot.codec.encode .json s.snapshot)

/-- The store that a JSON text writes. -/
def ofBytes (bytes : Bytes) : Except Wire.Fault Store :=
  (Snapshot.codec.read .json bytes).map ofSnapshot

end Store
end ControlComponent
