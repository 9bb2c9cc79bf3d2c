import ControlComponent.Wire.Record

/-!
What a node remembers: of every card set how many selections a voter makes, and of every card its
public key and how far it has come. Records are found by an election event and a set or card in it.
-/

namespace ControlComponent

/-- An election event, and a set or a card in it. -/
structure Place where
  electionId : String
  itemId : String
deriving DecidableEq

namespace Place

/-- Places stand in the order of their election events, and within one in that of their items. -/
instance : Ord Place := ⟨compareLex (compareOn Place.electionId) (compareOn Place.itemId)⟩

instance : Std.TransOrd Place :=
  inferInstanceAs (Std.TransCmp (compareLex (compareOn Place.electionId) (compareOn Place.itemId)))

instance : Std.LawfulEqOrd Place where
  eq_of_compare {a b} h := by
    have h : ((compare a.electionId b.electionId).then (compare a.itemId b.itemId)) = .eq := h
    obtain ⟨h₁, h₂⟩ := Ordering.then_eq_eq.1 h
    cases a; cases b
    simp_all

end Place

/-! ### Card sets -/

/-- How many selections a voter of a card set makes. -/
structure SelectionCount where
  electionId : String
  setId : String
  selections : Nat
deriving DecidableEq

namespace SelectionCount

/-- Where a record is found. -/
def place (r : SelectionCount) : Place := ⟨r.electionId, r.setId⟩

/-- How records are written. -/
def codec : Wire.Codec SelectionCount :=
  .record
    (.required "election_event_id" .text <| .required "verification_card_set_id" .text <|
      .required "total_number_of_selections" .natural64 .done)
    (fun r => (r.electionId, r.setId, r.selections, ()))
    (fun (electionId, setId, selections, ()) => ⟨electionId, setId, selections⟩)

end SelectionCount

/-! ### Cards -/

/-- How far a card has come. There is a record once its partial choice codes have been decrypted;
then its choice codes are exponentiated, once, and after that its confirmation key, a limited number
of times. -/
structure CardRecord where
  electionId : String
  cardId : String
  isExponentiated : Bool
  attempts : Nat
deriving DecidableEq

namespace CardRecord

/-- The record of a card that has just been decrypted. -/
def new (electionId cardId : String) : CardRecord := ⟨electionId, cardId, false, 0⟩

/-- Where a record is found. -/
def place (r : CardRecord) : Place := ⟨r.electionId, r.cardId⟩

/-- How records are written. -/
def codec : Wire.Codec CardRecord :=
  .record
    (.required "election_event_id" .text <| .required "verification_card_id" .text <|
      .required "exponentiation_computed" .flag <| .required "confirmation_attempts" .natural32
      .done)
    (fun r => (r.electionId, r.cardId, r.isExponentiated, r.attempts, ()))
    (fun (electionId, cardId, isExponentiated, attempts, ()) =>
      ⟨electionId, cardId, isExponentiated, attempts⟩)

end CardRecord

/-- The public key of a card, as it was registered for a card set. -/
structure CardKey where
  electionId : String
  setId : String
  cardId : String
  publicKey : List Nat
deriving DecidableEq

namespace CardKey

/-- Where a record is found. -/
def place (r : CardKey) : Place := ⟨r.electionId, r.cardId⟩

/-- How records are written. -/
def codec : Wire.Codec CardKey :=
  .record
    (.required "election_event_id" .text <| .required "verification_card_set_id" .text <|
      .required "verification_card_id" .text <| .required "public_key" .decimals .done)
    (fun r => (r.electionId, r.setId, r.cardId, r.publicKey, ()))
    (fun (electionId, setId, cardId, publicKey, ()) => ⟨electionId, setId, cardId, publicKey⟩)

end CardKey
end ControlComponent
