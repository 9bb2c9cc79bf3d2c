import ControlComponent.Proofs.Identifier
import ControlComponent.Proofs.Small
import ControlComponent.VoterKey

/-!
What the keys of voters are derived from.

The name of a card, the suffix of a kind and a number are written one behind the other, with nothing
between them. Where the name is an identifier, all three can be told from their joint text: the name
from its ninth byte, the kind because the suffix does not begin with a digit, and the number from
its digits. Where it may be any text, the vote-cast key of a card has the seed of the choice key of
the card whose name has the suffix behind it, and that is all that seeds have in common.
-/

namespace ControlComponent.VoterKey

open Message.Computation (Envelope)

/-- What stands behind the name of a card in the seed of its key. -/
def Kind.suffix : Kind → String
  | .choice => ""
  | .voteCast => confirmSuffix

theorem Kind.seed_eq (kind : Kind) (cardId : String) :
    kind.seed cardId = cardId ++ kind.suffix := by
  cases kind with
  | choice => exact String.append_empty.symm
  | voteCast => rfl

/-- What is expanded first is a text. -/
theorem firstInput_eq_ofText (seed : String) (master : Nat) :
    firstInput seed master = Bytes.ofText (seed ++ Text.Decimal.render master) :=
  (Bytes.ofText_append ..).symm

theorem confirmSuffix_append_ne_render {text : String} {n : Nat} :
    confirmSuffix ++ text ≠ Text.Decimal.render n := by
  intro same
  have first : 'c' ∈ (Text.Decimal.render n).toList := by
    rw [← same, String.toList_append]
    exact List.mem_append_left _ (by decide)
  exact absurd (Text.Decimal.isDigit_of_mem_render first) (by decide)

/-- A kind and a number can be told from what stands behind the name of a card. -/
theorem suffix_append_render_inj {kind kind' : Kind} {n n' : Nat}
    (same : kind.suffix ++ Text.Decimal.render n = kind'.suffix ++ Text.Decimal.render n') :
    kind = kind' ∧ n = n' := by
  have number (same : Text.Decimal.render n = Text.Decimal.render n') : n = n' :=
    Text.Decimal.render_injective same
  cases kind <;> cases kind' <;> simp only [Kind.suffix, String.empty_append] at same
  case choice.choice => exact ⟨rfl, number same⟩
  case choice.voteCast => exact absurd same.symm confirmSuffix_append_ne_render
  case voteCast.choice => exact absurd same confirmSuffix_append_ne_render
  case voteCast.voteCast => exact ⟨rfl, number (String.append_right_inj _ |>.1 same)⟩

/-- The card, the kind and the master of a key are known from what it is derived from, if the card
is named by an identifier. -/
theorem firstInput_seed_inj {cardId cardId' : String} (written : Uuid.isWritten cardId = true)
    (written' : Uuid.isWritten cardId' = true) {kind kind' : Kind} {master master' : Nat}
    (same : firstInput (kind.seed cardId) master = firstInput (kind'.seed cardId') master') :
    cardId = cardId' ∧ kind = kind' ∧ master = master' := by
  simp only [firstInput_eq_ofText, Kind.seed_eq, String.append_assoc, Bytes.ofText_append cardId,
    Bytes.ofText_append cardId'] at same
  obtain ⟨names, behind⟩ :=
    (Uuid.form_of_isWritten written).append_inj_front (Uuid.form_of_isWritten written') same
  exact ⟨Bytes.ofText_inj.1 names, suffix_append_render_inj (Bytes.ofText_inj.1 behind)⟩

/-- **No two keys of cards with identifiers are derived from one text**, whatever their kinds and
masters are. -/
theorem firstInput_seed_eq_iff {cardId cardId' : String} (accepted : Envelope.isId cardId = true)
    (accepted' : Envelope.isId cardId' = true) (kind kind' : Kind) (master master' : Nat) :
    firstInput (kind.seed cardId) master = firstInput (kind'.seed cardId') master' ↔
      cardId = cardId' ∧ kind = kind' ∧ master = master' := by
  rw [Envelope.isId_eq_isWritten] at accepted accepted'
  refine ⟨firstInput_seed_inj accepted accepted', ?_⟩
  rintro ⟨rfl, rfl, rfl⟩
  rfl

/-- The two keys of the small component's card are derived from different texts, and so are its key
and that of the same card under another form of its name, and its keys for two masters of which one
begins with the other. -/
theorem firstInput_ne_of_small :
    let other := "urn:uuid:00000000-0000-0000-0000-00000000000c"
    Envelope.isId Small.cardC = true ∧ Envelope.isId other = true ∧
      firstInput (Kind.choice.seed Small.cardC) 3 ≠ firstInput (Kind.voteCast.seed Small.cardC) 3 ∧
      firstInput (Kind.choice.seed Small.cardC) 3 ≠ firstInput (Kind.choice.seed other) 3 ∧
      firstInput (Kind.voteCast.seed Small.cardC) 3 ≠
        firstInput (Kind.voteCast.seed Small.cardC) 31 := by
  intro other
  have accepted : Envelope.isId Small.cardC = true := by decide +kernel
  have accepted' : Envelope.isId other = true := by decide +kernel
  refine ⟨accepted, accepted', fun same => ?_, fun same => ?_, fun same => ?_⟩
  · exact absurd ((firstInput_seed_eq_iff accepted accepted _ _ _ _).1 same).2.1 (by decide)
  · exact absurd ((firstInput_seed_eq_iff accepted accepted' _ _ _ _).1 same).1 (by decide)
  · exact absurd ((firstInput_seed_eq_iff accepted accepted _ _ _ _).1 same).2.2 (by decide)

/-! ### Any names -/

/-- When two keys have one seed: it is one key of one card, or it is the vote-cast key of a card and
the choice key of another one, whose name is that of the first with the suffix behind it. -/
inductive OneSeed : Kind → String → Kind → String → Prop
  | same (kind : Kind) (cardId : String) : OneSeed kind cardId kind cardId
  | castChoice (cardId : String) : OneSeed .voteCast cardId .choice (cardId ++ confirmSuffix)
  | choiceCast (cardId : String) : OneSeed .choice (cardId ++ confirmSuffix) .voteCast cardId

theorem seed_eq_seed_iff {kind kind' : Kind} {cardId cardId' : String} :
    kind.seed cardId = kind'.seed cardId' ↔ OneSeed kind cardId kind' cardId' := by
  constructor
  · intro same
    cases kind <;> cases kind' <;> simp only [Kind.seed] at same
    case choice.choice => exact same ▸ .same _ _
    case choice.voteCast => exact same ▸ .choiceCast _
    case voteCast.choice => exact same ▸ .castChoice _
    case voteCast.voteCast => exact String.append_left_inj confirmSuffix |>.1 same ▸ .same _ _
  · rintro (_ | _ | _) <;> rfl

/-- With one master, what keys are derived from coincides only with their seeds. -/
theorem firstInput_eq_iff_oneSeed {kind kind' : Kind} {cardId cardId' : String} (master : Nat) :
    firstInput (kind.seed cardId) master = firstInput (kind'.seed cardId') master ↔
      OneSeed kind cardId kind' cardId' := by
  rw [← seed_eq_seed_iff, firstInput, firstInput, List.append_left_inj, Bytes.ofText_inj]

/-- Cards with identifiers have no seed in common. -/
theorem OneSeed.eq_of_isId {kind kind' : Kind} {cardId cardId' : String}
    (one : OneSeed kind cardId kind' cardId') (accepted : Envelope.isId cardId = true)
    (accepted' : Envelope.isId cardId' = true) : cardId = cardId' ∧ kind = kind' := by
  rw [Envelope.isId_eq_isWritten] at accepted accepted'
  obtain ⟨cards, kinds, -⟩ :=
    firstInput_seed_inj accepted accepted' ((firstInput_eq_iff_oneSeed 0).2 one)
  exact ⟨cards, kinds⟩

end ControlComponent.VoterKey
