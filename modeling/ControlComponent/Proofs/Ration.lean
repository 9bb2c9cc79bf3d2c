import ControlComponent.Proofs.Course

/-!
How often a card is answered.

A card's record only ever moves forward: it comes into being with the decryption, is marked once by
the exponentiation of the choice codes, and from then on counts attempts to confirm. Every reply
goes with such a move, and of each kind of move there is a budget that the record itself accounts
for. So a run replies at most once to decryption requests for a card, at most once to requests for
its choice codes, at most as often as the settings allow to requests for its vote cast code, and in
this order.

Nothing is assumed of the keys. A move whose answer cannot be signed is made all the same, and uses
up the budget without a reply.
-/

namespace ControlComponent.Node

open Message.Computation
open Exponentiation (Phase)

/-- What is done to a card. -/
inductive Activity where
  | decryption
  | choice
  | voteCast
deriving DecidableEq

/-- What is done in a phase. -/
def Exponentiation.Phase.activity : Phase → Activity
  | .choice => .choice
  | .voteCast => .voteCast

/-- What a frame asks for, and for which card. -/
def asked? (kind : Message.Kind) (frame : Bytes) : Option (Activity × Place) :=
  match kind, requestCodec.readFrame frame with
  | .decryption, .ok (_, request) => some (.decryption, requestCard request)
  | .exponentiation, .ok (_, request) =>
    request.payload.map fun input => ((Phase.of input).activity, requestCard request)
  | _, _ => none

/-- What a message asks for, and for which card. -/
def Delivery.asks? (d : Delivery) : Option (Activity × Place) := asked? d.kind d.frame

theorem asks?_decryption (keys : Key.Service) {frame : Bytes} {encoding : Wire.Encoding}
    {request : Request} (read : requestCodec.readFrame frame = .ok (encoding, request)) :
    (⟨keys, .decryption, frame⟩ : Delivery).asks? = some (.decryption, requestCard request) := by
  simp only [Delivery.asks?, asked?, read]

/-- Whether a node has replied to a message that asks for this. -/
def Exchange.answers (x : Exchange) (activity : Activity) (card : Place) : Bool :=
  x.replied && x.delivery.asks? = some (activity, card)

/-! ### Moves -/

/-- Whether a phase is open to a card. -/
def Exponentiation.Phase.Open (maxAttempts : Nat) (record : CardRecord) : Phase → Prop
  | .choice => record.isExponentiated = false
  | .voteCast => record.isExponentiated = true ∧ record.attempts < maxAttempts

/-- What is examined for a phase is open to its card. -/
theorem Exponentiation.open_of_examined {group : Group} {store : Store} {maxAttempts : Nat}
    {request : Request} {input : Input} {phase : Phase} {record : CardRecord} {values : List Nat}
    (examined : examine group store maxAttempts request input phase record = .ok values) :
    phase.Open maxAttempts record := by
  cases phase with
  | choice => exact choice_open examined
  | voteCast => exact voteCast_open examined

/-- What can become of the record of a card in the course of one message, and what has been done to
the card then. -/
inductive Move (maxAttempts : Nat) (card : Place) :
    Option Activity → Option CardRecord → Option CardRecord → Prop where
  | rest (record : Option CardRecord) : Move maxAttempts card none record record
  | decrypt : Move maxAttempts card (some .decryption) none
      (some (.new card.electionId card.itemId))
  | advance {record : CardRecord} {phase : Phase} : phase.Open maxAttempts record →
      Move maxAttempts card (some phase.activity) (some record) (some (phase.advance record))

/-- How often something can still be done to a card with this record. -/
def budget (maxAttempts : Nat) : Activity → Option CardRecord → Nat
  | .decryption, none => 1
  | .decryption, some _ => 0
  | .choice, none => 1
  | .choice, some record => (!record.isExponentiated).toNat
  | .voteCast, none => maxAttempts
  | .voteCast, some record => maxAttempts - record.attempts

/-- No record leaves more to be done than there is without one. -/
theorem budget_le (maxAttempts : Nat) (activity : Activity) (record : Option CardRecord) :
    budget maxAttempts activity record ≤ budget maxAttempts activity none := by
  cases record with
  | none => exact Nat.le_refl _
  | some record =>
    cases activity with
    | decryption => exact Nat.zero_le 1
    | choice => exact Bool.toNat_le _
    | voteCast => exact Nat.sub_le ..

/-- What is done uses up the budget. -/
theorem Move.pays {maxAttempts : Nat} {card : Place} {done : Option Activity}
    {record record' : Option CardRecord} (move : Move maxAttempts card done record record')
    (activity : Activity) :
    budget maxAttempts activity record' + (decide (done = some activity)).toNat ≤
      budget maxAttempts activity record := by
  cases move with
  | rest => simp
  | decrypt => cases activity <;> simp [budget, CardRecord.new]
  | @advance record phase isOpen =>
    cases phase with
    | choice =>
      have unmarked : record.isExponentiated = false := isOpen
      cases activity <;> simp [budget, Phase.activity, Phase.advance, unmarked]
    | voteCast =>
      obtain ⟨-, below⟩ := isOpen
      cases activity <;> simp [budget, Phase.activity, Phase.advance]
      omega

/-! ### Every message is a move -/

variable {suite : Suite} {settings : Settings}

/-- What a message does to a card: a move that the message asks for and that any reply goes with. -/
def Moves (maxAttempts : Nat) (card : Place) (x : Exchange) : Prop :=
  ∃ done,
    Move maxAttempts card done (x.before.store.cards.get? card) (x.after.store.cards.get? card) ∧
    (∀ activity, done = some activity → x.delivery.asks? = some (activity, card)) ∧
    ∀ activity, x.answers activity card = true → done = some activity

/-- A message that leaves the store alone and is not replied to is no move. -/
theorem moves_of_unanswered {maxAttempts : Nat} {x : Exchange}
    (same : x.after.store.cards = x.before.store.cards) (unanswered : x.replied = false)
    (card : Place) : Moves maxAttempts card x := by
  refine ⟨none, ?_, by simp, by simp [Exchange.answers, unanswered]⟩
  rw [same]
  exact .rest _

/-- A message that puts the record of the card it asks for is a move of that card and of no other.
-/
theorem moves_of_put {maxAttempts : Nat} {x : Exchange} {activity : Activity}
    (record : CardRecord) (asks : x.delivery.asks? = some (activity, record.place))
    (stored : x.after.store.cards = x.before.store.cards.put record)
    (move : Move maxAttempts record.place (some activity) (x.before.store.cards.get? record.place)
      (some record))
    (card : Place) : Moves maxAttempts card x := by
  by_cases here : record.place = card
  · subst here
    refine ⟨some activity, ?_, ?_, ?_⟩
    · rw [stored, Table.get?_put_self]
      exact move
    · rintro other ⟨⟩
      exact asks
    · intro other answered
      simp only [Exchange.answers, asks, Bool.and_eq_true, decide_eq_true_eq, Option.some.injEq,
        Prod.mk.injEq] at answered
      rw [answered.2.1]
  · refine ⟨none, ?_, by simp, ?_⟩
    · rw [stored, Table.get?_put_of_ne _ here]
      exact .rest _
    · intro other answered
      simp [Exchange.answers, asks, here] at answered

/-- Every message is a move of every card, or leaves it at rest. -/
theorem moves_of_course {x : Exchange} (course : x.Course suite settings) (card : Place) :
    Moves settings.maxAttempts card x := by
  cases course with
  | refused same unanswered =>
    exact moves_of_unanswered (congrArg Store.cards same) unanswered card
  | generated _ kind _ _ _ stored =>
    have same : x.after.store.cards = x.before.store.cards := by
      rw [stored, Store.cards_addCount, Generation.cards_register]
    refine ⟨none, ?_, by simp, by simp [Exchange.answers, Delivery.asks?, asked?, kind]⟩
    rw [same]
    exact .rest _
  | decrypted request _ kind read _ absent stored =>
    have asks : x.delivery.asks? = some (.decryption, requestCard request) := by
      simp [Delivery.asks?, asked?, kind, read]
    refine moves_of_put (.new request.electionId request.cardId) asks
      (congrArg Store.cards stored) ?_ card
    rw [show x.before.store.cards.get? (CardRecord.new request.electionId request.cardId).place =
      none from absent]
    exact .decrypt
  | exponentiated request input record _ kind read passed stored =>
    have found := Store.card_eq_ok.1 passed.decrypted
    have place : ((Phase.of input).advance record).place = requestCard request := by
      rw [Exponentiation.Phase.place_advance]
      exact Table.key_of_get? found
    have asks : x.delivery.asks? = some ((Phase.of input).activity, requestCard request) := by
      simp [Delivery.asks?, asked?, kind, read, passed.payload]
    refine moves_of_put _ (place ▸ asks) (congrArg Store.cards stored) ?_ card
    rw [place, requestCard, found]
    exact .advance (Exponentiation.open_of_examined passed.examined)

/-- Every reply in the voting phase is one to an activity on a card. -/
theorem exists_answers {x : Exchange} (course : x.Course suite settings)
    (voting : x.delivery.kind ≠ .generation) (replied : x.replied = true) :
    ∃ activity card, x.answers activity card = true := by
  suffices asks : ∃ asked, x.delivery.asks? = some asked by
    obtain ⟨⟨activity, card⟩, asks⟩ := asks
    exact ⟨activity, card, by simp [Exchange.answers, replied, asks]⟩
  cases course with
  | refused _ unanswered => simp [unanswered] at replied
  | generated _ kind => exact absurd kind voting
  | decrypted _ _ kind read => exact ⟨_, by simp only [Delivery.asks?, asked?, kind, read]; rfl⟩
  | exponentiated _ _ _ _ kind read passed =>
    exact ⟨_, by simp only [Delivery.asks?, asked?, kind, read, passed.payload]; rfl⟩

/-! ### Runs -/

/-- A message that has created the record of a card: a decryption request for it. -/
def Exchange.Creates (x : Exchange) (card : Place) : Prop :=
  x.delivery.asks? = some (.decryption, card) ∧ x.before.store.cards.get? card = none ∧
    x.after.store.cards.get? card = some (.new card.electionId card.itemId)

/-- A message that has marked the record of a card: a request for its choice codes. -/
def Exchange.Marks (x : Exchange) (card : Place) : Prop :=
  x.delivery.asks? = some (.choice, card) ∧
    ∃ record, x.before.store.cards.get? card = some record ∧ record.isExponentiated = false ∧
      x.after.store.cards.get? card = some { record with isExponentiated := true }

/-- A reply to what is asked for a card uses up the card's budget. -/
theorem answers_pay (d : Delivery) (state : State) (activity : Activity) (card : Place) :
    let x := d.exchange suite settings state
    budget settings.maxAttempts activity (x.after.store.cards.get? card) +
        (x.answers activity card).toNat ≤
      budget settings.maxAttempts activity (state.store.cards.get? card) := by
  intro x
  obtain ⟨done, move, -, answered⟩ := moves_of_course
    (exchange_course suite settings d state) card
  have paid := move.pays activity
  cases replied : x.answers activity card with
  | false => exact Nat.le_trans (Nat.le_add_right _ _) paid
  | true =>
    rw [answered activity replied, decide_eq_true rfl] at paid
    exact paid

/-- In any run, no activity on a card is answered more often than the card's record allows in the
beginning. -/
theorem countP_answers_le_budget (activity : Activity) (card : Place) (state : State)
    (messages : List Delivery) :
    (history suite settings state messages).countP (·.answers activity card) ≤
      budget settings.maxAttempts activity (state.store.cards.get? card) :=
  countP_le_budget (fun store => budget settings.maxAttempts activity (store.cards.get? card))
    (fun d state => answers_pay d state activity card) state messages

/-- A record that a card has by some time and had not in the beginning was created before. -/
theorem exists_creates {state : State} {messages : List Delivery} {pre post : List Exchange}
    {x : Exchange} {card : Place} (split : history suite settings state messages = pre ++ x :: post)
    (initially : state.store.cards.get? card = none)
    (found : (x.before.store.cards.get? card).isSome) : ∃ y ∈ pre, y.Creates card := by
  obtain ⟨y, mem, course, absent, present⟩ := exists_course
    (P := fun store => (store.cards.get? card).isSome) split (by simp [initially]) found
  obtain ⟨done, move, asks, -⟩ := moves_of_course course card
  rw [Option.not_isSome_iff_eq_none] at absent
  rw [absent] at move
  generalize after : y.after.store.cards.get? card = record at move present
  cases move with
  | rest => cases present
  | decrypt => exact ⟨y, mem, asks _ rfl, absent, after⟩

/-- A record that is marked by some time and was not in the beginning was marked before. -/
theorem exists_marks {state : State} {messages : List Delivery} {pre post : List Exchange}
    {x : Exchange} {card : Place} {record : CardRecord}
    (split : history suite settings state messages = pre ++ x :: post)
    (initially : state.store.cards.get? card = none)
    (found : x.before.store.cards.get? card = some record)
    (marked : record.isExponentiated = true) : ∃ y ∈ pre, y.Marks card := by
  obtain ⟨y, mem, course, unmarked, present⟩ := exists_course
    (P := fun store => ∃ r, store.cards.get? card = some r ∧ r.isExponentiated = true) split
    (by simp [initially]) ⟨record, found, marked⟩
  obtain ⟨done, move, asks, -⟩ := moves_of_course course card
  obtain ⟨r, after, marked⟩ := present
  generalize before : y.before.store.cards.get? card = record at move
  rw [after] at move
  cases move with
  | rest => exact absurd ⟨r, before, marked⟩ unmarked
  | decrypt => cases marked
  | @advance record phase isOpen =>
    cases phase with
    | choice => exact ⟨y, mem, asks _ rfl, record, before, isOpen, after⟩
    | voteCast => exact absurd ⟨record, before, isOpen.1⟩ unmarked

/-- A reply needs a phase that is open: none without a record, none to a confirmation before the
choice codes. -/
theorem answers_needs {x : Exchange} {activity : Activity} {card : Place} {maxAttempts : Nat}
    (moves : Moves maxAttempts card x) (answered : x.answers activity card = true) :
    match activity with
    | .decryption => x.before.store.cards.get? card = none
    | .choice => (x.before.store.cards.get? card).isSome
    | .voteCast => ∃ record, x.before.store.cards.get? card = some record ∧
        record.isExponentiated = true := by
  obtain ⟨done, move, -, answers⟩ := moves
  rw [answers activity answered] at move
  generalize x.before.store.cards.get? card = record at move ⊢
  generalize x.after.store.cards.get? card = record' at move
  generalize whichever : some activity = done at move
  cases move with
  | rest => cases whichever
  | decrypt => cases whichever; rfl
  | @advance record phase isOpen =>
    cases phase with
    | choice => cases whichever; rfl
    | voteCast => cases whichever; exact ⟨record, rfl, isOpen.1⟩

/-- Replies are rationed. In any run of a node that starts with an empty store, whatever keys come
with the messages, every card gets at most one reply to a decryption request, at most one to a
request for its choice codes and at most as many to requests for its vote cast code as the settings
allow. Choice codes are answered only after the decryption that created the card's record, the vote
cast code only after the request for choice codes that marked it. -/
theorem replies_are_rationed (suite : Suite) (settings : Settings) (randomness : Randomness)
    (messages : List Delivery) (card : Place) :
    let run := history suite settings (.initial .empty randomness) messages
    run.countP (·.answers .decryption card) ≤ 1 ∧
    run.countP (·.answers .choice card) ≤ 1 ∧
    run.countP (·.answers .voteCast card) ≤ settings.maxAttempts ∧
    (∀ pre x post, run = pre ++ x :: post → x.answers .choice card = true →
      ∃ y ∈ pre, y.Creates card) ∧
    (∀ pre x post, run = pre ++ x :: post → x.answers .voteCast card = true →
      ∃ y ∈ pre, y.Marks card) := by
  intro run
  have initially : (State.initial .empty randomness).store.cards.get? card = none := rfl
  have moves : ∀ x ∈ run, Moves settings.maxAttempts card x := by
    intro x mem
    exact moves_of_course (course_of_mem mem) card
  refine ⟨countP_answers_le_budget .decryption card _ messages,
    countP_answers_le_budget .choice card _ messages,
    countP_answers_le_budget .voteCast card _ messages, ?_, ?_⟩
  · intro pre x post split answered
    have needs := answers_needs (moves x (by simp [split])) answered
    exact exists_creates split initially needs
  · intro pre x post split answered
    obtain ⟨record, found, marked⟩ := answers_needs (moves x (by simp [split])) answered
    exact exists_marks split initially found marked

end ControlComponent.Node
