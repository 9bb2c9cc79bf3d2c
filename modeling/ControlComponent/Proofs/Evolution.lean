import ControlComponent.Proofs.Ration
import ControlComponent.Proofs.Registered

/-!
How a store evolves.

A card has a way to go. At first there is no record of it; a decryption leaves one, the
exponentiation of its choice codes marks it, and every attempt to confirm is counted, until there
are as many as the settings allow. A message takes at most one card one stage on, and only the card
and the stage that it asks for. Counts and card keys are brought by generation messages, and
nothing is ever taken out of a store.
-/

namespace ControlComponent

/-! ### Stages -/

/-- The record of a card at a stage of its way. -/
def Place.recordAt (card : Place) : (stage : Nat) → Option CardRecord
  | 0 => none
  | 1 => some (.new card.electionId card.itemId)
  | n + 2 => some ⟨card.electionId, card.itemId, true, n⟩

namespace Node

/-- What takes a card on from a stage. -/
def Activity.from : Nat → Activity
  | 0 => .decryption
  | 1 => .choice
  | _ + 2 => .voteCast

/-- A move leaves a card where it is or takes it to the next stage, if there is one. -/
theorem Move.stage {maxAttempts n : Nat} {card : Place} {done : Option Activity}
    {record record' : Option CardRecord} (move : Move maxAttempts card done record record')
    (here : record = card.recordAt n) :
    record' = record ∨
      n < maxAttempts + 2 ∧ record' = card.recordAt (n + 1) ∧ done = some (.from n) := by
  cases move with
  | rest => exact .inl rfl
  | decrypt =>
    match n with
    | 0 => exact .inr ⟨Nat.succ_pos _, rfl, rfl⟩
    | 1 | n + 2 => cases here
  | @advance record phase isOpen =>
    match n, phase with
    | 0, _ => cases here
    | 1, .choice =>
      cases here
      exact .inr ⟨by omega, rfl, rfl⟩
    | 1, .voteCast =>
      cases here
      cases isOpen.1
    | n + 2, .choice =>
      cases here
      cases (show true = false from isOpen)
    | n + 2, .voteCast =>
      cases here
      have below : n < maxAttempts := isOpen.2
      exact .inr ⟨by omega, rfl, rfl⟩

end Node

/-! ### Stores -/

namespace Store

/-- Whether every card is at a stage of its way. -/
def Staged (maxAttempts : Nat) (store : Store) : Prop :=
  ∀ card, ∃ n, n ≤ maxAttempts + 2 ∧ store.cards.get? card = card.recordAt n

/-- Whether everything is found under the names that it carries. -/
structure Keyed (store : Store) : Prop where
  counts : ∀ place r, store.counts.get? place = some r → r.place = place
  cards : ∀ place r, store.cards.get? place = some r → r.place = place
  cardKeys : ∀ place r, store.cardKeys.get? place = some r → r.place = place

theorem keyed (store : Store) : store.Keyed :=
  ⟨fun _ _ => Table.key_of_get?, fun _ _ => Table.key_of_get?, fun _ _ => Table.key_of_get?⟩

/-- Whether a later store still has everything that a store had, and the same counts. -/
structure Grows (store later : Store) : Prop where
  counts : ∀ place r, store.counts.get? place = some r → later.counts.get? place = some r
  cards : ∀ card, (store.cards.get? card).isSome → (later.cards.get? card).isSome
  cardKeys : ∀ card, (store.cardKeys.get? card).isSome → (later.cardKeys.get? card).isSome

variable {store later : Store}

theorem Grows.refl (store : Store) : store.Grows store :=
  ⟨fun _ _ => id, fun _ => id, fun _ => id⟩

theorem Grows.trans {last : Store} (first : store.Grows later) (second : later.Grows last) :
    store.Grows last where
  counts place r found := second.counts place r (first.counts place r found)
  cards card found := second.cards card (first.cards card found)
  cardKeys card found := second.cardKeys card (first.cardKeys card found)

theorem grows_putCard (store : Store) (r : CardRecord) : store.Grows (store.putCard r) := by
  refine ⟨fun _ _ => id, fun card found => ?_, fun _ => id⟩
  rw [putCard, Table.get?_put]
  split
  · rfl
  · exact found

theorem grows_putCardKey (store : Store) (key : CardKey) : store.Grows (store.putCardKey key) := by
  refine ⟨fun _ _ => id, fun _ => id, fun card found => ?_⟩
  rw [putCardKey, Table.get?_put]
  split
  · rfl
  · exact found

/-- A count that is there already is not replaced. -/
theorem grows_addCount (store : Store) (r : SelectionCount) : store.Grows (store.addCount r) := by
  refine ⟨fun place r' found => ?_, fun card found => ?_, fun card found => ?_⟩
  · unfold addCount addCount?
    split
    · exact found
    · rename_i fresh
      rw [Option.getD_some, Table.get?_put_of_ne _ ?_]
      · exact found
      · rintro rfl
        exact fresh (by rw [Table.contains, found]; rfl)
  · rwa [cards_addCount]
  · rwa [cardKeys_addCount]

end Store

namespace Node

open Store

theorem Generation.grows_register (payload : Message.Generation.Request) (store : Store) :
    store.Grows (register payload store) := by
  rw [register_eq_foldl]
  induction cardKeys payload generalizing store with
  | nil => exact .refl store
  | cons key rest ih => exact (store.grows_putCardKey key).trans (ih _)

/-! ### Messages -/

variable {suite : Suite} {settings : Settings} {x : Exchange}

/-- A message loses nothing of what is stored. -/
theorem grows_of_course (course : x.Course suite settings) :
    x.before.store.Grows x.after.store := by
  cases course with
  | refused same => exact same ▸ .refl x.before.store
  | generated request _ _ _ _ stored =>
    rw [stored]
    exact (Generation.grows_register _ _).trans (grows_addCount _ _)
  | decrypted _ _ _ _ _ _ stored =>
    rw [stored]
    exact grows_putCard _ _
  | exponentiated _ _ _ _ _ _ _ stored =>
    rw [stored]
    exact grows_putCard _ _

/-- Cards stay on their way. -/
theorem staged_of_course (course : x.Course suite settings)
    (staged : x.before.store.Staged settings.maxAttempts) :
    x.after.store.Staged settings.maxAttempts := by
  intro card
  obtain ⟨n, within, here⟩ := staged card
  obtain ⟨done, move, -⟩ := moves_of_course course card
  rcases move.stage here with same | ⟨more, next, -⟩
  · exact ⟨n, within, same.trans here⟩
  · exact ⟨n + 1, more, next⟩

/-- Whether a message takes a card on from a stage, as it asks to, and no other card. -/
structure Exchange.Advances (maxAttempts : Nat) (x : Exchange) (card : Place) (n : Nat) : Prop where
  more : n < maxAttempts + 2
  before : x.before.store.cards.get? card = card.recordAt n
  after : x.after.store.cards.get? card = card.recordAt (n + 1)
  asked : x.delivery.asks? = some (.from n, card)
  others : ∀ other, other ≠ card →
    x.after.store.cards.get? other = x.before.store.cards.get? other

/-- A message takes one card one stage on, or none. -/
theorem advances_of_course (course : x.Course suite settings)
    (staged : x.before.store.Staged settings.maxAttempts) :
    x.after.store.cards = x.before.store.cards ∨
      ∃ card n, x.Advances settings.maxAttempts card n := by
  by_cases still : ∀ card, x.after.store.cards.get? card = x.before.store.cards.get? card
  · exact .inl (Table.ext_get? still)
  · obtain ⟨card, changed⟩ := Classical.not_forall.1 still
    obtain ⟨n, -, here⟩ := staged card
    obtain ⟨done, move, asks, -⟩ := moves_of_course course card
    obtain ⟨more, next, does⟩ := (move.stage here).resolve_left changed
    refine .inr ⟨card, n, more, here, next, asks _ does, fun other elsewhere => ?_⟩
    -- If another card had moved, the message would have asked for that one.
    obtain ⟨n', -, there⟩ := staged other
    obtain ⟨done', move', asks', -⟩ := moves_of_course course other
    refine (move'.stage there).resolve_right ?_
    rintro ⟨-, -, does'⟩
    have same := (asks _ does).symm.trans (asks' _ does')
    simp only [Option.some.injEq, Prod.mk.injEq] at same
    exact elsewhere same.2.symm

/-- What a message does to a store in which every card is on its way. -/
structure Exchange.Evolves (maxAttempts : Nat) (x : Exchange) : Prop where
  grows : x.before.store.Grows x.after.store
  keyed : x.after.store.Keyed
  staged : x.after.store.Staged maxAttempts
  cards : x.after.store.cards = x.before.store.cards ∨ ∃ card n, x.Advances maxAttempts card n
  generation : x.delivery.kind = .generation → x.after.store.cards = x.before.store.cards
  voting : x.delivery.kind ≠ .generation →
    x.after.store.counts = x.before.store.counts ∧ x.after.store.cardKeys = x.before.store.cardKeys

theorem evolves_of_course (course : x.Course suite settings)
    (staged : x.before.store.Staged settings.maxAttempts) : x.Evolves settings.maxAttempts where
  grows := grows_of_course course
  keyed := x.after.store.keyed
  staged := staged_of_course course staged
  cards := advances_of_course course staged
  generation kind := by
    rcases advances_of_course course staged with same | ⟨card, n, advances⟩
    · exact same
    · have asked := advances.asked
      simp [Delivery.asks?, asked?, kind] at asked
  voting kind := by
    cases course with
    | refused same => exact ⟨congrArg Store.counts same, congrArg Store.cardKeys same⟩
    | generated _ generation => exact absurd generation kind
    | decrypted _ _ _ _ _ _ stored => exact ⟨by rw [stored]; rfl, by rw [stored]; rfl⟩
    | exponentiated _ _ _ _ _ _ _ stored => exact ⟨by rw [stored]; rfl, by rw [stored]; rfl⟩

/-! ### Runs -/

theorem grows_of_mem {state : State} {messages : List Delivery}
    (mem : x ∈ history suite settings state messages) : state.store.Grows x.after.store := by
  induction messages generalizing state with
  | nil => cases mem
  | cons d rest ih =>
    have first := grows_of_course (exchange_course suite settings d state)
    rcases List.mem_cons.1 mem with rfl | later
    · exact first
    · exact first.trans (ih later)

/-- What is stored before a message is still there after every later one. -/
theorem pairwise_grows (state : State) (messages : List Delivery) :
    (history suite settings state messages).Pairwise fun x y =>
      x.before.store.Grows y.after.store := by
  induction messages generalizing state with
  | nil => exact .nil
  | cons d rest ih =>
    refine List.pairwise_cons.2 ⟨fun y later => ?_, ih _⟩
    exact (grows_of_course (exchange_course suite settings d state)).trans (grows_of_mem later)

/-- **How a store evolves.** Whatever messages a node handles that starts with an empty store, and
whatever keys come with them: nothing is ever lost, counts stay what they are, and everything is
found under its own names. Every card is on its way from no record to as many attempts as the
settings allow, and a message takes at most one card on, by one stage, as it asks to. Generation
leaves cards alone, and everything else leaves counts and card keys alone. -/
theorem stores_evolve (suite : Suite) (settings : Settings) (randomness : Randomness)
    (messages : List Delivery) :
    let run := history suite settings (.initial .empty randomness) messages
    (∀ x ∈ run, x.Evolves settings.maxAttempts) ∧
      run.Pairwise fun x y => x.before.store.Grows y.after.store := by
  intro run
  refine ⟨fun x mem => evolves_of_course (course_of_mem mem) ?_, pairwise_grows _ _⟩
  have initially : Store.empty.Staged settings.maxAttempts := fun _ => ⟨0, Nat.zero_le _, rfl⟩
  exact holds_of_mem mem initially fun _ => staged_of_course

end Node
end ControlComponent
