import ControlComponent.Proofs.Course

/-!
Where the keys of cards and the numbers of selections come from.

Generation stores both for the card set that its request names, and nothing else touches them. So
whatever a node knows of a card or a card set was brought by an earlier generation request, for a
card set that the node had keys for.
-/

namespace ControlComponent

/-- A count that is found after one has been added was there before or is the added one. -/
theorem Store.get?_counts_addCount {store : Store} {r r' : SelectionCount} {place : Place}
    (found : (store.addCount r).counts.get? place = some r') :
    r' = r ∨ store.counts.get? place = some r' := by
  rw [get?_addCount, Option.or_eq_some_iff] at found
  rcases found with before | ⟨-, added⟩
  · exact .inr before
  · split at added
    · cases added
      exact .inl rfl
    · cases added

namespace Node

/-! ### What generation stores -/

namespace Generation

/-- The public keys that a request brings, each for its card and the card set of the request. -/
def cardKeys (payload : Message.Generation.Request) : List CardKey :=
  payload.inputs.map fun input =>
    ⟨payload.electionId, payload.setId, input.cardId, input.cardPublicKey⟩

theorem register_eq_foldl (payload : Message.Generation.Request) (store : Store) :
    register payload store = (cardKeys payload).foldl Store.putCardKey store := by
  rw [register, cardKeys, List.foldl_map]

theorem counts_register (payload : Message.Generation.Request) (store : Store) :
    (register payload store).counts = store.counts := by
  rw [register_eq_foldl, Store.foldl_putCardKey]

/-- A key that is found after keys have been put was there before or is one of them. -/
theorem get?_cardKeys_foldl {store : Store} {keys : List CardKey} {place : Place} {key : CardKey}
    (found : (keys.foldl Store.putCardKey store).cardKeys.get? place = some key) :
    key ∈ keys ∨ store.cardKeys.get? place = some key := by
  rw [Store.foldl_putCardKey, Table.get?_foldl_put, Option.or_eq_some_iff] at found
  rcases found with brought | ⟨-, before⟩
  · exact .inl (List.mem_reverse.1 (List.mem_of_find?_eq_some brought))
  · exact .inr before

end Generation

/-! ### Messages -/

variable {suite : Suite} {settings : Settings}

/-- A generation message that brings this, for a card set that the node has keys for in the same
group. -/
structure Exchange.Registers (x : Exchange) (payload : Message.Generation.Request) : Prop where
  kind : x.delivery.kind = .generation
  read : ∃ encoding request,
    Message.Generation.requestCodec.readFrame x.delivery.frame = .ok (encoding, request) ∧
      request.payload.payload = payload
  unlocked : ∃ secret,
    x.delivery.keys.generationKey payload.electionId payload.setId = .ok secret ∧
      secret.group = payload.group

/-- What a node knows of cards and card sets after a message it knew before, or a generation message
has brought it. -/
structure Learns (x : Exchange) : Prop where
  cardKeys : ∀ place key, x.after.store.cardKeys.get? place = some key →
    x.before.store.cardKeys.get? place = some key ∨
      ∃ payload, x.Registers payload ∧ key ∈ Generation.cardKeys payload
  counts : ∀ place r, x.after.store.counts.get? place = some r →
    x.before.store.counts.get? place = some r ∨
      ∃ payload, x.Registers payload ∧ r = Generation.count payload

theorem learns_of_same {x : Exchange} (cardKeys : x.after.store.cardKeys = x.before.store.cardKeys)
    (counts : x.after.store.counts = x.before.store.counts) : Learns x :=
  ⟨fun _ _ found => .inl (cardKeys ▸ found), fun _ _ found => .inl (counts ▸ found)⟩

theorem learns_of_course {x : Exchange} (course : x.Course suite settings) : Learns x := by
  cases course with
  | refused same =>
    exact learns_of_same (congrArg Store.cardKeys same) (congrArg Store.counts same)
  | decrypted _ _ _ _ _ _ stored =>
    exact learns_of_same (by rw [stored]; rfl) (by rw [stored]; rfl)
  | exponentiated _ _ _ _ _ _ _ stored =>
    exact learns_of_same (by rw [stored]; rfl) (by rw [stored]; rfl)
  | generated request kind read authorized _ stored =>
    obtain ⟨unlocked, group, -⟩ := Generation.authorize_ok authorized
    have registers : x.Registers request.payload.payload :=
      ⟨kind, ⟨_, request, read, rfl⟩, _, unlocked, group⟩
    constructor
    · intro place key found
      rw [stored, Store.cardKeys_addCount, Generation.register_eq_foldl] at found
      rcases Generation.get?_cardKeys_foldl found with brought | before
      · exact .inr ⟨_, registers, brought⟩
      · exact .inl before
    · intro place r found
      rw [stored] at found
      rcases Store.get?_counts_addCount found with added | before
      · exact .inr ⟨_, registers, added⟩
      · rw [Generation.counts_register] at before
        exact .inl before

/-! ### Runs -/

section Runs

variable {state : State} {messages : List Delivery} {pre post : List Exchange} {x : Exchange}

/-- A card's key that is found by some time and was not there in the beginning was brought before.
-/
theorem exists_registers_key {place : Place} {key : CardKey}
    (split : history suite settings state messages = pre ++ x :: post)
    (initially : state.store.cardKeys.get? place = none)
    (found : x.before.store.cardKeys.get? place = some key) :
    ∃ y ∈ pre, ∃ payload, y.Registers payload ∧ key ∈ Generation.cardKeys payload := by
  obtain ⟨y, mem, course, absent, present⟩ := exists_course
    (P := fun store => store.cardKeys.get? place = some key) split (by simp [initially]) found
  exact ⟨y, mem, ((learns_of_course course).cardKeys place key present).resolve_left absent⟩

/-- A count that is found by some time and was not there in the beginning was brought before. -/
theorem exists_registers_count {place : Place} {r : SelectionCount}
    (split : history suite settings state messages = pre ++ x :: post)
    (initially : state.store.counts.get? place = none)
    (found : x.before.store.counts.get? place = some r) :
    ∃ y ∈ pre, ∃ payload, y.Registers payload ∧ r = Generation.count payload := by
  obtain ⟨y, mem, course, absent, present⟩ := exists_course
    (P := fun store => store.counts.get? place = some r) split (by simp [initially]) found
  exact ⟨y, mem, ((learns_of_course course).counts place r present).resolve_left absent⟩

end Runs

end Node
end ControlComponent
