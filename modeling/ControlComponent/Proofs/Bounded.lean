import ControlComponent.Proofs.Authentic
import ControlComponent.Proofs.Ration
import ControlComponent.Proofs.Registered
import ControlComponent.Proofs.Snapshot

/-!
The numbers that a store holds.

Numbers of selections have 64 bits, because they have been read from requests, and the attempts that
a record counts never exceed the limit on them. So numbers of both sorts fit the fields that they
are written in, and a store that is written is always read again.
-/

namespace ControlComponent

/-- Whether the numbers that a store holds are within their bounds: selections are counted in 64
bits, and attempts up to a limit. -/
structure Store.Bounded (limit : Nat) (store : Store) : Prop where
  counts : ∀ place r, store.counts.get? place = some r → r.selections < 2 ^ 64
  attempts : ∀ card record, store.cards.get? card = some record → record.attempts ≤ limit

theorem Store.bounded_empty (limit : Nat) : Store.empty.Bounded limit := by
  constructor
  · rintro place r ⟨⟩
  · rintro card record ⟨⟩

namespace Node

variable {suite : Suite} {settings : Settings} {limit : Nat}

/-- What a generation message registers was read, so its number of selections has 64 bits. -/
theorem Exchange.Registers.selections_lt {x : Exchange} {payload : Message.Generation.Request}
    (registers : x.Registers payload) : payload.correctness.selections < 2 ^ 64 := by
  obtain ⟨encoding, request, read, rfl⟩ := registers.read
  obtain ⟨_, decoded⟩ := Wire.Codec.exists_decode_of_readFrame read
  obtain ⟨-, _, signed⟩ := Message.Generation.length_of_envelope decoded
  obtain ⟨_, decoded⟩ := Signed.exists_decode signed
  exact Message.Generation.selections_lt decoded

/-- No message takes the numbers of the store out of their bounds. -/
theorem bounded_of_course (enough : settings.maxAttempts ≤ limit) {x : Exchange}
    (course : x.Course suite settings) (bounded : x.before.store.Bounded limit) :
    x.after.store.Bounded limit := by
  constructor
  · intro place r found
    rcases (learns_of_course course).counts place r found with before | ⟨payload, registers, rfl⟩
    · exact bounded.counts place r before
    · exact registers.selections_lt
  · intro card record found
    obtain ⟨done, move, -⟩ := moves_of_course course card
    generalize before : x.before.store.cards.get? card = record' at move
    rw [found] at move
    cases move with
    | rest => exact bounded.attempts card record before
    | decrypt => exact Nat.zero_le _
    | @advance earlier phase isOpen =>
      cases phase with
      | choice => exact bounded.attempts card earlier before
      | voteCast => exact Nat.le_trans isOpen.2 enough

/-- The numbers of the store are within their bounds throughout a run. -/
theorem bounded_of_mem (enough : settings.maxAttempts ≤ limit) {state : State}
    {messages : List Delivery} {x : Exchange} (mem : x ∈ history suite settings state messages)
    (initially : state.store.Bounded limit) : x.before.store.Bounded limit :=
  holds_of_mem mem initially fun _ => bounded_of_course enough

end Node

/-! ### Stored stores -/

theorem SelectionCount.keeps_codec {nesting : Nat} {r : SelectionCount}
    (small : r.selections < 2 ^ 64) : codec.Keeps (nesting + 1) r :=
  Wire.Codec.keeps_record (by decide)
    ⟨Wire.Codec.keeps_text _, Wire.Codec.keeps_text _,
      Wire.Codec.keeps_natural (Nat.le_pred_of_lt small) (by decide), trivial⟩ rfl

theorem CardRecord.keeps_codec {nesting : Nat} {r : CardRecord} (small : r.attempts < 2 ^ 32) :
    codec.Keeps (nesting + 1) r :=
  Wire.Codec.keeps_record (by decide)
    ⟨Wire.Codec.keeps_text _, Wire.Codec.keeps_text _, Wire.Codec.keeps_flag _,
      Wire.Codec.keeps_natural (Nat.le_pred_of_lt small) (by decide), trivial⟩ rfl

theorem CardKey.keeps_codec {nesting : Nat} (r : CardKey) : codec.Keeps (nesting + 2) r :=
  Wire.Codec.keeps_record (by decide)
    ⟨Wire.Codec.keeps_text _, Wire.Codec.keeps_text _, Wire.Codec.keeps_text _,
      Wire.Codec.keeps_decimals _, trivial⟩ rfl

namespace Store

/-- Everything that a store lists comes back if its numbers fit their fields. -/
theorem Bounded.keeps_snapshot {nesting limit : Nat} {store : Store} (small : limit < 2 ^ 32)
    (bounded : store.Bounded limit) : Snapshot.codec.Keeps (nesting + 4) store.snapshot := by
  refine Wire.Codec.keeps_record (by decide)
    ⟨Wire.Codec.keeps_list ?_, Wire.Codec.keeps_list ?_,
      Wire.Codec.keeps_list fun key _ => key.keeps_codec, trivial⟩ rfl
  · intro r mem
    exact SelectionCount.keeps_codec (bounded.counts r.place r (Table.get?_of_mem mem))
  · intro r mem
    have attempts := bounded.attempts r.place r (Table.get?_of_mem mem)
    exact CardRecord.keeps_codec (Nat.lt_of_le_of_lt attempts small)

/-- A store that is written as JSON text is read again from the text. -/
theorem Bounded.ofBytes_toBytes {limit : Nat} {store : Store} (small : limit < 2 ^ 32)
    (bounded : store.Bounded limit) : ofBytes store.toBytes = .ok store := by
  have kept : Snapshot.codec.Keeps 4 store.snapshot := bounded.keeps_snapshot small
  have read : Snapshot.codec.read .json store.toBytes = .ok store.snapshot :=
    Wire.Codec.read_of_reading
      (Wire.Json.read_writePretty (Snapshot.codec.encode .json store.snapshot)) (kept.decoded .json)
  rw [ofBytes, read]
  exact congrArg Except.ok (ofSnapshot_snapshot store)

end Store
end ControlComponent
