import ControlComponent.Proofs.Lookup
import ControlComponent.Proofs.Wire.Faithful
import ControlComponent.Proofs.Wire.Thorough
import ControlComponent.Proofs.Wire.Torn
import ControlComponent.Wire.Frame

/-!
Stored stores.

A store that is written as JSON text and read again, if it is read, is the store that was written:
the text lists every record once, and listing in order is how tables are known. Text that ends too
early is not read at all, and neither is any part of a frame.
-/

namespace ControlComponent

open Wire (Codec)

/-! ### Codecs -/

theorem SelectionCount.faithful_codec : SelectionCount.codec.Faithful :=
  Codec.faithful_record (.required Codec.faithful_text (.required Codec.faithful_text
    (.required (Codec.faithful_natural _) .done))) fun _ => rfl

theorem CardRecord.faithful_codec : CardRecord.codec.Faithful :=
  Codec.faithful_record (.required Codec.faithful_text (.required Codec.faithful_text
    (.required Codec.faithful_flag (.required (Codec.faithful_natural _) .done)))) fun _ => rfl

theorem SelectionCount.thorough_codec : SelectionCount.codec.Thorough :=
  Codec.thorough_record (.required Codec.thorough_text (.required Codec.thorough_text
    (.required (Codec.thorough_natural _) .done)))

theorem CardRecord.thorough_codec : CardRecord.codec.Thorough :=
  Codec.thorough_record (.required Codec.thorough_text (.required Codec.thorough_text
    (.required Codec.thorough_flag (.required (Codec.thorough_natural _) .done))))

theorem CardKey.thorough_codec : CardKey.codec.Thorough :=
  Codec.thorough_record (.required Codec.thorough_text (.required Codec.thorough_text
    (.required Codec.thorough_text (.required Codec.thorough_decimals .done))))

theorem CardKey.faithful_codec : CardKey.codec.Faithful :=
  Codec.faithful_record (.required Codec.faithful_text (.required Codec.faithful_text
    (.required Codec.faithful_text (.required Codec.faithful_decimals .done)))) fun _ => rfl

namespace Store

theorem Snapshot.faithful_codec : Snapshot.codec.Faithful :=
  Codec.faithful_record (.required (Codec.faithful_list SelectionCount.faithful_codec)
    (.required (Codec.faithful_list CardRecord.faithful_codec)
      (.required (Codec.faithful_list CardKey.faithful_codec) .done))) fun _ => rfl

theorem Snapshot.thorough_codec : Snapshot.codec.Thorough :=
  Codec.thorough_record (.required (Codec.thorough_list SelectionCount.thorough_codec)
    (.required (Codec.thorough_list CardRecord.thorough_codec)
      (.required (Codec.thorough_list CardKey.thorough_codec) .done)))

/-! ### Listing -/

theorem foldl_putCard (store : Store) (cards : List CardRecord) :
    cards.foldl putCard store = { store with cards := cards.foldl Table.put store.cards } := by
  induction cards generalizing store with
  | nil => rfl
  | cons r rest ih => exact ih (store.putCard r)

/-- Counts for different card sets are all added. -/
theorem foldl_addCount (store : Store) {counts : List SelectionCount}
    (sorted : (store.counts.entries ++ counts).Pairwise
      fun a b => compare a.place b.place = .lt) :
    counts.foldl addCount store =
      { store with counts := counts.foldl Table.put store.counts } := by
  induction counts generalizing store with
  | nil => rfl
  | cons r rest ih =>
    have behind : ∀ a ∈ store.counts.entries, compare a.place r.place = .lt := by
      intro a mem
      exact (List.pairwise_append.1 sorted).2.2 a mem r (by simp)
    have absent : store.counts.get? r.place = none := by
      cases found : store.counts.get? r.place with
      | none => rfl
      | some a =>
        have below := behind a (Table.mem_of_get? found)
        rw [Table.key_of_get? found] at below
        simp at below
    have added : store.addCount r = { store with counts := store.counts.put r } := by
      simp [addCount, addCount?, Table.contains, absent]
    have entries : (store.counts.put r).entries = store.counts.entries ++ [r] :=
      Table.putEntry_of_gt behind
    rw [List.foldl_cons, added, ih _ (by simpa [entries] using sorted)]
    rfl

/-- The store of the listed records of a store is the store. -/
theorem ofSnapshot_snapshot (store : Store) : ofSnapshot store.snapshot = store := by
  obtain ⟨counts, cards, cardKeys⟩ := store
  simp only [ofSnapshot, snapshot]
  rw [foldl_addCount empty (by exact counts.sorted), foldl_putCard, foldl_putCardKey]
  have counts_eq := Table.ofList_entries counts
  have cards_eq := Table.ofList_entries cards
  have cardKeys_eq := Table.ofList_entries cardKeys
  unfold Table.ofList at counts_eq cards_eq cardKeys_eq
  simp only [empty, counts_eq, cards_eq, cardKeys_eq]

/-- What a store's text is read as is the store. -/
theorem ofBytes_toBytes {store store' : Store} (read : ofBytes store.toBytes = .ok store') :
    store' = store := by
  obtain ⟨snapshot, listed, rfl⟩ := map_eq_ok.1 read
  rw [Snapshot.faithful_codec.read (e := .json) (Wire.Json.read_writePretty _) listed]
  exact ofSnapshot_snapshot store

/-! ### What is no store -/

/-- A beginning of a store's text is the store, if it is read. -/
theorem eq_of_ofBytes_prefix {store store' : Store} {p : Bytes} (begins : p <+: store.toBytes)
    (read : ofBytes p = .ok store') : store' = store := by
  by_cases whole : p = store.toBytes
  · subst whole
    exact ofBytes_toBytes read
  · obtain ⟨snapshot, listed, -⟩ := map_eq_ok.1 read
    obtain ⟨intact, ended⟩ := Snapshot.thorough_codec.read listed
    have torn : (Wire.Json.read p).document.isIntact = false :=
      Wire.Json.not_intact_of_torn begins whole ended
    cases torn.symm.trans intact

/-- No beginning of a frame is a store. -/
theorem ofBytes_frame_ne_ok {e : Wire.Encoding} {body p : Bytes} (begins : p <+: e.tag :: body)
    (store : Store) : ofBytes p ≠ .ok store := by
  intro read
  obtain ⟨snapshot, listed, -⟩ := map_eq_ok.1 read
  obtain ⟨intact, -⟩ := Snapshot.thorough_codec.read listed
  rcases List.prefix_cons_iff.1 begins with rfl | ⟨q, rfl, -⟩
  · exact absurd intact (by decide)
  · cases e <;> cases intact

end Store
end ControlComponent
