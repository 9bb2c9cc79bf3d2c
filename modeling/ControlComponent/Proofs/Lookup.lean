import ControlComponent.Store.Basic

/-!
Looking things up in tables and in the store.

A value is found under its own key only. Together with what a table says of `put`, and with what
each change of the store does to its three tables, this is all that reasoning about a node needs of
them.
-/

namespace ControlComponent

open Std (TransOrd LawfulEqOrd)

namespace Table

variable {κ α : Type} [Ord κ] {key : α → κ}

theorem mem_of_get? {t : Table key} {k : κ} {a : α} (found : t.get? k = some a) :
    a ∈ t.entries :=
  List.mem_of_find?_eq_some found

theorem ext_entries {t t' : Table key} (same : t.entries = t'.entries) : t = t' := by
  cases t
  cases t'
  congr

/-- What comes behind everything else is put at the end. -/
theorem putEntry_of_gt [TransOrd κ] {a : α} {l : List α}
    (behind : ∀ b ∈ l, compare (key b) (key a) = .lt) : putEntry key a l = l ++ [a] := by
  induction l with
  | nil => rfl
  | cons b rest ih =>
    have greater : compare (key a) (key b) = .gt :=
      Std.OrientedCmp.gt_of_lt (behind b (by simp))
    rw [putEntry, greater, ih fun c mem => behind c (List.mem_cons_of_mem _ mem)]
    rfl

variable [LawfulEqOrd κ]

/-- What is found under a key carries it. -/
theorem key_of_get? {t : Table key} {k : κ} {a : α} (found : t.get? k = some a) : key a = k := by
  have same := List.find?_some found
  exact LawfulEqOrd.eq_of_compare (by simpa using same)

/-- What is found after a value has been put. -/
theorem get?_put [TransOrd κ] (t : Table key) (a : α) (k : κ) [Decidable (key a = k)] :
    (t.put a).get? k = if key a = k then some a else t.get? k := by
  split
  · rename_i same
    rw [← same, get?_put_self]
  · exact get?_put_of_ne t ‹_›

section Several

variable [TransOrd κ] [DecidableEq κ]

/-- Of values put one after another, the last under a key is found. -/
theorem get?_foldl_put (t : Table key) (values : List α) (k : κ) :
    (values.foldl put t).get? k = (values.reverse.find? (key · = k)).or (t.get? k) := by
  induction values generalizing t with
  | nil => simp
  | cons a rest ih =>
    rw [List.foldl_cons, ih, get?_put, List.reverse_cons, List.find?_append, Option.or_assoc]
    congr 1
    by_cases same : key a = k
    · simp [same]
    · simp [same]

end Several

/-! ### Listing -/

/-- Every entry is found under its key. -/
theorem get?_of_mem [TransOrd κ] {t : Table key} {a : α} (mem : a ∈ t.entries) :
    t.get? (key a) = some a := by
  obtain ⟨l, sorted⟩ := t
  simp only [get?]
  induction l with
  | nil => cases mem
  | cons b rest ih =>
    obtain ⟨first, sorted⟩ := List.pairwise_cons.1 sorted
    rcases List.mem_cons.1 mem with rfl | mem
    · rw [List.find?_cons_of_pos (by simp)]
    · have different : compare (key b) (key a) = .lt := first a mem
      rw [List.find?_cons_of_neg (by simp [different])]
      exact ih sorted mem

theorem mem_entries_iff [TransOrd κ] {t : Table key} {a : α} :
    a ∈ t.entries ↔ t.get? (key a) = some a :=
  ⟨get?_of_mem, mem_of_get?⟩

/-- Tables in which the same is found are the same. -/
theorem ext_get? [TransOrd κ] {t t' : Table key} (same : ∀ k, t.get? k = t'.get? k) : t = t' := by
  have nodup : ∀ t : Table key, t.entries.Nodup := by
    intro t
    refine t.sorted.imp ?_
    rintro a _ less rfl
    simp at less
  have members : t.entries.Perm t'.entries :=
    (List.perm_ext_iff_of_nodup (nodup t) (nodup t')).2 fun a => by
      rw [mem_entries_iff, mem_entries_iff, same]
  refine ext_entries (members.eq_of_pairwise ?_ t.sorted t'.sorted)
  intro a b _ _ less greater
  cases (Std.OrientedCmp.gt_of_lt less).symm.trans greater

/-- Values that have been put can be put again. -/
theorem foldl_put_foldl_put [TransOrd κ] (t : Table key) (values : List α) :
    values.foldl put (values.foldl put t) = values.foldl put t := by
  classical
  refine ext_get? fun k => ?_
  rw [get?_foldl_put, get?_foldl_put, ← Option.or_assoc, Option.or_self]

/-- Values under different keys can be put in either order. -/
theorem put_comm [TransOrd κ] (t : Table key) {a b : α} (different : key a ≠ key b) :
    (t.put a).put b = (t.put b).put a := by
  classical
  refine ext_get? fun k => ?_
  rw [get?_put, get?_put, get?_put, get?_put]
  by_cases first : key a = k
  · have second : key b ≠ k := fun second => different (first.trans second.symm)
    simp only [first, second, if_true, if_false]
  · simp only [first, if_false]

theorem entries_foldl_put [TransOrd κ] (t : Table key) {l : List α}
    (sorted : (t.entries ++ l).Pairwise fun a b => compare (key a) (key b) = .lt) :
    (l.foldl put t).entries = t.entries ++ l := by
  induction l generalizing t with
  | nil => simp
  | cons a rest ih =>
    have behind : ∀ b ∈ t.entries, compare (key b) (key a) = .lt := by
      intro b mem
      exact (List.pairwise_append.1 sorted).2.2 b mem a (by simp)
    have put_entries : (t.put a).entries = t.entries ++ [a] := putEntry_of_gt behind
    rw [List.foldl_cons, ih (t.put a) (by simpa [put_entries] using sorted), put_entries]
    simp

/-- A table made of the entries of a table is that table. -/
theorem ofList_entries [TransOrd κ] (t : Table key) : ofList t.entries = t :=
  ext_entries (entries_foldl_put empty t.sorted)

end Table

/-! ### Changes of the store -/

namespace Store

theorem cards_addCount (store : Store) (r : SelectionCount) :
    (store.addCount r).cards = store.cards := by
  unfold addCount addCount?
  split <;> rfl

theorem cardKeys_addCount (store : Store) (r : SelectionCount) :
    (store.addCount r).cardKeys = store.cardKeys := by
  unfold addCount addCount?
  split <;> rfl

/-- A card's first record is put where there is none. -/
theorem addCard?_eq_some {store store' : Store} {r : CardRecord} :
    store.addCard? r = some store' ↔
      store.cards.get? r.place = none ∧ store' = store.putCard r := by
  unfold addCard? Table.contains
  cases store.cards.get? r.place with
  | none => simp [putCard, eq_comm]
  | some _ => simp

/-- A store is its three tables. -/
theorem eq_of_tables {store store' : Store} (counts : store.counts = store'.counts)
    (cards : store.cards = store'.cards) (cardKeys : store.cardKeys = store'.cardKeys) :
    store = store' := by
  cases store
  cases store'
  cases counts
  cases cards
  cases cardKeys
  rfl

theorem card_eq_ok {store : Store} {electionId cardId : String} {r : CardRecord} :
    store.card electionId cardId = .ok r ↔ store.cards.get? ⟨electionId, cardId⟩ = some r := by
  unfold card
  split <;> simp_all

theorem cardKey_eq_ok {store : Store} {electionId cardId : String} {r : CardKey} :
    store.cardKey electionId cardId = .ok r ↔
      store.cardKeys.get? ⟨electionId, cardId⟩ = some r := by
  unfold cardKey
  split <;> simp_all

theorem selections_eq_ok {store : Store} {electionId setId : String} {n : Nat} :
    store.selections electionId setId = .ok n ↔
      ∃ r, store.counts.get? ⟨electionId, setId⟩ = some r ∧ r.selections = n := by
  unfold selections
  split <;> simp_all

/-- A count is found where it has been added, unless there was one before. -/
theorem get?_addCount (store : Store) (r : SelectionCount) (place : Place) :
    (store.addCount r).counts.get? place =
      (store.counts.get? place).or (if place = r.place then some r else none) := by
  unfold addCount addCount? Table.contains
  cases known : store.counts.get? r.place with
  | some r' =>
    by_cases same : place = r.place
    · simp [same, known]
    · simp [same]
  | none =>
    by_cases same : place = r.place
    · simp [same, known]
    · simp [same, Table.get?_put_of_ne _ (Ne.symm same)]

/-- The keys of cards are put one after another. -/
theorem foldl_putCardKey (store : Store) (keys : List CardKey) :
    keys.foldl putCardKey store =
      { store with cardKeys := keys.foldl Table.put store.cardKeys } := by
  induction keys generalizing store with
  | nil => rfl
  | cons r rest ih => exact ih (store.putCardKey r)

end Store
end ControlComponent
