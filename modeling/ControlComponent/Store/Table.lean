/-!
Tables: values that are found by a key which they carry themselves.

The entries of a table stand in the order of their keys, each key once, so two tables that answer
every question alike are equal and a table is listed in one way only. Its view is `get?`: putting a
value changes what is found under the value's key (`get?_put_self`) and nothing else
(`get?_put_of_ne`).
-/

namespace ControlComponent

open Std (TransOrd LawfulEqOrd)

/-- Values in the order of their keys, each key once. -/
structure Table {κ α : Type} [Ord κ] (key : α → κ) where
  entries : List α
  sorted : entries.Pairwise fun a b => compare (key a) (key b) = .lt

namespace Table

variable {κ α : Type} [Ord κ] {key : α → κ}

/-- The table without entries. -/
def empty : Table key := ⟨[], .nil⟩

/-- The value under a key. -/
def get? (t : Table key) (k : κ) : Option α := t.entries.find? fun a => compare (key a) k == .eq

/-- Whether there is a value under a key. -/
def contains (t : Table key) (k : κ) : Bool := (t.get? k).isSome

/-- The entries with a value put among them, in the place of the one with its key. -/
def putEntry (key : α → κ) (a : α) : List α → List α
  | [] => [a]
  | b :: rest =>
    match compare (key a) (key b) with
    | .lt => a :: b :: rest
    | .eq => a :: rest
    | .gt => b :: putEntry key a rest

theorem mem_putEntry {a x : α} {l : List α} (h : x ∈ putEntry key a l) : x = a ∨ x ∈ l := by
  induction l with
  | nil => simpa [putEntry] using h
  | cons b rest ih =>
    simp only [putEntry] at h
    split at h
    · simpa using h
    · rcases List.mem_cons.1 h with h | h
      · exact .inl h
      · exact .inr (List.mem_cons_of_mem _ h)
    · rcases List.mem_cons.1 h with h | h
      · exact .inr (by simp [h])
      · exact (ih h).imp_right (List.mem_cons_of_mem _)

variable [TransOrd κ]

theorem pairwise_putEntry [LawfulEqOrd κ] {a : α} {l : List α}
    (h : l.Pairwise fun a b => compare (key a) (key b) = .lt) :
    (putEntry key a l).Pairwise fun a b => compare (key a) (key b) = .lt := by
  induction l with
  | nil => simp [putEntry]
  | cons b rest ih =>
    have hb := List.pairwise_cons.1 h
    simp only [putEntry]
    split
    · rename_i hab
      refine List.pairwise_cons.2 ⟨fun x hx => ?_, h⟩
      rcases List.mem_cons.1 hx with rfl | hx
      · exact hab
      · exact Std.TransCmp.lt_trans hab (hb.1 x hx)
    · rename_i hab
      have heq : key a = key b := LawfulEqOrd.eq_of_compare hab
      exact List.pairwise_cons.2 ⟨fun x hx => heq ▸ hb.1 x hx, hb.2⟩
    · rename_i hab
      refine List.pairwise_cons.2 ⟨fun x hx => ?_, ih hb.2⟩
      rcases mem_putEntry hx with rfl | hx
      · exact Std.OrientedCmp.lt_of_gt hab
      · exact hb.1 x hx

/-- The table with a value put into it, in the place of the one under its key. -/
def put [LawfulEqOrd κ] (t : Table key) (a : α) : Table key :=
  ⟨putEntry key a t.entries, pairwise_putEntry t.sorted⟩

/-- The table of values put one after another. -/
def ofList [LawfulEqOrd κ] (values : List α) : Table key := values.foldl put empty

variable [LawfulEqOrd κ]

/-- What has been put is found. -/
@[simp] theorem get?_put_self (t : Table key) (a : α) : (t.put a).get? (key a) = some a := by
  obtain ⟨l, _⟩ := t
  simp only [put, get?]
  induction l with
  | nil => simp [putEntry]
  | cons b rest ih =>
    simp only [putEntry]
    split
    · simp
    · simp
    · rename_i hab
      have hba : compare (key b) (key a) = .lt := Std.OrientedCmp.lt_of_gt hab
      rw [List.find?_cons_of_neg (by simp [hba])]
      exact ih (List.pairwise_cons.1 ‹_›).2

/-- Nothing else is found otherwise. -/
theorem get?_put_of_ne (t : Table key) {a : α} {k : κ} (h : key a ≠ k) :
    (t.put a).get? k = t.get? k := by
  have hak : (compare (key a) k == Ordering.eq) = false := by
    simpa using h
  obtain ⟨l, hl⟩ := t
  simp only [put, get?]
  clear hl
  induction l with
  | nil => simp [putEntry, hak]
  | cons b rest ih =>
    simp only [putEntry]
    split
    · rw [List.find?_cons_of_neg (by simp [hak])]
    · rename_i hab
      have heq : key a = key b := LawfulEqOrd.eq_of_compare hab
      rw [List.find?_cons_of_neg (by simp [hak]),
        List.find?_cons_of_neg (by simpa [heq] using hak)]
    · simp only [List.find?_cons, ih]

end Table
end ControlComponent
