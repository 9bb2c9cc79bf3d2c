/-!
Taking apart computations that may fail.
-/

namespace ControlComponent

variable {ε ε' α β : Type}

theorem ok_bind (a : α) (f : α → Except ε β) : (Except.ok a >>= f) = f a := rfl

/-- What comes of two computations one after the other comes of both. -/
theorem bind_eq_ok {x : Except ε α} {f : α → Except ε β} {b : β} :
    (x >>= f) = .ok b ↔ ∃ a, x = .ok a ∧ f a = .ok b := by
  cases x with
  | error e => exact ⟨nofun, nofun⟩
  | ok a =>
    constructor
    · intro done
      exact ⟨a, rfl, done⟩
    · rintro ⟨_, same, done⟩
      cases same
      exact done

theorem map_eq_ok {x : Except ε α} {f : α → β} {b : β} :
    x.map f = .ok b ↔ ∃ a, x = .ok a ∧ f a = b := by
  cases x with
  | error e => exact ⟨nofun, nofun⟩
  | ok a => simp [Except.map]

theorem map_eq_error {x : Except ε α} {f : α → β} {e : ε} :
    x.map f = .error e ↔ x = .error e := by
  cases x <;> simp [Except.map]

theorem mapError_eq_ok {x : Except ε α} {f : ε → ε'} {a : α} :
    x.mapError f = .ok a ↔ x = .ok a := by
  cases x with
  | error e => exact ⟨nofun, nofun⟩
  | ok a' =>
    constructor
    · intro same
      cases same
      rfl
    · intro same
      cases same
      rfl

theorem toOption_eq_some {x : Except ε α} {a : α} : x.toOption = some a ↔ x = .ok a := by
  cases x <;> simp [Except.toOption]

theorem exists_eq_ok {x : Except ε α} (ok : x.isOk = true) : ∃ a, x = .ok a := by
  cases x with
  | error e => cases ok
  | ok a => exact ⟨a, rfl⟩

/-- Reading every item of a list of written values gives the values back. -/
theorem mapM_map_ok {write : α → β} {read : β → Except ε α} {values : List α}
    (each : ∀ a ∈ values, read (write a) = .ok a) :
    (values.map write).mapM read = .ok values := by
  induction values with
  | nil => rfl
  | cons a rest ih =>
    rw [List.map_cons, List.mapM_cons, each a (List.mem_cons_self ..),
      ih fun b mem => each b (List.mem_cons_of_mem a mem)]
    rfl

/-- Reading every item of a list of written values gives the values, if it gives any. -/
theorem mapM_map_eq {write : α → β} {read : β → Except ε α} {values values' : List α}
    (each : ∀ a ∈ values, ∀ a', read (write a) = .ok a' → a' = a)
    (all : (values.map write).mapM read = .ok values') : values' = values := by
  induction values generalizing values' with
  | nil =>
    cases all
    rfl
  | cons a rest ih =>
    rw [List.map_cons, List.mapM_cons] at all
    obtain ⟨a', first, later⟩ := bind_eq_ok.1 all
    obtain ⟨rest', more, ⟨⟩⟩ := bind_eq_ok.1 later
    rw [each a (by simp) a' first, ih (fun b mem => each b (List.mem_cons_of_mem _ mem)) more]

/-- If every item is read as what is made of it, as long as the item is as it should be, then so is
a list of items. -/
theorem mapM_eq_ok {read : α → Except ε β} {P : α → Prop} {make : α → β}
    (each : ∀ a b, read a = .ok b ↔ P a ∧ b = make a) {values : List α} {made : List β} :
    values.mapM read = .ok made ↔ (∀ a ∈ values, P a) ∧ made = values.map make := by
  induction values generalizing made with
  | nil =>
    constructor
    · intro same
      cases same
      exact ⟨fun _ mem => absurd mem List.not_mem_nil, rfl⟩
    · rintro ⟨-, rfl⟩
      rfl
  | cons a rest ih =>
    rw [List.mapM_cons, bind_eq_ok, List.forall_mem_cons]
    constructor
    · rintro ⟨b, first, later⟩
      obtain ⟨others, all, ⟨⟩⟩ := bind_eq_ok.1 later
      obtain ⟨good, rfl⟩ := ih.1 all
      obtain ⟨good', rfl⟩ := (each a b).1 first
      exact ⟨⟨good', good⟩, rfl⟩
    · rintro ⟨⟨good', good⟩, rfl⟩
      exact ⟨make a, (each a _).2 ⟨good', rfl⟩, bind_eq_ok.2 ⟨_, ih.2 ⟨good, rfl⟩, rfl⟩⟩

end ControlComponent
