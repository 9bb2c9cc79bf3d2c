import ControlComponent.Proofs.Outcome
import ControlComponent.Wire.Record

/-!
Thorough codecs.

A codec is thorough if it reads only documents that were read to their end themselves. It notices
whatever is broken, also inside what it skips. Thoroughness passes from the codecs of its fields to
the codec of a record.
-/

namespace ControlComponent.Wire

/-- Nothing is read from a document that is broken anywhere. -/
def Codec.Thorough (c : Codec α) : Prop :=
  ∀ e d v, c.decode e d = .ok v → d.isIntact = true

namespace Document

@[simp] theorem isIntact_unmarked (d : Document) : d.unmarked.isIntact = d.isIntact := by
  fun_induction unmarked d with
  | case1 d ih => rw [ih, isIntact]
  | case2 => rfl

/-- What was read item by item from a list was read to its end. -/
theorem areIntact_of_mapM {α : Type} {read : Document → Except Fault α} {ds : List Document}
    {values : List α}
    (each : ∀ d v, read d = .ok v → d.isIntact = true) (all : ds.mapM read = .ok values) :
    areIntact ds = true := by
  induction ds generalizing values with
  | nil => rfl
  | cons d ds ih =>
    rw [List.mapM_cons] at all
    obtain ⟨v, first, later⟩ := bind_eq_ok.1 all
    obtain ⟨vs, more, -⟩ := bind_eq_ok.1 later
    rw [areIntact, each d v first, ih more]
    rfl

end Document

open Document

namespace Codec

/-! ### Single values -/

theorem isIntact_of_textOf {d : Document} {s : String} (read : textOf d = .ok s) :
    d.isIntact = true := by
  fun_induction textOf d with
  | case1 => rfl
  | case2 => rfl
  | case3 => cases read
  | case4 d ih => exact ih read
  | case5 => cases read

theorem thorough_text : text.Thorough := fun _ _ _ => isIntact_of_textOf

theorem thorough_flag : flag.Thorough := by
  intro e d b read
  simp only [flag] at read
  rw [← isIntact_unmarked]
  split at read
  · rename_i b same
    rw [same, isIntact]
    all_goals simp
  · cases read

theorem thorough_natural (limit : Nat) : (natural limit).Thorough := by
  intro e d n read
  simp only [natural] at read
  rw [← isIntact_unmarked]
  split at read
  · rename_i value width same
    rw [same, isIntact]
    all_goals simp
  · cases read

theorem isIntact_of_itemsOf {d : Document} {ds : List Document} (listed : itemsOf d = .ok ds) :
    d.isIntact = areIntact ds := by
  unfold itemsOf at listed
  rw [← isIntact_unmarked]
  split at listed
  · rename_i items same
    cases listed
    rw [same, isIntact]
  · cases listed

theorem thorough_decimals : decimals.Thorough := by
  intro e d ns read
  obtain ⟨items, listed, read⟩ := bind_eq_ok.1 read
  obtain ⟨texts, written, -⟩ := bind_eq_ok.1 read
  rw [isIntact_of_itemsOf listed]
  exact areIntact_of_mapM (fun _ _ => isIntact_of_textOf) written

theorem thorough_list {c : Codec α} (thorough : c.Thorough) : c.list.Thorough := by
  intro e d values read
  obtain ⟨items, listed, read⟩ := bind_eq_ok.1 read
  rw [isIntact_of_itemsOf listed]
  exact areIntact_of_mapM (thorough e) read

end Codec

/-! ### Records -/

namespace Schema

/-- A schema whose fields all have thorough codecs. -/
def Thorough : Schema σ α → Prop
  | .done => True
  | .field _ codec _ rest => codec.Thorough ∧ rest.Thorough

theorem Thorough.done : Schema.done.Thorough := trivial

theorem Thorough.required {name : String} {codec : Codec α} {rest : Schema σ β}
    (field : codec.Thorough) (fields : rest.Thorough) : (required name codec rest).Thorough :=
  ⟨field, fields⟩

theorem isIntact_of_key {d : Document} {key : Key} (read : Key.ofDocument d = .ok key) :
    d.isIntact = true := by
  fun_induction Key.ofDocument d with
  | case1 => rfl
  | case2 => rfl
  | case3 => rfl
  | case4 => cases read
  | case5 d ih => exact ih read
  | case6 => cases read

/-- An entry that was taken was read to its end, whether it fills a field or is skipped. -/
theorem Thorough.put {s : Schema σ α} (thorough : s.Thorough) {e : Encoding} {key : Key}
    {d : Document} {slots slots' : σ} (filled : s.put e key d slots = .ok slots') :
    d.isIntact = true := by
  induction s generalizing key with
  | done =>
    unfold Schema.put at filled
    split at filled
    · assumption
    · cases filled
  | field name codec absence rest ih =>
    obtain ⟨slot, others⟩ := slots
    unfold Schema.put at filled
    split at filled
    · split at filled
      · cases filled
      · obtain ⟨value, decoded, -⟩ := map_eq_ok.1 filled
        exact thorough.1 e d value decoded
    · obtain ⟨slots', behind, -⟩ := map_eq_ok.1 filled
      exact ih thorough.2 behind

theorem Thorough.putAll {s : Schema σ α} (thorough : s.Thorough) {e : Encoding}
    {es : List (Document × Document)} {slots slots' : σ}
    (filled : s.putAll e es slots = .ok slots') : areIntactEntries es = true := by
  induction es generalizing slots with
  | nil => rfl
  | cons entry es ih =>
    obtain ⟨key, named, filled⟩ := bind_eq_ok.1 filled
    obtain ⟨slots₁, one, later⟩ := bind_eq_ok.1 filled
    rw [areIntactEntries, isIntact_of_key named, thorough.put one, ih later]
    rfl

theorem Thorough.ofItems {s : Schema σ α} (thorough : s.Thorough) {e : Encoding}
    {ds : List Document} {values : α} (read : s.ofItems e ds = .ok values) :
    areIntact ds = true := by
  induction s generalizing ds with
  | done =>
    cases ds with
    | nil => rfl
    | cons d ds => cases read
  | field name codec absence rest ih =>
    cases ds with
    | nil => rfl
    | cons d ds =>
      obtain ⟨value, decoded, later⟩ := bind_eq_ok.1 read
      obtain ⟨others, more, -⟩ := bind_eq_ok.1 later
      rw [areIntact, thorough.1 e d value decoded, ih thorough.2 more]
      rfl

end Schema

namespace Codec

theorem thorough_checkedRecord {s : Schema σ α} (thorough : s.Thorough) {toFields : ρ → α}
    {ofFields : α → Except Fault ρ} : (checkedRecord s toFields ofFields).Thorough := by
  intro e d r read
  obtain ⟨values, read, -⟩ := bind_eq_ok.1 read
  unfold Schema.read at read
  rw [← isIntact_unmarked]
  split at read
  · rename_i entries same
    obtain ⟨slots, filled, -⟩ := bind_eq_ok.1 read
    rw [same, isIntact]
    exact thorough.putAll filled
  · rename_i items same
    rw [same, isIntact]
    exact thorough.ofItems read
  · cases read

theorem thorough_record {s : Schema σ α} (thorough : s.Thorough) {toFields : ρ → α}
    {ofFields : α → ρ} : (record s toFields ofFields).Thorough :=
  thorough_checkedRecord thorough

/-- What was read from bytes was read to the end of the bytes. -/
theorem Thorough.read {c : Codec α} (thorough : c.Thorough) {e : Encoding} {bytes : Bytes} {v : α}
    (done : c.read e bytes = .ok v) :
    (e.read bytes).document.isIntact = true ∧ (e.read bytes).ended = true := by
  obtain ⟨v', decoded, done⟩ := bind_eq_ok.1 done
  refine ⟨thorough e _ v' decoded, ?_⟩
  split at done
  · assumption
  · cases done

end Codec
end ControlComponent.Wire
