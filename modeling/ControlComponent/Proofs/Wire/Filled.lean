import ControlComponent.Proofs.Outcome
import ControlComponent.Proofs.Text
import ControlComponent.Wire.Frame
import ControlComponent.Wire.Record

/-!
What is known of a record that was read.

However a record was laid out, each of its fields has a value that the codec of the field read, or
else the one that stands for the field when it is missing. So what a codec guarantees of the values
that it reads holds of the fields of records too, and of the fields of records inside records.
-/

namespace ControlComponent.Wire

/-- The value that stands for a missing field. -/
def Absence.Allows (value : α) : Absence α → Prop
  | .refused => False
  | .inMaps value' => value' = value
  | .anywhere value' => value' = value

namespace Schema

/-- Whether every field has a value that its codec read, or that stands for the missing field. -/
def Filled (e : Encoding) : Schema σ α → α → Prop
  | .done, _ => True
  | .field _ codec absence rest, (value, values) =>
    ((∃ d, codec.decode e d = .ok value) ∨ absence.Allows value) ∧ rest.Filled e values

/-- Whether every field that has a value so far has one that its codec read. -/
def Filling (e : Encoding) : Schema σ α → σ → Prop
  | .done, _ => True
  | .field _ codec _ rest, (slot, slots) =>
    (∀ value, slot = some value → ∃ d, codec.decode e d = .ok value) ∧ rest.Filling e slots

variable {e : Encoding}

/-! ### Maps -/

theorem filling_blank (s : Schema σ α) : s.Filling e s.blank := by
  induction s with
  | done => trivial
  | field name codec absence rest ih =>
    refine ⟨?_, ih⟩
    rintro value ⟨⟩

theorem Filling.put {s : Schema σ α} {key : Key} {d : Document} {slots slots' : σ}
    (filling : s.Filling e slots) (filled : s.put e key d slots = .ok slots') :
    s.Filling e slots' := by
  induction s generalizing key with
  | done => trivial
  | field name codec absence rest ih =>
    obtain ⟨slot, others⟩ := slots
    unfold Schema.put at filled
    split at filled
    · split at filled
      · cases filled
      · obtain ⟨value, decoded, rfl⟩ := map_eq_ok.1 filled
        refine ⟨?_, filling.2⟩
        rintro _ ⟨⟩
        exact ⟨d, decoded⟩
    · obtain ⟨others', behind, rfl⟩ := map_eq_ok.1 filled
      exact ⟨filling.1, ih filling.2 behind⟩

theorem Filling.putAll {s : Schema σ α} {es : List (Document × Document)} {slots slots' : σ}
    (filling : s.Filling e slots) (filled : s.putAll e es slots = .ok slots') :
    s.Filling e slots' := by
  induction es generalizing slots with
  | nil =>
    cases filled
    exact filling
  | cons entry es ih =>
    obtain ⟨key, -, filled⟩ := bind_eq_ok.1 filled
    obtain ⟨slots₁, one, later⟩ := bind_eq_ok.1 filled
    exact ih (filling.put one) later

theorem Filling.finish {s : Schema σ α} {slots : σ} {values : α} (filling : s.Filling e slots)
    (finished : s.finish slots = .ok values) : s.Filled e values := by
  induction s with
  | done => trivial
  | field name codec absence rest ih =>
    obtain ⟨slot, slots⟩ := slots
    obtain ⟨value, settled, later⟩ := bind_eq_ok.1 finished
    obtain ⟨values, rest_finished, ⟨⟩⟩ := bind_eq_ok.1 later
    refine ⟨?_, ih filling.2 rest_finished⟩
    cases slot with
    | some value' =>
      cases settled
      exact .inl (filling.1 value rfl)
    | none =>
      cases absence with
      | refused => cases settled
      | inMaps value' =>
        cases settled
        exact .inr rfl
      | anywhere value' =>
        cases settled
        exact .inr rfl

/-! ### Lists -/

theorem filled_of_ofItems {s : Schema σ α} {ds : List Document} {values : α}
    (read : s.ofItems e ds = .ok values) : s.Filled e values := by
  induction s generalizing ds with
  | done => trivial
  | field name codec absence rest ih =>
    cases ds with
    | cons d ds =>
      obtain ⟨value, decoded, later⟩ := bind_eq_ok.1 read
      obtain ⟨values, more, ⟨⟩⟩ := bind_eq_ok.1 later
      exact ⟨.inl ⟨d, decoded⟩, ih more⟩
    | nil =>
      cases absence with
      | refused => cases read
      | inMaps value => cases read
      | anywhere value =>
        obtain ⟨values, more, ⟨⟩⟩ := bind_eq_ok.1 read
        exact ⟨.inr rfl, ih more⟩

/-! ### Records -/

/-- Whichever way a record was read, its fields are filled. -/
theorem filled_of_read {s : Schema σ α} {d : Document} {values : α}
    (read : s.read e d = .ok values) : s.Filled e values := by
  unfold Schema.read at read
  split at read
  · obtain ⟨slots, filled, finished⟩ := bind_eq_ok.1 read
    exact ((filling_blank s).putAll filled).finish finished
  · exact filled_of_ofItems read
  · cases read

/-- A field that must be there was read. -/
theorem Filled.required {name : String} {codec : Codec α} {rest : Schema σ β} {value : α}
    {values : β} (filled : (Schema.required name codec rest).Filled e (value, values)) :
    (∃ d, codec.decode e d = .ok value) ∧ rest.Filled e values := by
  obtain ⟨read | ⟨⟨⟩⟩, others⟩ := filled
  exact ⟨read, others⟩

end Schema

namespace Codec

variable {e : Encoding} {d : Document}

theorem filled_of_record {s : Schema σ α} {toFields : ρ → α} {ofFields : α → ρ} {r : ρ}
    (read : (record s toFields ofFields).decode e d = .ok r) :
    ∃ values, s.Filled e values ∧ ofFields values = r := by
  obtain ⟨values, fields, ⟨⟩⟩ := bind_eq_ok.1 read
  exact ⟨values, Schema.filled_of_read fields, rfl⟩

/-- A value in a frame was read from a document. -/
theorem exists_decode_of_readFrame {c : Codec α} {frame : Bytes} {v : α}
    (read : c.readFrame frame = .ok (e, v)) : ∃ d, c.decode e d = .ok v := by
  cases frame with
  | nil => cases read
  | cons tag body =>
    simp only [readFrame] at read
    split at read
    · cases read
    · split at read
      · rename_i whole
        cases read
        obtain ⟨_, decoded, ended⟩ := bind_eq_ok.1 whole
        split at ended
        · cases ended
          exact ⟨_, decoded⟩
        · cases ended
      · cases read

/-! ### Single values -/

theorem le_of_natural {limit n : Nat} (read : (natural limit).decode e d = .ok n) : n ≤ limit := by
  simp only [natural] at read
  split at read
  · split at read
    · rename_i inside
      cases read
      omega
    · cases read
  · cases read

theorem length_of_uuid {id : Uuid} (read : uuid.decode e d = .ok id) : id.bytes.length = 16 := by
  cases e with
  | json =>
    obtain ⟨text, -, read⟩ := bind_eq_ok.1 read
    split at read
    · rename_i parsed
      cases read
      exact Uuid.length_of_parse? parsed
    · cases read
  | cbor =>
    obtain ⟨bytes, -, read⟩ := bind_eq_ok.1 read
    split at read
    · rename_i formed
      cases read
      unfold Uuid.ofBytes? at formed
      split at formed
      · rename_i sixteen
        cases formed
        exact sixteen
      · cases formed
    · cases read

end Codec
end ControlComponent.Wire
