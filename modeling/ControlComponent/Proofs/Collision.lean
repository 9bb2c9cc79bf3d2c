import ControlComponent.HashTree
import ControlComponent.Proofs.Text

/-!
What it takes for two values to have the same digest.

The digest of a value is the hash of a byte string that begins with the kind of the value. What
follows is the value itself, or for a list the digests of the items, which all have the same length
and so can be taken apart again. If two values have the same digest, then either the same string was
hashed for both, and they agree as far as that string tells, or the hash function has given one
digest to two strings. Going down two lists item by item, the values turn out to be the same, or two
such strings are found among those that were hashed.
-/

namespace ControlComponent.HashTree

variable {h : Bytes → Bytes} {s t : HashTree}

/-! ### What is hashed -/

mutual

/-- All that is hashed for the digest of a value, in that order: what is hashed for the items of a
list, and then the input of the value itself. -/
def hashed (h : Bytes → Bytes) : HashTree → List Bytes
  | .bytes b => [input h (.bytes b)]
  | .integer n => [input h (.integer n)]
  | .text s => [input h (.text s)]
  | .list items => hashedAll h items ++ [input h (.list items)]

/-- All that is hashed for values one after another. -/
def hashedAll (h : Bytes → Bytes) : List HashTree → List Bytes
  | [] => []
  | item :: items => hashed h item ++ hashedAll h items

end

theorem mem_hashedAll {items : List HashTree} {a : Bytes} :
    a ∈ hashedAll h items ↔ ∃ item ∈ items, a ∈ hashed h item := by
  induction items with
  | nil => simp [hashedAll]
  | cons item items ih => simp [hashedAll, ih]

theorem input_mem_hashed (h : Bytes → Bytes) (t : HashTree) : input h t ∈ hashed h t := by
  cases t <;> simp [hashed]

theorem mem_hashed_list {items : List HashTree} {item : HashTree} {a : Bytes}
    (mem : item ∈ items) (hashes : a ∈ hashed h item) : a ∈ hashed h (.list items) := by
  rw [hashed]
  exact List.mem_append_left _ (mem_hashedAll.2 ⟨item, mem, hashes⟩)

theorem digests_congr {h' : Bytes → Bytes} {items : List HashTree}
    (agree : ∀ item ∈ items, ∀ a ∈ hashed h item, h' a = h a)
    (inputs : ∀ item ∈ items, input h' item = input h item) :
    digests h' items = digests h items := by
  induction items with
  | nil => rfl
  | cons item items ih =>
    rw [List.forall_mem_cons] at agree inputs
    rw [digests, digests, inputs.1, agree.1 _ (input_mem_hashed h item), ih agree.2 inputs.2]

/-- Nothing else is hashed: a hash function that gives the same digests of these strings gives the
same digest of the value. -/
theorem digestWith_congr {h' : Bytes → Bytes} (t : HashTree)
    (agree : ∀ a ∈ hashed h t, h' a = h a) : digestWith h' t = digestWith h t := by
  have inputs : input h' t = input h t := by
    induction t with
    | bytes b | integer n | text s => rfl
    | list items ih =>
      have within : ∀ item ∈ items, ∀ a ∈ hashed h item, h' a = h a :=
        fun item mem a hashes => agree a (mem_hashed_list mem hashes)
      rw [input, input, digests_congr within fun item mem => ih item mem (within item mem)]
  rw [digestWith, digestWith, inputs]
  exact agree _ (input_mem_hashed h t)

/-! ### Collisions -/

/-- Whether two different strings, one hashed for each of two values, have the same digest. -/
def Clash (h : Bytes → Bytes) (s t : HashTree) : Prop :=
  ∃ a ∈ hashed h s, ∃ b ∈ hashed h t, a ≠ b ∧ h a = h b

/-- A clash between items is one between the lists. -/
theorem Clash.list {items items' : List HashTree} {item item' : HashTree}
    (clash : Clash h item item') (mem : item ∈ items) (mem' : item' ∈ items') :
    Clash h (.list items) (.list items') := by
  obtain ⟨a, hashes, b, hashes', different, same⟩ := clash
  exact ⟨a, mem_hashed_list mem hashes, b, mem_hashed_list mem' hashes', different, same⟩

/-- Whether all digests have one length, which is not zero. -/
structure Uniform (h : Bytes → Bytes) (size : Nat) : Prop where
  positive : 0 < size
  length : ∀ message, (h message).length = size

theorem uniform_sha256 : Uniform Hash.Sha256.digest Hash.Sha256.digestSize :=
  ⟨by decide, Hash.Sha256.length_digest⟩

/-- What is hashed for a value determines it, up to what the digests of its items leave open. -/
theorem eq_or_lists_of_input_eq (same : input h s = input h t) :
    s = t ∨ ∃ items items', s = .list items ∧ t = .list items' ∧
      digests h items = digests h items' := by
  cases s <;> cases t <;> simp only [input, List.cons.injEq] at same
  case bytes.bytes => exact .inl (congrArg _ same.2)
  case integer.integer => exact .inl (congrArg _ (Bytes.ofNat_inj.1 same.2))
  case text.text => exact .inl (congrArg _ (Bytes.ofText_inj.1 same.2))
  case list.list => exact .inr ⟨_, _, rfl, rfl, same.2⟩
  -- Two kinds: the inputs differ in their first byte.
  all_goals exact absurd same.1 (by decide)

/-- Two values with the same digest are the same, or they clash, or they are lists whose items have
the same digests. -/
theorem eq_or_clash_or_lists (same : digestWith h s = digestWith h t) :
    s = t ∨ Clash h s t ∨ ∃ items items', s = .list items ∧ t = .list items' ∧
      digests h items = digests h items' := by
  by_cases inputs : input h s = input h t
  · rcases eq_or_lists_of_input_eq inputs with equal | lists
    · exact .inl equal
    · exact .inr (.inr lists)
  · exact .inr (.inl ⟨_, input_mem_hashed h s, _, input_mem_hashed h t, inputs, same⟩)

/-- Digests of one length that stand one after another can be taken apart. -/
theorem digests_cons_inj {size : Nat} (uniform : Uniform h size) {items items' : List HashTree}
    (same : digests h (s :: items) = digests h (t :: items')) :
    digestWith h s = digestWith h t ∧ digests h items = digests h items' := by
  rw [digests, digests] at same
  exact List.append_inj same ((uniform.length _).trans (uniform.length _).symm)

theorem digests_cons_ne_nil {size : Nat} (uniform : Uniform h size) (items : List HashTree) :
    digests h (t :: items) ≠ [] := by
  intro empty
  have length := congrArg List.length empty
  rw [digests, List.length_append, uniform.length, List.length_nil] at length
  have positive := uniform.positive
  omega

/-- If the items of two lists have the same digests, the lists are the same, or two of the items
clash, provided that items with the same digest are the same or clash. -/
theorem eq_or_clash_of_digests_eq {size : Nat} (uniform : Uniform h size)
    {items items' : List HashTree}
    (each : ∀ item ∈ items, ∀ t, digestWith h item = digestWith h t → item = t ∨ Clash h item t)
    (same : digests h items = digests h items') :
    items = items' ∨ ∃ item ∈ items, ∃ item' ∈ items', Clash h item item' := by
  induction items generalizing items' with
  | nil =>
    cases items' with
    | nil => exact .inl rfl
    | cons t items' => exact absurd same.symm (digests_cons_ne_nil uniform items')
  | cons s items ih =>
    cases items' with
    | nil => exact absurd same (digests_cons_ne_nil uniform items)
    | cons t items' =>
      obtain ⟨first, rest⟩ := digests_cons_inj uniform same
      rw [List.forall_mem_cons] at each
      rcases each.1 t first with rfl | clash
      · rcases ih each.2 rest with rfl | ⟨item, mem, item', mem', clash⟩
        · exact .inl rfl
        · exact .inr ⟨item, List.mem_cons_of_mem _ mem, item', List.mem_cons_of_mem _ mem', clash⟩
      · exact .inr ⟨s, List.mem_cons_self .., t, List.mem_cons_self .., clash⟩

/-- Under a hash function whose digests all have one length, two values with the same digest are
the same, or they clash. -/
theorem eq_or_clash {size : Nat} (uniform : Uniform h size) (s t : HashTree)
    (same : digestWith h s = digestWith h t) : s = t ∨ Clash h s t := by
  -- On the first value. Where it is a list and there is no clash yet, the second one is a list too.
  induction s generalizing t with
  | bytes b | integer n | text s =>
    rcases eq_or_clash_or_lists same with equal | clash | ⟨_, _, ⟨⟩, -⟩
    · exact .inl equal
    · exact .inr clash
  | list items ih =>
    rcases eq_or_clash_or_lists same with equal | clash | ⟨_, items', ⟨⟩, rfl, digests⟩
    · exact .inl equal
    · exact .inr clash
    · rcases eq_or_clash_of_digests_eq uniform ih digests with rfl | ⟨item, mem, item', mem', clash⟩
      · exact .inl rfl
      · exact .inr (clash.list mem mem')

/-- **Digests collide only if SHA-256 does.** Two values are the same, or their digests differ, or
two different strings, one hashed for each of the two, have the same SHA-256 digest. -/
theorem digest_collides_only_if_sha256_does (s t : HashTree) :
    s = t ∨ s.digest ≠ t.digest ∨
      ∃ a ∈ hashed Hash.Sha256.digest s, ∃ b ∈ hashed Hash.Sha256.digest t,
        a ≠ b ∧ Hash.Sha256.digest a = Hash.Sha256.digest b := by
  by_cases same : s.digest = t.digest
  · rcases eq_or_clash uniform_sha256 s t same with equal | clash
    · exact .inl equal
    · exact .inr (.inr clash)
  · exact .inr (.inl same)

end ControlComponent.HashTree
