import Mathlib.Data.Fintype.BigOperators
import Mathlib.Logic.Function.Iterate
import ControlComponent.Proofs.Small
import ControlComponent.Proofs.Wire.CborRead
import ControlComponent.VoterKey

/-!
The search for a voter's key, as rejection sampling.

Every output is expanded to the next one, and the first that is a number below `q` is the key. There
are only so many outputs of a given length, so after that many rounds one of them has come back, and
from there on the outputs go round. So the search ends by itself, its fuel never runs out, and where
it finds nothing there is nothing to be found in any later round. Clearing the top bit of an output
costs none of the numbers below `q`.
-/

namespace ControlComponent.VoterKey

/-! ### Outputs -/

/-- The output of a round, the first round being number 0. -/
def output (expand : Bytes → Bytes) (first : Bytes) (i : Nat) : Bytes := expand^[i + 1] first

/-- A round is the first one whose output is a number below `q`. -/
structure FirstBelow (expand : Bytes → Bytes) (q : Nat) (first : Bytes) (i : Nat) : Prop where
  small : candidate (output expand first i) < q
  least : ∀ j < i, q ≤ candidate (output expand first j)

section Rounds

variable {expand : Bytes → Bytes} {q length n : Nat} {first input : Bytes} {seen : List Bytes}
  {result : Option Nat}

theorem output_succ (expand : Bytes → Bytes) (first : Bytes) (i : Nat) :
    output expand first (i + 1) = expand (output expand first i) :=
  Function.iterate_succ_apply' expand (i + 1) first

/-- There is only one first round. -/
theorem FirstBelow.unique {i j : Nat} (here : FirstBelow expand q first i)
    (there : FirstBelow expand q first j) : i = j := by
  rcases Nat.lt_trichotomy i j with before | same | after
  · exact absurd here.small (Nat.not_lt.2 (there.least i before))
  · exact same
  · exact absurd there.small (Nat.not_lt.2 (here.least j after))

/-- If any round has a number below `q`, one is the first. -/
theorem exists_firstBelow_iff :
    (∃ i, FirstBelow expand q first i) ↔ ∃ i, candidate (output expand first i) < q := by
  classical
  constructor
  · rintro ⟨i, below⟩
    exact ⟨i, below.small⟩
  · intro some
    exact ⟨Nat.find some, Nat.find_spec some,
      fun j before => Nat.not_lt.1 (Nat.find_min some before)⟩

/-- Where the outputs of `n` rounds hold the next one too, they hold all later ones. -/
theorem exists_output_eq (known : ∃ j < n, output expand first j = output expand first n)
    (i : Nat) : ∃ j < n, output expand first j = output expand first i := by
  induction i with
  | zero =>
    obtain ⟨j, before, -⟩ := known
    exact ⟨0, Nat.zero_lt_of_lt before, rfl⟩
  | succ i ih =>
    obtain ⟨j, before, same⟩ := ih
    have next : output expand first (j + 1) = output expand first (i + 1) := by
      rw [output_succ, output_succ, same]
    rcases Nat.lt_or_eq_of_le (Nat.succ_le_of_lt before) with inside | rfl
    · exact ⟨j + 1, inside, next⟩
    -- Behind the last of the `n` rounds comes the output that they hold already.
    · obtain ⟨k, before', same'⟩ := known
      exact ⟨k, before', same'.trans next⟩

/-- There are no more byte strings of a length than this. -/
theorem length_le_of_nodup (nodup : seen.Nodup) (sized : ∀ bytes ∈ seen, bytes.length = length) :
    seen.length ≤ 256 ^ length := by
  classical
  have digits : Function.Injective (List.map UInt8.toFin) :=
    List.map_injective_iff.2 fun _ _ => UInt8.toFin_inj.1
  let strings := seen.map (List.map UInt8.toFin)
  have sized' : ∀ digits ∈ strings.toFinset, digits.length = length := by
    intro digits mem
    obtain ⟨bytes, among, rfl⟩ := List.mem_map.1 (List.mem_toFinset.1 mem)
    rw [List.length_map, sized bytes among]
  calc seen.length
    _ = strings.length := (List.length_map _).symm
    _ = strings.toFinset.card := (List.toFinset_card_of_nodup (nodup.map digits)).symm
    _ = (strings.toFinset.filter (·.length = length)).card := by
        rw [Finset.filter_true_of_mem sized']
    _ ≤ Fintype.card (Fin 256) ^ length := Finset.card_filter_length_eq_le
    _ = 256 ^ length := by rw [Fintype.card_fin]

/-! ### The search without fuel -/

/-- What a search comes to that nothing keeps from going on: an output seen before ends it with
nothing, a number below `q` ends it with that number, and any other output is expanded in turn. -/
inductive Ends (expand : Bytes → Bytes) (q : Nat) :
    (seen : List Bytes) → (input : Bytes) → Option Nat → Prop
  | repeated {seen : List Bytes} {input : Bytes} (known : expand input ∈ seen) :
      Ends expand q seen input none
  | accepted {seen : List Bytes} {input : Bytes} (new : expand input ∉ seen)
      (small : candidate (expand input) < q) :
      Ends expand q seen input (some (candidate (expand input)))
  | fedBack {seen : List Bytes} {input : Bytes} {result : Option Nat} (new : expand input ∉ seen)
      (large : q ≤ candidate (expand input))
      (rest : Ends expand q (expand input :: seen) (expand input) result) :
      Ends expand q seen input result

/-- What is known before round `n`. -/
structure Reached (expand : Bytes → Bytes) (q : Nat) (first : Bytes) (n : Nat) (seen : List Bytes)
    (input : Bytes) : Prop where
  next : expand input = output expand first n
  earlier : seen = ((List.range n).map (output expand first)).reverse
  nodup : seen.Nodup
  large : ∀ i < n, q ≤ candidate (output expand first i)

theorem reached_first (expand : Bytes → Bytes) (q : Nat) (first : Bytes) :
    Reached expand q first 0 [] first :=
  ⟨rfl, rfl, List.nodup_nil, fun _ before => absurd before (Nat.not_lt_zero _)⟩

namespace Reached

theorem mem_seen_iff (reached : Reached expand q first n seen input) {bytes : Bytes} :
    bytes ∈ seen ↔ ∃ i < n, output expand first i = bytes := by
  rw [reached.earlier, List.mem_reverse, List.mem_map]
  simp only [List.mem_range]

/-- A round that is neither a repetition nor a success leads to the next. -/
theorem step (reached : Reached expand q first n seen input) (new : expand input ∉ seen)
    (large : q ≤ candidate (expand input)) :
    Reached expand q first (n + 1) (expand input :: seen) (expand input) where
  next := by rw [reached.next, output_succ]
  earlier := by
    rw [List.range_succ, List.map_append, List.reverse_append, ← reached.earlier, reached.next]
    rfl
  nodup := List.nodup_cons.2 ⟨new, reached.nodup⟩
  large i before := by
    rcases Nat.lt_or_eq_of_le (Nat.le_of_lt_succ before) with inside | rfl
    · exact reached.large i inside
    · exact reached.next ▸ large

/-- There are only so many rounds. -/
theorem le_pow (reached : Reached expand q first n seen input)
    (sized : ∀ bytes, (expand bytes).length = length) : n ≤ 256 ^ length := by
  have rounds : seen.length = n := by
    rw [reached.earlier, List.length_reverse, List.length_map, List.length_range]
  have sized' : ∀ bytes ∈ seen, bytes.length = length := by
    intro bytes mem
    obtain ⟨i, -, rfl⟩ := reached.mem_seen_iff.1 mem
    rw [output, Function.iterate_succ_apply', sized]
  exact rounds ▸ length_le_of_nodup reached.nodup sized'

/-- With more fuel than there are outputs, the search goes on to its end. -/
theorem ends_search (reached : Reached expand q first n seen input)
    (sized : ∀ bytes, (expand bytes).length = length) {fuel : Nat}
    (enough : 256 ^ length < fuel + n) :
    Ends expand q seen input (search expand q fuel seen input) := by
  -- A round costs one unit of fuel and adds one output, so `fuel + n` stays above their number.
  induction fuel generalizing n seen input with
  | zero => exact absurd (reached.le_pow sized) (by omega)
  | succ fuel ih =>
    simp only [search]
    split
    · rename_i known
      exact .repeated known
    · rename_i new
      split
      · rename_i small
        exact .accepted new small
      · rename_i large
        have next := reached.step new (Nat.not_lt.1 large)
        exact .fedBack new (Nat.not_lt.1 large) (ih next (by omega))

/-- An output that comes back leaves no later round with a number below `q`. -/
theorem large_of_repeated (reached : Reached expand q first n seen input)
    (known : expand input ∈ seen) (i : Nat) : q ≤ candidate (output expand first i) := by
  rw [reached.next, reached.mem_seen_iff] at known
  obtain ⟨j, before, same⟩ := exists_output_eq known i
  exact same ▸ reached.large j before

end Reached

/-- A search ends with the number of the first round that has one below `q`, and with nothing if
there is no such round. -/
theorem Ends.eq_some_iff (ends : Ends expand q seen input result)
    (reached : Reached expand q first n seen input) {v : Nat} :
    result = some v ↔
      ∃ i, FirstBelow expand q first i ∧ candidate (output expand first i) = v := by
  induction ends generalizing n with
  | repeated known =>
    refine ⟨fun none => (Option.some_ne_none v none.symm).elim, ?_⟩
    rintro ⟨i, below, -⟩
    exact absurd below.small (Nat.not_lt.2 (reached.large_of_repeated known i))
  | accepted new small =>
    rw [reached.next] at small ⊢
    have here : FirstBelow expand q first n := ⟨small, reached.large⟩
    constructor
    · intro same
      exact ⟨n, here, Option.some.inj same⟩
    · rintro ⟨i, below, rfl⟩
      rw [below.unique here]
  | fedBack new large _ ih => exact ih (reached.step new large)

end Rounds

/-! ### Candidates -/

theorem lt_two_pow_bitLength (n : Nat) : n < 2 ^ Randomness.bitLength n := by
  unfold Randomness.bitLength
  split
  · rename_i zero
    rw [zero]
    exact Nat.one_pos
  · exact Nat.lt_log2_self

/-- All numbers up to `q` fit behind a cleared top bit. -/
theorem le_two_pow_outputLength (q : Nat) : q ≤ 2 ^ (8 * outputLength q - 1) := by
  have bits : Randomness.bitLength q ≤ 8 * outputLength q - 1 := by
    unfold outputLength
    omega
  exact (lt_two_pow_bitLength q).le.trans (Nat.pow_le_pow_right (by decide) bits)

theorem outputLength_pos (q : Nat) : 0 < outputLength q := by
  unfold outputLength
  omega

theorem le_toNat_cons (first : UInt8) (rest : Bytes) :
    first.toNat * 256 ^ rest.length ≤ Bytes.toNat (first :: rest) := by
  have digits (n : Nat) : n * 256 ^ rest.length ≤ rest.foldl (fun n b => n * 256 + b.toNat) n := by
    induction rest generalizing n with
    | nil => exact Nat.le_of_eq (Nat.mul_one n)
    | cons b rest ih =>
      refine Nat.le_trans ?_ (ih (n * 256 + b.toNat))
      rw [List.length_cons, Nat.pow_succ', ← Nat.mul_assoc]
      exact Nat.mul_le_mul_right _ (Nat.le_add_right _ _)
  simpa [Bytes.toNat] using digits first.toNat

/-- A byte below 128 has no top bit to clear. -/
theorem and_of_lt {b : UInt8} (small : b.toNat < 128) : b &&& 0x7f = b := by
  apply UInt8.toNat_inj.1
  have low : b.toNat &&& 127 = b.toNat % 128 := Nat.and_two_pow_sub_one_eq_mod b.toNat 7
  simp [low, Nat.mod_eq_of_lt small]

/-- Every number that fits behind a cleared top bit is that of some bytes. -/
theorem exists_candidate_eq {length v : Nat} (positive : 0 < length)
    (fits : v < 2 ^ (8 * length - 1)) : ∃ bytes, bytes.length = length ∧ candidate bytes = v := by
  have half : 2 ^ (8 * length - 1) = 128 * 256 ^ (length - 1) := by
    rw [show 128 = 2 ^ 7 by rfl, show 256 = 2 ^ 8 by rfl, ← Nat.pow_mul, ← Nat.pow_add]
    congr 1
    omega
  have whole : 256 ^ length = 256 * 256 ^ (length - 1) := by
    rw [← Nat.pow_succ', Nat.succ_eq_add_one, Nat.sub_add_cancel positive]
  have written : Bytes.toNat (Bytes.ofNatBE length v) = v := by
    rw [Bytes.toNat_ofNatBE, Nat.mod_eq_of_lt (by omega)]
  have size := Bytes.length_ofNatBE length v
  refine ⟨Bytes.ofNatBE length v, size, ?_⟩
  cases bytes : Bytes.ofNatBE length v with
  | nil =>
    rw [bytes, List.length_nil] at size
    exact absurd positive (by omega)
  | cons first rest =>
    rw [bytes] at written size
    have below := le_toNat_cons first rest
    rw [written, show rest.length = length - 1 by rw [← size]; rfl] at below
    have small : first.toNat < 128 :=
      Nat.lt_of_mul_lt_mul_right (Nat.lt_of_le_of_lt below (half ▸ fits))
    rw [candidate, and_of_lt small, written]

/-! ### Derivation -/

/-- The outputs of the functions that run have the length that is asked for. -/
theorem length_expand_standard (material : Bytes) (length : Nat) :
    (Suite.standard.expand material length).length = length :=
  Derivation.Hkdf.length_expand _ _

section Derive

variable {suite : Suite} {group : Group} {seed : String} {result : Option Nat}

/-- What is derived if the search comes to this. -/
def ofSearch (seed : String) : Option Nat → Except Error Nat
  | some v => .ok v
  | none => .error (.keyDerivation (.exhausted seed))

theorem ofSearch_eq_ok {v : Nat} : ofSearch seed result = .ok v ↔ result = some v := by
  cases result <;> simp [ofSearch]

theorem ofSearch_eq_exhausted :
    ofSearch seed result = .error (.keyDerivation (.exhausted seed)) ↔ result = none := by
  cases result <;> simp [ofSearch]

/-- Within the length that can be expanded to, derivation is the search. -/
theorem derive_eq_ofSearch (fits : outputLength group.q ≤ Derivation.Hkdf.maxLength) (master : Nat)
    (seed : String) :
    derive suite master seed group =
      ofSearch seed (search (suite.expand · (outputLength group.q)) group.q
        (256 ^ outputLength group.q + 1) [] (firstInput seed master)) := by
  unfold derive
  rw [if_neg (Nat.not_lt.2 fits)]
  split
  · rename_i found
    rw [found]
    rfl
  · rename_i nothing
    rw [nothing]
    rfl

/-- **Derivation is complete rejection sampling.** The search ends by itself, in one way. If outputs
can be as long as `q` needs them, the key is the number of the first round that has one below `q`,
and it is refused only if no round has one; if they cannot, it is refused at once. Every number
below `q` is that of some output. -/
theorem derive_finds_first_below (suite : Suite) (group : Group)
    (sized : ∀ material,
      (suite.expand material (outputLength group.q)).length = outputLength group.q)
    (master : Nat) (seed : String) :
    let length := outputLength group.q
    let expand := (suite.expand · length)
    let first := firstInput seed master
    (∃! result, Ends expand group.q [] first result) ∧
      (length ≤ Derivation.Hkdf.maxLength →
        (∀ result, Ends expand group.q [] first result →
          derive suite master seed group = ofSearch seed result) ∧
        (∀ v, derive suite master seed group = .ok v ↔
          ∃ i, FirstBelow expand group.q first i ∧ candidate (output expand first i) = v) ∧
        ((∃ v, derive suite master seed group = .ok v) ↔
          ∃ i, candidate (output expand first i) < group.q) ∧
        (derive suite master seed group = .error (.keyDerivation (.exhausted seed)) ↔
          ∀ i, group.q ≤ candidate (output expand first i))) ∧
      (Derivation.Hkdf.maxLength < length →
        derive suite master seed group = .error (.keyDerivation (.tooLong length))) ∧
      group.q ≤ 2 ^ (8 * length - 1) ∧
      ∀ v < group.q, ∃ bytes, bytes.length = length ∧ candidate bytes = v := by
  intro length expand first
  have reached := reached_first expand group.q first
  have ends := reached.ends_search sized (Nat.lt_succ_self (256 ^ length))
  have unique {result : Option Nat} (ends' : Ends expand group.q [] first result) :
      result = search expand group.q (256 ^ length + 1) [] first :=
    Option.ext fun v => (ends'.eq_some_iff reached).trans (ends.eq_some_iff reached).symm
  have bound : group.q ≤ 2 ^ (8 * length - 1) := le_two_pow_outputLength group.q
  refine ⟨⟨_, ends, fun _ => unique⟩, fun fits => ?_, fun long => if_pos long, bound,
    fun v below => exists_candidate_eq (outputLength_pos group.q) (Nat.lt_of_lt_of_le below bound)⟩
  have derived : derive suite master seed group =
      ofSearch seed (search expand group.q (256 ^ length + 1) [] first) :=
    derive_eq_ofSearch fits master seed
  have ok_iff (v : Nat) : derive suite master seed group = .ok v ↔
      ∃ i, FirstBelow expand group.q first i ∧ candidate (output expand first i) = v := by
    rw [derived, ofSearch_eq_ok]
    exact ends.eq_some_iff reached
  have some_iff : (∃ v, derive suite master seed group = .ok v) ↔
      ∃ i, candidate (output expand first i) < group.q := by
    rw [← exists_firstBelow_iff]
    constructor
    · rintro ⟨v, done⟩
      obtain ⟨i, below, -⟩ := (ok_iff v).1 done
      exact ⟨i, below⟩
    · rintro ⟨i, below⟩
      exact ⟨_, (ok_iff _).2 ⟨i, below, rfl⟩⟩
  refine ⟨fun result ends' => by rw [derived, unique ends'], ok_iff, some_iff, ?_⟩
  rw [derived, ofSearch_eq_exhausted, Option.eq_none_iff_forall_ne_some]
  simp only [← Nat.not_lt, ← not_exists, ← some_iff, derived, ofSearch_eq_ok]

end Derive

/-- The small functions with another expansion: every byte is `step` more than the sum of what is
expanded. -/
def stepping (step : UInt8) : Suite :=
  { Small.suite with
    expand := fun material length => List.replicate length (material.foldl (· + ·) step) }

/-- In steps of 40 the fourth output is a number below eleven. In steps of 64 the outputs come back
to the first one after three others, and none is small enough. -/
theorem derive_finds_first_below_of_stepping :
    (∀ step material, ((stepping step).expand material 1).length = 1) ∧
      (∀ material, (Suite.standard.expand material 1).length = 1) ∧
      derive (stepping 40) 3 Small.cardC Small.group = .ok 6 ∧
      derive (stepping 64) 3 Small.cardC Small.group =
        .error (.keyDerivation (.exhausted Small.cardC)) := by
  have sized (step : UInt8) (material : Bytes) : ((stepping step).expand material 1).length = 1 :=
    List.length_replicate
  have fits : outputLength Small.group.q ≤ Derivation.Hkdf.maxLength := by decide
  have short (step : UInt8) :=
    (derive_finds_first_below (stepping step) Small.group (sized step) 3 Small.cardC).2.1 fits
  refine ⟨sized, fun material => length_expand_standard material 1, ?_, ?_⟩
  · exact ((short 40).2.1 6).2 ⟨3, ⟨by decide +kernel, by decide +kernel⟩, by decide +kernel⟩
  · let expand := ((stepping 64).expand · (outputLength Small.group.q))
    have large : ∀ j < 4,
        Small.group.q ≤ candidate (output expand (firstInput Small.cardC 3) j) := by
      decide +kernel
    have back : output expand (firstInput Small.cardC 3) 0 =
        output expand (firstInput Small.cardC 3) 4 := by
      decide +kernel
    refine (short 64).2.2.2.2 fun i => ?_
    obtain ⟨j, before, same⟩ := exists_output_eq ⟨0, by decide, back⟩ i
    exact same ▸ large j before

end ControlComponent.VoterKey
