import Mathlib.NumberTheory.LegendreSymbol.Basic
import Mathlib.Order.Interval.Set.Nat
import Mathlib.RingTheory.RootsOfUnity.PrimitiveRoots
import Mathlib.Tactic.NormNum.Prime
import ControlComponent.Proofs.Residue
import ControlComponent.Suite

/-!
Which numbers are the members of a group.

Members are the numbers below `p` whose power `q` is one. If `p` is prime, these are the squares
modulo `p`, zero apart. Of the two roots `r` and `p - r` of a square one is at most `q`, so every
member is the square of exactly one number from 1 to `q`, and there are `q` of them. To hash into
the group is to square one more than a digest below `q`: this always gives a member, and it gives
different members for different digests. If `q` is prime too, the generator has order `q`, and its
powers are all the members.
-/

namespace ControlComponent

namespace Group

variable {group : Group} {v : Nat}

theorem p_div_two (group : Group) : group.p / 2 = group.q := by
  have p_eq := group.p_eq
  omega

theorem residue_ne_zero (positive : 0 < v) (reduced : v < group.p) : (v : ZMod group.p) ≠ 0 := by
  intro zero
  have divides := (ZMod.natCast_eq_zero_iff _ _).1 zero
  exact Nat.not_lt_of_le (Nat.le_of_dvd positive divides) reduced

theorem residue_pow_mod (group : Group) (v k : Nat) :
    ((v ^ k % group.p : Nat) : ZMod group.p) = (v : ZMod group.p) ^ k := by
  rw [ZMod.natCast_mod, Nat.cast_pow]

/-! ### Squares -/

/-- A number is a square modulo `p` if its residue is one. -/
theorem isSquare_residue_iff (reduced : v < group.p) :
    IsSquare (v : ZMod group.p) ↔ ∃ r, r ^ 2 % group.p = v := by
  have : NeZero group.p := ⟨Nat.ne_zero_of_lt group.one_lt_p⟩
  constructor
  · rintro ⟨r, square⟩
    refine ⟨r.val, eq_of_residue (group.mod_p_lt _) reduced ?_⟩
    rw [residue_pow_mod, ZMod.natCast_zmod_val, square, pow_two]
  · rintro ⟨r, rfl⟩
    rw [residue_pow_mod]
    exact IsSquare.sq _

/-- If `p` is prime, the members are the squares modulo `p`, zero apart. -/
theorem isMember_iff_isSquare (prime : group.p.Prime) :
    group.isMember v = true ↔ 0 < v ∧ v < group.p ∧ IsSquare (v : ZMod group.p) := by
  have := Fact.mk prime
  constructor
  · intro member
    obtain ⟨positive, reduced, -⟩ := isMember_iff.1 member
    refine ⟨positive, reduced, (ZMod.euler_criterion _ (residue_ne_zero positive reduced)).2 ?_⟩
    rw [group.p_div_two]
    exact isRoot_of_isMember member
  · rintro ⟨positive, reduced, square⟩
    have half := (ZMod.euler_criterion _ (residue_ne_zero positive reduced)).1 square
    rw [group.p_div_two] at half
    exact isMember_iff_isRoot.2 ⟨reduced, half⟩

/-- If `p` is prime, the square of a number from 1 to `q` is a member. -/
theorem isMember_sq (prime : group.p.Prime) {h : Nat} (below : h < group.q) :
    group.isMember ((h + 1) ^ 2 % group.p) = true := by
  have := Fact.mk prime
  have p_eq := group.p_eq
  have nonzero : ((h + 1 : Nat) : ZMod group.p) ≠ 0 :=
    residue_ne_zero (Nat.succ_pos h) (by omega)
  have positive : 0 < (h + 1) ^ 2 % group.p := by
    refine Nat.pos_of_ne_zero fun zero => nonzero (sq_eq_zero_iff.1 ?_)
    rw [← residue_pow_mod, zero, Nat.cast_zero]
  refine (isMember_iff_isSquare prime).2 ⟨positive, group.mod_p_lt _, ?_⟩
  rw [residue_pow_mod]
  exact IsSquare.sq _

/-- If `p` is prime, no two numbers from 1 to `q` have the same square. -/
theorem sq_inj (prime : group.p.Prime) {h h' : Nat} (below : h < group.q) (below' : h' < group.q) :
    (h + 1) ^ 2 % group.p = (h' + 1) ^ 2 % group.p ↔ h = h' := by
  have := Fact.mk prime
  have p_eq := group.p_eq
  rw [eq_iff_residue (group.mod_p_lt _) (group.mod_p_lt _), residue_pow_mod, residue_pow_mod,
    sq_eq_sq_iff_eq_or_eq_neg]
  constructor
  · rintro (equal | opposite)
    · exact Nat.succ.inj (eq_of_residue (by omega) (by omega) equal)
    · -- The sum of the two is at most `2 q`, so it is no multiple of `p`.
      have sum : ((h + 1 + (h' + 1) : Nat) : ZMod group.p) = 0 := by
        rw [Nat.cast_add, opposite, neg_add_cancel]
      exact absurd sum (residue_ne_zero (by omega) (by omega))
  · rintro rfl
    exact .inl rfl

/-- If `p` is prime, every square but zero is that of a number from 1 to `q`, since a residue or
its negative is at most `q`. -/
theorem exists_sq_eq (prime : group.p.Prime) {x : ZMod group.p} (nonzero : x ≠ 0) :
    ∃ h < group.q, ((h + 1 : Nat) : ZMod group.p) ^ 2 = x ^ 2 := by
  have := Fact.mk prime
  have small := ZMod.natAbs_valMinAbs_le x
  have root := ZMod.natCast_natAbs_valMinAbs x
  generalize x.valMinAbs.natAbs = r at small root
  rw [group.p_div_two] at small
  have squares : (r : ZMod group.p) ^ 2 = x ^ 2 := by
    rw [root]
    split
    · rfl
    · exact neg_sq x
  cases r with
  | zero =>
    rw [Nat.cast_zero, zero_pow two_ne_zero, eq_comm, sq_eq_zero_iff] at squares
    exact absurd squares nonzero
  | succ h => exact ⟨h, small, squares⟩

/-- If `p` is prime, every member is the square of exactly one number from 1 to `q`. -/
theorem bijOn_sq (prime : group.p.Prime) :
    Set.BijOn (fun h => (h + 1) ^ 2 % group.p) (Set.Iio group.q)
      {v | group.isMember v = true} := by
  refine ⟨fun h below => isMember_sq prime below,
    fun h below h' below' same => (sq_inj prime below below').1 same, ?_⟩
  intro v member
  obtain ⟨positive, reduced, x, square⟩ := (isMember_iff_isSquare prime).1 member
  have nonzero : x ≠ 0 := by
    rintro rfl
    rw [zero_mul] at square
    exact residue_ne_zero positive reduced square
  obtain ⟨h, below, squares⟩ := exists_sq_eq prime nonzero
  refine ⟨h, below, eq_of_residue (group.mod_p_lt _) reduced ?_⟩
  rw [residue_pow_mod, squares, square, pow_two]

/-- If `p` is prime, there are `q` members. -/
theorem ncard_members (prime : group.p.Prime) :
    {v | group.isMember v = true}.ncard = group.q :=
  calc {v | group.isMember v = true}.ncard
    _ = (Set.Iio group.q).ncard := (bijOn_sq prime).ncard_eq.symm
    _ = group.q := Set.ncard_Iio_nat _

/-! ### Powers of the generator -/

/-- If `q` is prime, it is the order of the generator. -/
theorem isPrimitiveRoot_generator (prime : group.q.Prime) :
    IsPrimitiveRoot (group.g : ZMod group.p) group.q := by
  have := Fact.mk prime
  have different : (group.g : ZMod group.p) ≠ 1 := by
    intro one
    rw [← Nat.cast_one, ← eq_iff_residue group.g_lt_p group.one_lt_p] at one
    exact Nat.ne_of_gt group.one_lt_g one
  have order : orderOf (group.g : ZMod group.p) = group.q :=
    orderOf_eq_prime group.isRoot_generator different
  rw [← order]
  exact IsPrimitiveRoot.orderOf _

/-- If both numbers are prime, the members are the powers of the generator. -/
theorem isMember_iff_exists_pow (prime : group.p.Prime) (prime' : group.q.Prime) :
    group.isMember v = true ↔ ∃ k < group.q, v = group.g ^ k % group.p := by
  have := Fact.mk prime
  have : NeZero group.q := ⟨prime'.ne_zero⟩
  constructor
  · intro member
    obtain ⟨reduced, root⟩ := isMember_iff_isRoot.1 member
    obtain ⟨k, below, power⟩ := (isPrimitiveRoot_generator prime').eq_pow_of_pow_eq_one root
    refine ⟨k, below, eq_of_residue reduced (group.mod_p_lt _) ?_⟩
    rw [residue_pow_mod, power]
  · rintro ⟨k, -, rfl⟩
    rw [← Modular.power_eq]
    exact group.isRoot_generator.isMember_pow k

/-- If `q` is prime, different exponents below `q` give different powers of the generator. -/
theorem generator_pow_inj (prime : group.q.Prime) {k k' : Nat} (below : k < group.q)
    (below' : k' < group.q) (same : group.g ^ k % group.p = group.g ^ k' % group.p) : k = k' := by
  have residues := congrArg (Nat.cast : Nat → ZMod group.p) same
  rw [residue_pow_mod, residue_pow_mod] at residues
  exact (isPrimitiveRoot_generator prime).pow_inj below below' residues

/-- **The members are the generated subgroup.** Let three numbers make a group, `p` and `q` being
prime. Its members are the powers of `g` to the exponents below `q`, and they are the squares modulo
`p`, zero apart. No two of the powers are the same, so there are exactly `q` members. -/
theorem members_are_generated {p q g : Nat} {group : Group}
    (made : ofValues p q g = .ok group) (prime : p.Prime) (prime' : q.Prime) :
    (∀ v, group.isMember v = true ↔ ∃ k < q, v = g ^ k % p) ∧
    (∀ v, group.isMember v = true ↔ 0 < v ∧ v < p ∧ ∃ r, r ^ 2 % p = v) ∧
    (∀ k < q, ∀ k' < q, g ^ k % p = g ^ k' % p → k = k') ∧
    {v | group.isMember v = true}.ncard = q := by
  obtain ⟨rfl, rfl, rfl⟩ := ofValues_eq_ok.1 made
  refine ⟨fun v => isMember_iff_exists_pow prime prime', fun v => ?_,
    fun k below k' below' => generator_pow_inj prime' below below', ncard_members prime⟩
  rw [isMember_iff_isSquare prime]
  exact and_congr_right fun _ => and_congr_right isSquare_residue_iff

/-- Modulo 23 there are eleven members, the powers of 4. The largest one is 18, the square of 8. -/
theorem members_are_generated_modulo_23 :
    let group : Group := ⟨23, 11, 4, by decide, by decide, by decide, by decide, by decide⟩
    ofValues 23 11 4 = .ok group ∧ Nat.Prime 23 ∧ Nat.Prime 11 ∧ group.isMember 18 = true ∧
      (∀ v, group.isMember v = true → v ≤ 18) ∧
      (∀ k < 11, ∀ k' < 11, 4 ^ k % 23 = 4 ^ k' % 23 → k = k') ∧
      {v | group.isMember v = true}.ncard = 11 := by
  intro group
  have made : ofValues 23 11 4 = .ok group := rfl
  have prime : Nat.Prime 23 := by norm_num
  have prime' : Nat.Prime 11 := by norm_num
  obtain ⟨powers, squares, distinct, count⟩ := members_are_generated made prime prime'
  have member : group.isMember 18 = true := (squares 18).2 ⟨by decide, by decide, 8, by decide⟩
  refine ⟨made, prime, prime', member, ?_, distinct, count⟩
  intro v found
  obtain ⟨k, below, rfl⟩ := (powers v).1 found
  have largest : ∀ k < 11, 4 ^ k % 23 ≤ 18 := by decide
  exact largest k below

end Group

/-! ### Hashing into a group -/

namespace Suite

theorem hashAndSquare_eq (suite : Suite) (group : Group) (v : Nat) :
    suite.hashAndSquare ⟨group, v⟩ =
      ⟨group, (suite.hashToExponent (.integer v) group + 1) ^ 2 % group.p⟩ := by
  rw [hashAndSquare, square, Group.pow, Modular.power_eq]

theorem isMember_hashAndSquare {group : Group} (prime : group.p.Prime) (suite : Suite) (v : Nat) :
    group.isMember (suite.hashAndSquare ⟨group, v⟩).value = true := by
  rw [hashAndSquare_eq]
  exact Group.isMember_sq prime (suite.hashToExponent_lt _ group)

/-- **Hashing into a group adds no collisions.** If `p` is prime, squaring one more than a number
below `q` goes one to one onto the members. So whatever the hash function, every element is hashed
to a member, and two elements are hashed to the same only if their digests are the same modulo
`q`. -/
theorem hashAndSquare_adds_no_collisions (group : Group) (prime : group.p.Prime) :
    Set.BijOn (fun h => (h + 1) ^ 2 % group.p) (Set.Iio group.q)
      {v | group.isMember v = true} ∧
    ∀ (suite : Suite) (x y : Nat),
      group.isMember (suite.hashAndSquare ⟨group, x⟩).value = true ∧
      (suite.hashAndSquare ⟨group, x⟩ = suite.hashAndSquare ⟨group, y⟩ ↔
        suite.hashToExponent (.integer x) group = suite.hashToExponent (.integer y) group) := by
  refine ⟨Group.bijOn_sq prime, fun suite x y => ⟨isMember_hashAndSquare prime suite x, ?_⟩⟩
  have below := suite.hashToExponent_lt (.integer x) group
  have below' := suite.hashToExponent_lt (.integer y) group
  rw [hashAndSquare_eq, hashAndSquare_eq, Element.mk.injEq, Group.sq_inj prime below below']
  exact and_iff_right rfl

/-- Modulo 23, the elements 4 and 12 are hashed to the same member, since their digests are the same
modulo 11, and 4 and 18 are not. -/
theorem hashAndSquare_adds_no_collisions_modulo_23 :
    let group : Group := ⟨23, 11, 4, by decide, by decide, by decide, by decide, by decide⟩
    let hashed (v : Nat) : Element := standard.hashAndSquare ⟨group, v⟩
    group.p.Prime ∧ (∃ h < 11, (h + 1) ^ 2 % 23 = 18) ∧ group.isMember (hashed 4).value = true ∧
      hashed 4 = hashed 12 ∧ hashed 4 ≠ hashed 18 := by
  intro group hashed
  have prime : group.p.Prime := by
    show Nat.Prime 23
    norm_num
  obtain ⟨bijective, hashes⟩ := hashAndSquare_adds_no_collisions group prime
  have root : ∃ h < 11, (h + 1) ^ 2 % 23 = 18 :=
    bijective.surjOn (show group.isMember 18 = true by decide)
  refine ⟨prime, root, (hashes standard 4 4).1, (hashes standard 4 12).2.2 ?_, fun same => ?_⟩
  · decide +kernel
  · have different : standard.hashToExponent (.integer 4) group ≠
        standard.hashToExponent (.integer 18) group := by decide +kernel
    exact different ((hashes standard 4 18).2.1 same)

/-- A number whose square is zero can be hashed to if `p` is not prime, and zero is no member. -/
example :
    let group : Group := ⟨25, 12, 7, by decide, by decide, by decide, by decide, by decide⟩
    square group 4 = 0 ∧ group.isMember 0 = false := by decide

end Suite
end ControlComponent
