import Mathlib.Data.ZMod.Basic
import Mathlib.Tactic.Ring
import ControlComponent.Group.Element

/-!
The arithmetic of a group, seen in the ring of residues modulo `p`.

All values that a group computes are reduced, so two of them are equal if their residues are, and an
equation between residues is one in a commutative ring. The only thing to be known of a value is
whether it is a root, one whose power `q` is one. Neither `p` nor `q` has to be prime: the inverse
of a root is its power `q - 1` in any case, and its exponents can be reduced modulo `q`.
-/

namespace ControlComponent.Group

variable {group : Group} {a b v e : Nat}

/-! ### Reduced values -/

theorem one_lt_p (group : Group) : 1 < group.p := by
  have two_le := group.two_le_q
  have p_eq := group.p_eq
  omega

theorem mod_p_lt (group : Group) (v : Nat) : v % group.p < group.p :=
  Nat.mod_lt _ (Nat.zero_lt_of_lt group.one_lt_p)

theorem mul_lt (group : Group) (a b : Nat) : group.mul a b < group.p := group.mod_p_lt _

theorem pow_lt (group : Group) (v e : Nat) : group.pow v e < group.p := by
  rw [pow, Modular.power_eq]
  exact group.mod_p_lt _

theorem product_lt (group : Group) (values : List Nat) : group.product values < group.p := by
  unfold product
  cases values using List.reverseRecOn with
  | nil => exact group.one_lt_p
  | append_singleton values v =>
    rw [List.foldl_append]
    exact group.mul_lt _ _

theorem pow_zero_eq (group : Group) (v : Nat) : group.pow v 0 = 1 := by
  rw [pow, Modular.power_eq, Nat.pow_zero, Nat.mod_eq_of_lt group.one_lt_p]

theorem pow_one_eq (reduced : v < group.p) : group.pow v 1 = v := by
  rw [pow, Modular.power_eq, Nat.pow_one, Nat.mod_eq_of_lt reduced]

/-! ### Residues -/

/-- Reduced values are equal if their residues are. -/
theorem eq_of_residue (ha : a < group.p) (hb : b < group.p)
    (same : (a : ZMod group.p) = b) : a = b := by
  have reduced := (ZMod.natCast_eq_natCast_iff' a b group.p).1 same
  rwa [Nat.mod_eq_of_lt ha, Nat.mod_eq_of_lt hb] at reduced

theorem eq_iff_residue (ha : a < group.p) (hb : b < group.p) :
    a = b ↔ (a : ZMod group.p) = b :=
  ⟨congrArg _, eq_of_residue ha hb⟩

@[simp] theorem residue_mul (group : Group) (a b : Nat) :
    (group.mul a b : ZMod group.p) = a * b := by
  rw [mul, ZMod.natCast_mod, Nat.cast_mul]

@[simp] theorem residue_pow (group : Group) (v e : Nat) :
    (group.pow v e : ZMod group.p) = (v : ZMod group.p) ^ e := by
  rw [pow, Modular.power_eq, ZMod.natCast_mod, Nat.cast_pow]

@[simp] theorem residue_inv (group : Group) (v : Nat) :
    (group.inv v : ZMod group.p) = (v : ZMod group.p) ^ (group.q - 1) :=
  group.residue_pow v _

theorem residue_foldl (group : Group) (values : List Nat) (v : Nat) :
    ((values.foldl group.mul v : Nat) : ZMod group.p) =
      v * (values.map (Nat.cast : Nat → ZMod group.p)).prod := by
  induction values generalizing v with
  | nil => simp
  | cons a rest ih => simp [ih, mul_assoc]

@[simp] theorem residue_product (group : Group) (values : List Nat) :
    (group.product values : ZMod group.p) =
      (values.map (Nat.cast : Nat → ZMod group.p)).prod := by
  simp [product, residue_foldl]

/-! ### Roots -/

/-- Whether the power `q` of a value is one. -/
def IsRoot (group : Group) (v : Nat) : Prop := (v : ZMod group.p) ^ group.q = 1

/-- A value whose power `q` is one modulo `p` is a root. -/
theorem isRoot_of_pow_mod (one : v ^ group.q % group.p = 1) : group.IsRoot v := by
  have residue := ZMod.natCast_mod (v ^ group.q) group.p
  rw [one, Nat.cast_one, Nat.cast_pow] at residue
  exact residue.symm

theorem isRoot_of_isMember (member : group.isMember v = true) : group.IsRoot v :=
  isRoot_of_pow_mod (isMember_iff.1 member).2.2

theorem isRoot_of_areMembers {values : List Nat} (members : group.areMembers values = true) :
    ∀ v ∈ values, group.IsRoot v := fun v mem =>
  isRoot_of_isMember (List.all_eq_true.1 members v mem)

/-- The members are the reduced roots. -/
theorem isMember_iff_isRoot : group.isMember v = true ↔ v < group.p ∧ group.IsRoot v := by
  constructor
  · intro member
    exact ⟨(isMember_iff.1 member).2.1, isRoot_of_isMember member⟩
  · rintro ⟨reduced, root⟩
    have one : v ^ group.q % group.p = 1 := by
      have same := (ZMod.natCast_eq_natCast_iff' (v ^ group.q) 1 group.p).1
        (by rw [Nat.cast_pow, Nat.cast_one]; exact root)
      rw [same, Nat.mod_eq_of_lt group.one_lt_p]
    have positive : 0 < v := by
      refine Nat.pos_of_ne_zero ?_
      rintro rfl
      rw [Nat.zero_pow group.q_pos, Nat.zero_mod] at one
      cases one
    exact isMember_iff.2 ⟨positive, reduced, one⟩

theorem isRoot_generator (group : Group) : group.IsRoot group.g :=
  isRoot_of_pow_mod group.g_pow_q

theorem IsRoot.pow (root : group.IsRoot v) (e : Nat) : group.IsRoot (group.pow v e) := by
  unfold IsRoot at root ⊢
  rw [residue_pow, ← pow_mul, mul_comm, pow_mul, root, one_pow]

theorem IsRoot.inv (root : group.IsRoot v) : group.IsRoot (group.inv v) := root.pow _

theorem IsRoot.mul (root : group.IsRoot a) (root' : group.IsRoot b) :
    group.IsRoot (group.mul a b) := by
  unfold IsRoot at root root' ⊢
  rw [residue_mul, mul_pow, root, root', one_mul]

theorem IsRoot.isMember_pow (root : group.IsRoot v) (e : Nat) :
    group.isMember (group.pow v e) = true :=
  isMember_iff_isRoot.2 ⟨group.pow_lt v e, root.pow e⟩

theorem IsRoot.isMember_mul (root : group.IsRoot a) (root' : group.IsRoot b) :
    group.isMember (group.mul a b) = true :=
  isMember_iff_isRoot.2 ⟨group.mul_lt a b, root.mul root'⟩

theorem isRoot_product {values : List Nat} (roots : ∀ v ∈ values, group.IsRoot v) :
    group.IsRoot (group.product values) := by
  unfold IsRoot
  rw [residue_product]
  induction values with
  | nil => exact one_pow _
  | cons v rest ih =>
    rw [List.map_cons, List.prod_cons, mul_pow, roots v (List.mem_cons_self ..), one_mul]
    exact ih fun v' mem => roots v' (List.mem_cons_of_mem v mem)

/-- What `inv` computes for a root is its inverse. -/
theorem IsRoot.mul_inv (root : group.IsRoot v) :
    (v : ZMod group.p) * (group.inv v : ZMod group.p) = 1 := by
  have q_eq : group.q - 1 + 1 = group.q := by
    have two_le := group.two_le_q
    omega
  rw [residue_inv, ← pow_succ', q_eq]
  exact root

/-- Two values divided by roots come to the same if the products crosswise do. -/
theorem IsRoot.mul_inv_eq_iff {a' v' : Nat} (root : group.IsRoot v) (root' : group.IsRoot v') :
    group.mul a (group.inv v) = group.mul a' (group.inv v') ↔
      group.mul a v' = group.mul a' v := by
  have unit : IsUnit ((v : ZMod group.p) * v') :=
    (IsUnit.of_mul_eq_one _ root.mul_inv).mul (IsUnit.of_mul_eq_one _ root'.mul_inv)
  have left : (a : ZMod group.p) * group.inv v * (v * v') = a * v' := by
    calc (a : ZMod group.p) * group.inv v * (v * v')
        = a * v' * (v * group.inv v) := by ring
      _ = a * v' := by rw [root.mul_inv, mul_one]
  have right : (a' : ZMod group.p) * group.inv v' * (v * v') = a' * v := by
    calc (a' : ZMod group.p) * group.inv v' * (v * v')
        = a' * v * (v' * group.inv v') := by ring
      _ = a' * v := by rw [root'.mul_inv, mul_one]
  rw [eq_iff_residue (group.mul_lt _ _) (group.mul_lt _ _),
    eq_iff_residue (group.mul_lt _ _) (group.mul_lt _ _)]
  simp only [residue_mul]
  rw [← unit.mul_left_inj, left, right]

/-- Dividing a root by another one changes it unless the other one is one. -/
theorem IsRoot.mul_inv_eq_self_iff (root : group.IsRoot a) (reduced : a < group.p)
    (root' : group.IsRoot v) (reduced' : v < group.p) : group.mul a (group.inv v) = a ↔ v = 1 := by
  have unit : IsUnit (a : ZMod group.p) := IsUnit.of_mul_eq_one _ root.mul_inv
  rw [eq_iff_residue (group.mul_lt _ _) reduced, eq_iff_residue reduced' group.one_lt_p,
    residue_mul, unit.mul_eq_left, Nat.cast_one]
  have inverse := root'.mul_inv
  constructor
  · intro one
    rwa [one, mul_one] at inverse
  · intro one
    rwa [one, one_mul] at inverse

/-- The exponents of a root can be reduced modulo `q`. -/
theorem IsRoot.pow_mod (root : group.IsRoot v) (e : Nat) :
    (v : ZMod group.p) ^ (e % group.q) = (v : ZMod group.p) ^ e := by
  calc (v : ZMod group.p) ^ (e % group.q)
      = ((v : ZMod group.p) ^ group.q) ^ (e / group.q) * (v : ZMod group.p) ^ (e % group.q) := by
        rw [root, one_pow, one_mul]
    _ = (v : ZMod group.p) ^ e := by rw [← pow_mul, ← pow_add, Nat.div_add_mod]

/-- Multiplying by a root and then by its inverse leaves a reduced value as it is. -/
theorem IsRoot.mul_mul_inv (root : group.IsRoot v) (reduced : a < group.p) :
    group.mul (group.mul v a) (group.inv v) = a := by
  refine eq_of_residue (group.mul_lt _ _) reduced ?_
  rw [residue_mul, residue_mul, mul_right_comm, root.mul_inv, one_mul]

/-- Dividing a reduced value by a root and multiplying by it again leaves the value as it is. -/
theorem IsRoot.mul_mul_inv_cancel (root : group.IsRoot v) (reduced : a < group.p) :
    group.mul v (group.mul a (group.inv v)) = a := by
  refine eq_of_residue (group.mul_lt _ _) reduced ?_
  rw [residue_mul, residue_mul, mul_left_comm, root.mul_inv, mul_one]

/-- The product of powers of a root is its power to the sum of the exponents. -/
theorem IsRoot.product_pow (root : group.IsRoot v) (exponents : List Nat) :
    group.product (exponents.map (group.pow v)) =
      group.pow v (group.sumExponents exponents) := by
  refine eq_of_residue (group.product_lt _) (group.pow_lt _ _) ?_
  have sum : ∀ n : Nat, (v : ZMod group.p) ^ (exponents.foldl (· + ·) n) =
      (v : ZMod group.p) ^ n * (exponents.map fun x => (v : ZMod group.p) ^ x).prod := by
    induction exponents with
    | nil => simp
    | cons x rest ih =>
      intro n
      simp [ih, pow_add, mul_assoc]
  rw [residue_product, residue_pow, sumExponents, root.pow_mod, sum, pow_zero, one_mul,
    List.map_map]
  congr 2
  funext x
  exact group.residue_pow v x

end ControlComponent.Group
