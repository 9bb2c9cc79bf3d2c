import ControlComponent.Modular

/-!
The groups that everything else computes in: the numbers modulo `p = 2q + 1` whose power `q` is one,
with a generator `g` among them. Neither `p` nor `q` has to be prime; nothing here relies on it.

A group carries the facts it was checked for, so that no later function has to check them again.
-/

namespace ControlComponent

/-- A modulus, the order of the generator, and the generator. -/
structure Group where
  p : Nat
  q : Nat
  g : Nat
  two_le_q : 2 ≤ q
  p_eq : p = 2 * q + 1
  one_lt_g : 1 < g
  g_lt_p : g < p
  g_pow_q : g ^ q % p = 1
deriving DecidableEq

/-- What keeps three numbers from being a group. -/
inductive Group.Fault where
  | smallOrder
  | wrongModulus
  | generatorOutOfRange
  | wrongGenerator
deriving DecidableEq

/-- What is said of a fault. -/
def Group.Fault.message : Group.Fault → String
  | .smallOrder => "q must be at least 2"
  | .wrongModulus => "p must equal 2q + 1"
  | .generatorOutOfRange => "g must lie strictly between 1 and p"
  | .wrongGenerator => "g does not generate the order-q subgroup"

namespace Group

/-- The group of three numbers, or the first thing that is wrong with them. -/
def ofValues (p q g : Nat) : Except Fault Group :=
  if h : 2 ≤ q then
    if hp : p = 2 * q + 1 then
      if hg : 1 < g ∧ g < p then
        if hgq : Modular.power g q p = 1 then
          .ok ⟨p, q, g, h, hp, hg.1, hg.2, by rw [← Modular.power_eq]; exact hgq⟩
        else .error .wrongGenerator
      else .error .generatorOutOfRange
    else .error .wrongModulus
  else .error .smallOrder

theorem q_pos (group : Group) : 0 < group.q := Nat.lt_of_lt_of_le Nat.zero_lt_two group.two_le_q

theorem mod_q_lt (group : Group) (v : Nat) : v % group.q < group.q := Nat.mod_lt _ group.q_pos

/-- The numbers that make a group are its own, and every group is made of its own. -/
theorem ofValues_eq_ok {p q g : Nat} {group : Group} :
    ofValues p q g = .ok group ↔ group.p = p ∧ group.q = q ∧ group.g = g := by
  constructor
  · intro made
    unfold ofValues at made
    repeat' split at made
    all_goals cases made
    exact ⟨rfl, rfl, rfl⟩
  · rintro ⟨rfl, rfl, rfl⟩
    have one : Modular.power group.g group.q group.p = 1 := by
      rw [Modular.power_eq]
      exact group.g_pow_q
    rw [ofValues, dif_pos group.two_le_q, dif_pos group.p_eq,
      dif_pos ⟨group.one_lt_g, group.g_lt_p⟩, dif_pos one]

/-- A member is a number between zero and `p` whose power `q` is one. -/
def isMember (group : Group) (value : Nat) : Bool :=
  0 < value && value < group.p && Modular.power value group.q group.p == 1

/-- Whether all numbers are members. -/
def areMembers (group : Group) (values : List Nat) : Bool := values.all group.isMember

theorem isMember_iff {group : Group} {value : Nat} :
    group.isMember value = true ↔
      0 < value ∧ value < group.p ∧ value ^ group.q % group.p = 1 := by
  simp [isMember, Modular.power_eq, and_assoc]

theorem areMembers_nil {group : Group} : group.areMembers [] = true := rfl

theorem areMembers_cons {group : Group} {value : Nat} {values : List Nat} :
    group.areMembers (value :: values) = true ↔
      group.isMember value = true ∧ group.areMembers values = true := by
  rw [areMembers, areMembers, List.all_cons, Bool.and_eq_true]

/-- A group is its three numbers. -/
theorem eq_of_values {a b : Group} (p : a.p = b.p) (q : a.q = b.q) (g : a.g = b.g) :
    a = b := by
  cases a
  cases b
  cases p
  cases q
  cases g
  rfl

end Group
end ControlComponent
