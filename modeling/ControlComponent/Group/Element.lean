import ControlComponent.Error

/-!
Arithmetic in a group, on values and on elements that know their group.

Members are closed under all of it: products and powers are taken modulo `p`, and the inverse of a
member is its power `q - 1`. An exponent is a number below `q`.
-/

namespace ControlComponent

namespace Group

/-! ### Values -/

/-- The product of two values. -/
def mul (group : Group) (a b : Nat) : Nat := a * b % group.p

/-- A power of a value. -/
def pow (group : Group) (value exponent : Nat) : Nat := Modular.power value exponent group.p

/-- The inverse of a member: its product with the member is its power `q`, which is one. -/
def inv (group : Group) (value : Nat) : Nat := group.pow value (group.q - 1)

/-- The product of any number of values. -/
def product (group : Group) (values : List Nat) : Nat := values.foldl group.mul 1

/-- The sum of any number of exponents, reduced. -/
def sumExponents (group : Group) (exponents : List Nat) : Nat :=
  exponents.foldl (· + ·) 0 % group.q

/-- A number as an exponent, if it is below `q`. -/
def exponent (group : Group) (value : Nat) : Except Error Nat :=
  if value < group.q then .ok value else .error .invalidExponent

/-- A number as a member, if it is one. -/
def member (group : Group) (value : Nat) : Except Error Nat :=
  if group.isMember value then .ok value else .error (.notGroupMember value)

/-- Numbers as members, or the first that is none. -/
def members (group : Group) (values : List Nat) : Except Error (List Nat) :=
  values.mapM group.member

/-- A member is read as it is. -/
theorem member_eq_ok {group : Group} {value value' : Nat} :
    group.member value = .ok value' ↔ group.isMember value = true ∧ value' = value := by
  unfold member
  by_cases isMember : group.isMember value = true
  · rw [if_pos isMember]
    constructor
    · rintro ⟨⟩
      exact ⟨isMember, rfl⟩
    · rintro ⟨-, rfl⟩
      rfl
  · rw [if_neg isMember]
    constructor
    · rintro ⟨⟩
    · rintro ⟨isMember', -⟩
      exact absurd isMember' isMember

end Group

/-! ### Elements -/

/-- A value together with the group it is meant in. -/
structure Element where
  group : Group
  value : Nat
deriving DecidableEq

namespace Element

/-- The product of two elements of one group. -/
def mul (a b : Element) : Element := ⟨a.group, a.group.mul a.value b.value⟩

/-- A power of an element. -/
def pow (a : Element) (exponent : Nat) : Element := ⟨a.group, a.group.pow a.value exponent⟩

/-- The inverse of an element. -/
def inv (a : Element) : Element := ⟨a.group, a.group.inv a.value⟩

end Element

namespace Group

/-- A number as an element, if it is a member. -/
def element (group : Group) (value : Nat) : Except Error Element :=
  (group.member value).map fun v => ⟨group, v⟩

/-- Numbers as elements, or the first that is no member. -/
def elements (group : Group) (values : List Nat) : Except Error (List Element) :=
  values.mapM group.element

/-- Values as elements of a group. -/
def lift (group : Group) (values : List Nat) : List Element := values.map fun v => ⟨group, v⟩

/-- The values of lifted values are the values. -/
@[simp] theorem map_value_lift (group : Group) (values : List Nat) :
    (group.lift values).map (·.value) = values := by
  rw [lift, List.map_map]
  exact List.map_id values

/-- Elements of one group are their values, lifted. -/
theorem lift_map_value {group : Group} {elements : List Element}
    (same : ∀ a ∈ elements, a.group = group) : group.lift (elements.map (·.value)) = elements := by
  rw [lift, List.map_map]
  refine (List.map_congr_left fun a mem => ?_).trans (List.map_id elements)
  obtain rfl := same a mem
  rfl

/-- The generator. -/
def generator (group : Group) : Element := ⟨group, group.g⟩

/-- The neutral element. -/
def identity (group : Group) : Element := ⟨group, 1⟩

/-- The product of any number of elements. -/
def compress (group : Group) (elements : List Element) : Element :=
  ⟨group, group.product (elements.map (·.value))⟩

end Group
end ControlComponent
