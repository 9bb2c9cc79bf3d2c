import ControlComponent.Proofs.Contributions

/-!
The laws of arithmetic with members, whether or not `p` and `q` are prime.

Values are multiplied and raised modulo `p`, so the laws of products and powers in a commutative
ring hold of all of them, whatever factors `p` has. Of a member it is known that its power `q` is
one, and this is needed for three things only: what is made of members is a member, the power
`q - 1` is the inverse, and exponents can be reduced modulo `q`. The order of a member is not
needed, so it does not matter that it may be smaller than `q` where `q` is not prime.
-/

namespace ControlComponent

namespace Group

variable {group : Group} {v : Nat}

/-! ### Values -/

protected theorem mul_comm (group : Group) (a b : Nat) : group.mul a b = group.mul b a := by
  rw [mul, mul, Nat.mul_comm]

protected theorem mul_assoc (group : Group) (a b c : Nat) :
    group.mul (group.mul a b) c = group.mul a (group.mul b c) := by
  refine eq_of_residue (group.mul_lt _ _) (group.mul_lt _ _) ?_
  simp only [residue_mul, mul_assoc]

protected theorem one_mul (reduced : v < group.p) : group.mul 1 v = v := by
  rw [mul, Nat.one_mul, Nat.mod_eq_of_lt reduced]

protected theorem pow_add (group : Group) (v a b : Nat) :
    group.pow v (a + b) = group.mul (group.pow v a) (group.pow v b) := by
  refine eq_of_residue (group.pow_lt _ _) (group.mul_lt _ _) ?_
  simp only [residue_mul, residue_pow, pow_add]

protected theorem pow_mul (group : Group) (v a b : Nat) :
    group.pow v (a * b) = group.pow (group.pow v a) b := by
  refine eq_of_residue (group.pow_lt _ _) (group.pow_lt _ _) ?_
  simp only [residue_pow, pow_mul]

protected theorem mul_pow (group : Group) (a b e : Nat) :
    group.pow (group.mul a b) e = group.mul (group.pow a e) (group.pow b e) := by
  refine eq_of_residue (group.pow_lt _ _) (group.mul_lt _ _) ?_
  simp only [residue_mul, residue_pow, mul_pow]

/-- The power `q - 1` of a root is its inverse. -/
theorem IsRoot.mul_inv_eq_one (root : group.IsRoot v) : group.mul v (group.inv v) = 1 := by
  refine eq_of_residue (group.mul_lt _ _) group.one_lt_p ?_
  rw [residue_mul, root.mul_inv, Nat.cast_one]

/-- A root raised to a reduced exponent is the root raised to the exponent. -/
theorem IsRoot.pow_mod_q (root : group.IsRoot v) (e : Nat) :
    group.pow v (e % group.q) = group.pow v e := by
  refine eq_of_residue (group.pow_lt _ _) (group.pow_lt _ _) ?_
  rw [residue_pow, residue_pow, root.pow_mod]

theorem isMember_product {values : List Nat} (roots : ∀ v ∈ values, group.IsRoot v) :
    group.isMember (group.product values) = true :=
  isMember_iff_isRoot.2 ⟨group.product_lt values, isRoot_product roots⟩

end Group

/-! ### Elements -/

/-- Whether an element is of a group and its value is a member. -/
structure Element.IsIn (x : Element) (group : Group) : Prop where
  group_eq : x.group = group
  member : group.isMember x.value = true

namespace Element

variable {group : Group} {x : Element}

/-- The elements in a group are its members, as elements. -/
theorem IsIn.exists_value (isIn : x.IsIn group) :
    ∃ v, group.isMember v = true ∧ x = ⟨group, v⟩ := by
  obtain ⟨rfl, member⟩ := isIn
  exact ⟨x.value, member, rfl⟩

theorem IsIn.isRoot (isIn : x.IsIn group) : group.IsRoot x.value :=
  Group.isRoot_of_isMember isIn.member

/-- The values of elements in a group are roots. -/
theorem isRoot_values {elements : List Element} (isIn : ∀ x ∈ elements, x.IsIn group) :
    ∀ v ∈ elements.map (·.value), group.IsRoot v := by
  intro v mem
  obtain ⟨x, found, rfl⟩ := List.mem_map.1 mem
  exact (isIn x found).isRoot

/-- Members, as elements, are in the group. -/
theorem isIn_lift {values : List Nat} (members : group.areMembers values = true) :
    ∀ x ∈ group.lift values, x.IsIn group := by
  intro x mem
  obtain ⟨v, found, rfl⟩ := List.mem_map.1 mem
  exact ⟨rfl, List.all_eq_true.1 members v found⟩

end Element

namespace Group

variable {group : Group}

open ElGamal (SecretKey PublicKey encrypt)

/-! ### Closure -/

/-- All that is computed of the elements in a group is in the group. Encryption under a key of
members succeeds if there is a message, and no more of them than the key has values. -/
structure Closed (group : Group) : Prop where
  identity : group.identity.IsIn group
  generator : group.generator.IsIn group
  mul : ∀ {x y : Element}, x.IsIn group → y.IsIn group → (x.mul y).IsIn group
  pow : ∀ {x : Element}, x.IsIn group → ∀ e, (x.pow e).IsIn group
  inv : ∀ {x : Element}, x.IsIn group → x.inv.IsIn group
  compress : ∀ {elements : List Element}, (∀ x ∈ elements, x.IsIn group) →
    (group.compress elements).IsIn group
  encrypt : ∀ {key : PublicKey} {messages : List Element}, key.group = group →
    group.areMembers key.values = true → (∀ m ∈ messages, m.IsIn group) → ∀ r,
    ((∃ c, encrypt key messages r = .ok c) ↔
      messages ≠ [] ∧ messages.length ≤ key.values.length) ∧
    ∀ c, encrypt key messages r = .ok c → ∀ x ∈ c.elements, x.IsIn group

/-- What is encrypted under a key of members consists of members. -/
theorem isIn_of_encrypt {key : PublicKey} {messages : List Element} {r : Nat}
    {c : ElGamal.Ciphertext} (members : key.group.areMembers key.values = true)
    (isIn : ∀ m ∈ messages, m.IsIn key.group) (encrypted : encrypt key messages r = .ok c) :
    ∀ x ∈ c.elements, x.IsIn key.group := by
  have values := ElGamal.members_of_encrypt encrypted (fun m mem => (isIn m mem).isRoot)
    (isRoot_of_areMembers members)
  obtain ⟨-, rfl⟩ := ElGamal.encrypt_eq_ok.1 encrypted
  exact Element.isIn_lift values

/-- Messages can be encrypted if they fit the key. -/
theorem exists_encrypt_iff {key : PublicKey} {messages : List Element} (r : Nat) :
    (∃ c, encrypt key messages r = .ok c) ↔
      messages ≠ [] ∧ messages.length ≤ key.values.length := by
  constructor
  · rintro ⟨c, encrypted⟩
    exact (ElGamal.encrypt_eq_ok.1 encrypted).1
  · intro fits
    exact ⟨_, ElGamal.encrypt_eq_ok.2 ⟨fits, rfl⟩⟩

theorem closed (group : Group) : group.Closed where
  identity := ⟨rfl, isMember_iff_isRoot.2 ⟨group.one_lt_p, by simp [IsRoot, identity]⟩⟩
  generator := ⟨rfl, isMember_iff_isRoot.2 ⟨group.g_lt_p, group.isRoot_generator⟩⟩
  mul := by
    rintro x y ⟨rfl, member⟩ isIn
    exact ⟨rfl, (isRoot_of_isMember member).isMember_mul isIn.isRoot⟩
  pow := by
    rintro x ⟨rfl, member⟩ e
    exact ⟨rfl, (isRoot_of_isMember member).isMember_pow e⟩
  inv := by
    rintro x ⟨rfl, member⟩
    exact ⟨rfl, (isRoot_of_isMember member).isMember_pow _⟩
  compress isIn := ⟨rfl, isMember_product (Element.isRoot_values isIn)⟩
  encrypt := by
    rintro key messages rfl members isIn r
    exact ⟨exists_encrypt_iff r, fun c encrypted => isIn_of_encrypt members isIn encrypted⟩

/-! ### Laws -/

/-- The elements in a group are multiplied as in a commutative group, and raised as in one in which
every power `q` is one. The product of any number of powers is the power to the sum of the
exponents. So the product of a public key is the power of the generator to the sum of the secret
key. -/
structure Lawful (group : Group) : Prop where
  mul_comm : ∀ {x y : Element}, x.IsIn group → y.IsIn group → x.mul y = y.mul x
  mul_assoc : ∀ {x y z : Element}, x.IsIn group → y.IsIn group → z.IsIn group →
    (x.mul y).mul z = x.mul (y.mul z)
  identity_mul : ∀ {x : Element}, x.IsIn group → group.identity.mul x = x
  mul_inv : ∀ {x : Element}, x.IsIn group → x.mul x.inv = group.identity
  pow_add : ∀ {x : Element}, x.IsIn group → ∀ a b,
    x.pow ((a + b) % group.q) = (x.pow a).mul (x.pow b)
  pow_pow : ∀ {x : Element}, x.IsIn group → ∀ a b, (x.pow a).pow b = x.pow (a * b % group.q)
  mul_pow : ∀ {x y : Element}, x.IsIn group → y.IsIn group → ∀ a,
    (x.mul y).pow a = (x.pow a).mul (y.pow a)
  pow_sum : ∀ {x : Element}, x.IsIn group → ∀ exponents,
    x.pow (group.sumExponents exponents) = group.compress (exponents.map x.pow)
  pow_compress : ∀ {key : SecretKey}, key.group = group →
    group.generator.pow key.compress = key.publicKey.compress

/-- The product of powers of an element is its power to the sum of the exponents. -/
theorem compress_pow {x : Element} (isIn : x.IsIn group) (exponents : List Nat) :
    group.compress (exponents.map x.pow) = x.pow (group.sumExponents exponents) := by
  obtain ⟨v, member, rfl⟩ := isIn.exists_value
  rw [compress, List.map_map]
  exact congrArg (Element.mk group) ((isRoot_of_isMember member).product_pow exponents)

theorem lawful (group : Group) : group.Lawful where
  -- Two elements in the group differ in their values only, so each law is one of values.
  mul_comm := by
    rintro x y ⟨rfl, -⟩ isIn'
    obtain ⟨b, -, rfl⟩ := isIn'.exists_value
    exact congrArg (Element.mk x.group) (x.group.mul_comm x.value b)
  mul_assoc := by
    rintro x y z ⟨rfl, -⟩ isIn' -
    obtain ⟨b, -, rfl⟩ := isIn'.exists_value
    exact congrArg (Element.mk x.group) (x.group.mul_assoc x.value b z.value)
  identity_mul := by
    rintro x ⟨rfl, member⟩
    exact congrArg (Element.mk x.group) (Group.one_mul (isMember_iff.1 member).2.1)
  mul_inv := by
    rintro x ⟨rfl, member⟩
    exact congrArg (Element.mk x.group) (isRoot_of_isMember member).mul_inv_eq_one
  pow_add := by
    rintro x ⟨rfl, member⟩ a b
    refine congrArg (Element.mk x.group) ?_
    -- Membership is needed for the reduction of the exponent only.
    rw [(isRoot_of_isMember member).pow_mod_q]
    exact x.group.pow_add x.value a b
  pow_pow := by
    rintro x ⟨rfl, member⟩ a b
    refine congrArg (Element.mk x.group) ?_
    rw [(isRoot_of_isMember member).pow_mod_q]
    exact (x.group.pow_mul x.value a b).symm
  mul_pow := by
    rintro x y ⟨rfl, -⟩ isIn' a
    obtain ⟨b, -, rfl⟩ := isIn'.exists_value
    exact congrArg (Element.mk x.group) (x.group.mul_pow x.value b a)
  pow_sum isIn exponents := (compress_pow isIn exponents).symm
  pow_compress := by
    rintro key rfl
    rw [SecretKey.compress, ← compress_pow key.group.closed.generator, compress, List.map_map]
    rfl

/-- **Arithmetic with members is lawful.** Let three numbers make a group, `p` and `q` being prime
or not. Its elements are the numbers from 1 to `p - 1` whose power `q` is one; all that is computed
of them is such an element again; and the laws of a commutative group hold, with exponents modulo
`q`. -/
theorem arithmetic_is_lawful {p q g : Nat} {group : Group} (made : ofValues p q g = .ok group) :
    (∀ x : Element, x.IsIn group ↔
      x.group = group ∧ 1 ≤ x.value ∧ x.value < p ∧ x.value ^ q % p = 1) ∧
    group.Closed ∧ group.Lawful := by
  obtain ⟨rfl, rfl, rfl⟩ := ofValues_eq_ok.1 made
  refine ⟨fun x => ?_, group.closed, group.lawful⟩
  constructor
  · rintro ⟨same, member⟩
    exact ⟨same, isMember_iff.1 member⟩
  · rintro ⟨same, number⟩
    exact ⟨same, isMember_iff.2 number⟩

/-- The laws hold modulo 25, with 12 for `q`. There 5 divides zero, but it is no member; 7 and 24
are. -/
theorem arithmetic_is_lawful_modulo_25 :
    let group : Group := ⟨25, 12, 7, by decide, by decide, by decide, by decide, by decide⟩
    let x : Element := ⟨group, 7⟩
    let y : Element := ⟨group, 24⟩
    let key : SecretKey := ⟨group, [5, 8, 11], by decide⟩
    ofValues 25 12 7 = .ok group ∧ x.IsIn group ∧ y.IsIn group ∧
      group.mul 5 5 = 0 ∧ ¬ (⟨group, 5⟩ : Element).IsIn group ∧
      (x.mul y).IsIn group ∧ x.mul y = y.mul x ∧ x.mul x.inv = group.identity ∧
      x.pow ((7 + 9) % 12) = (x.pow 7).mul (x.pow 9) ∧ (x.pow 7).pow 9 = x.pow (7 * 9 % 12) ∧
      (∃ c, encrypt key.publicKey [x, y] 5 = .ok c) ∧
      group.generator.pow key.compress = key.publicKey.compress := by
  intro group x y key
  have made : ofValues 25 12 7 = .ok group := rfl
  obtain ⟨numbers, closed, lawful⟩ := arithmetic_is_lawful made
  have isIn : x.IsIn group := (numbers x).2 ⟨rfl, by decide⟩
  have isIn' : y.IsIn group := (numbers y).2 ⟨rfl, by decide⟩
  have divisor : ¬ (⟨group, 5⟩ : Element).IsIn group := fun isIn =>
    absurd ((numbers _).1 isIn).2 (by decide)
  have messages : ∀ m ∈ [x, y], m.IsIn group :=
    List.forall_mem_cons.2 ⟨isIn, List.forall_mem_singleton.2 isIn'⟩
  have fits : [x, y] ≠ [] ∧ [x, y].length ≤ key.publicKey.values.length := by decide
  have members : group.areMembers key.publicKey.values = true := by decide
  exact ⟨made, isIn, isIn', by decide, divisor, closed.mul isIn isIn', lawful.mul_comm isIn isIn',
    lawful.mul_inv isIn, lawful.pow_add isIn 7 9, lawful.pow_pow isIn 7 9,
    ((closed.encrypt rfl members messages 5).1).2 fits, lawful.pow_compress rfl⟩

end Group
end ControlComponent
