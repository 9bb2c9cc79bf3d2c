import Mathlib.Algebra.Field.ZMod
import Mathlib.Tactic.NormNum.Prime
import ControlComponent.Proofs.Plaintext

/-!
Whoever can answer two challenges knows what is proved.

If two answers to different challenges fit one commitment, dividing the two equations that the
verifier checks leaves the differences of the challenges and of the responses. The order of the
group is prime, so the difference of the challenges has an inverse modulo the order, and the
exponent that was proved can be computed from the answers. It is the same for all bases. So of a
statement that is wrong at most one challenge can be answered, once the commitment is made.
-/

namespace ControlComponent

namespace Proof

/-! ### Extraction -/

/-- The inverse of the difference of two challenges, modulo `q`. -/
def gap (group : Group) (e e' : Nat) : Nat := ((e : ZMod group.q) - e')⁻¹.val

/-- The exponent that the answers to two challenges give away: the difference of the responses
divided by the difference of the challenges. -/
def extract (group : Group) (e e' z z' : Nat) : Nat :=
  (z + (group.q - 1) * z') * gap group e e' % group.q

/-- Whether two challenges are different exponents of a group of prime order. -/
structure Apart (group : Group) (e e' : Nat) : Prop where
  prime : group.q.Prime
  below : e < group.q
  below' : e' < group.q
  different : e ≠ e'

variable {group : Group} {e e' : Nat}

theorem extract_lt (group : Group) (e e' z z' : Nat) : extract group e e' z z' < group.q :=
  group.mod_q_lt _

/-- Different challenges differ by one, once they are multiplied by the inverse of their
difference. -/
theorem Apart.mul_gap (apart : Apart group e e') :
    e * gap group e e' % group.q = (e' * gap group e e' + 1) % group.q := by
  have := Fact.mk apart.prime
  have nonzero : (e : ZMod group.q) - e' ≠ 0 := by
    intro zero
    have same := (ZMod.natCast_eq_natCast_iff' e e' group.q).1 (sub_eq_zero.1 zero)
    rw [Nat.mod_eq_of_lt apart.below, Nat.mod_eq_of_lt apart.below'] at same
    exact apart.different same
  apply (ZMod.natCast_eq_natCast_iff' _ _ _).1
  have inverse : ((gap group e e' : Nat) : ZMod group.q) = ((e : ZMod group.q) - e')⁻¹ :=
    ZMod.natCast_zmod_val _
  push_cast
  rw [inverse, ← sub_eq_iff_eq_add', ← sub_mul, mul_inv_cancel₀ nonzero]

/-- If two values divided by two powers of a root come to the same, the root is known from the
values. -/
theorem Apart.eq_of_quotients_eq (apart : Apart group e e') {a a' y : Nat}
    (root : group.IsRoot a') (root' : group.IsRoot y)
    (same : group.mul a (group.inv (group.pow y e)) =
      group.mul a' (group.inv (group.pow y e'))) :
    (y : ZMod group.p) = (a * (group.inv a' : ZMod group.p)) ^ gap group e e' := by
  have crosswise := congrArg (Nat.cast : Nat → ZMod group.p)
    (((root'.pow e).mul_inv_eq_iff (root'.pow e')).1 same)
  simp only [Group.residue_mul, Group.residue_pow] at crosswise
  generalize gap_eq : gap group e e' = d
  have raised : (y : ZMod group.p) ^ (e * d) = y ^ (e' * d) * y := by
    rw [← root'.pow_mod, ← gap_eq, apart.mul_gap, root'.pow_mod, pow_succ]
  have unit : IsUnit ((y : ZMod group.p) ^ (e' * d)) :=
    (IsUnit.of_mul_eq_one _ root'.mul_inv).pow _
  have divided : (a : ZMod group.p) ^ d = a' ^ d * y := by
    apply unit.mul_left_inj.1
    calc (a : ZMod group.p) ^ d * y ^ (e' * d)
        = (a * y ^ e') ^ d := by rw [mul_pow, pow_mul]
      _ = (a' * y ^ e) ^ d := by rw [crosswise]
      _ = a' ^ d * (y ^ (e' * d) * y) := by rw [mul_pow, ← pow_mul, raised]
      _ = a' ^ d * y * y ^ (e' * d) := by ring
  calc (y : ZMod group.p)
      = (a' * group.inv a') ^ d * y := by rw [root.mul_inv, one_pow, one_mul]
    _ = a' ^ d * y * (group.inv a' : ZMod group.p) ^ d := by ring
    _ = (a * group.inv a') ^ d := by rw [← divided, mul_pow]

/-- The power of a root to the exponent that is given away. -/
theorem residue_pow_extract {b : Nat} (root : group.IsRoot b) (z z' : Nat) :
    (b : ZMod group.p) ^ extract group e e' z z' =
      ((b : ZMod group.p) ^ z * (group.inv (group.pow b z') : ZMod group.p)) ^ gap group e e' := by
  rw [extract, root.pow_mod, Group.residue_inv, Group.residue_pow]
  generalize group.q - 1 = n
  ring

/-- If two answers fit one value committed to, the image is the power of the base to the exponent
that is given away. -/
theorem Apart.eq_pow_extract (apart : Apart group e e') {b y z z' : Nat} (root : group.IsRoot b)
    (member : group.isMember y = true)
    (same : group.mul (group.pow b z) (group.inv (group.pow y e)) =
      group.mul (group.pow b z') (group.inv (group.pow y e'))) :
    y = group.pow b (extract group e e' z z') := by
  obtain ⟨reduced, root'⟩ := Group.isMember_iff_isRoot.1 member
  apply Group.eq_of_residue reduced (group.pow_lt _ _)
  rw [apart.eq_of_quotients_eq (root.pow z') root' same, Group.residue_pow, Group.residue_pow,
    residue_pow_extract root]

end Proof

namespace ExponentiationProof

variable {group : Group} {e e' z z' : Nat}

/-- If two answers fit one commitment, all images are powers of their bases to the exponent that is
given away. -/
theorem images_eq_of_recommit_eq (apart : Proof.Apart group e e') {bases images : List Nat}
    (lengths : bases.length = images.length) (roots : ∀ b ∈ bases, group.IsRoot b)
    (members : group.areMembers images = true)
    (same : recommit group bases images e z = recommit group bases images e' z') :
    images = bases.map (group.pow · (Proof.extract group e e' z z')) := by
  induction bases generalizing images with
  | nil =>
    cases images with
    | nil => rfl
    | cons y images => cases lengths
  | cons b bases ih =>
    cases images with
    | nil => cases lengths
    | cons y images =>
      simp only [recommit, List.zipWith_cons_cons, List.cons.injEq] at same
      obtain ⟨member, rest⟩ := Group.areMembers_cons.1 members
      rw [List.map_cons, List.cons.injEq]
      obtain ⟨root, roots⟩ := List.forall_mem_cons.1 roots
      constructor
      · exact apart.eq_pow_extract root member same.1
      · exact ih (Nat.succ.inj lengths) roots rest same.2

/-- The challenge of an accepted proof is an exponent. -/
theorem challenge_lt_of_verify {suite : Suite} {s : Statement} {auxiliary : List String}
    {proof : ExponentiationProof} (ofGroup : s.group = .ok group)
    (accepted : proof.verify suite s auxiliary = .ok true) : proof.challenge < group.q := by
  rw [verify, ofGroup, ok_bind] at accepted
  have valid := Except.ok.inj accepted
  simp only [isValid, Bool.and_eq_true, decide_eq_true_eq] at valid
  exact valid.1.1

/-- Elements of one group have been raised to an exponent if their values have. -/
theorem eq_raised_of_values {s : Statement} (same : ∀ a ∈ s.bases ++ s.images, a.group = group)
    {x : Nat} (values : s.imageValues = s.baseValues.map (group.pow · x)) :
    s = .raised s.bases x := by
  obtain ⟨bases, images⟩ := s
  rw [List.forall_mem_append] at same
  obtain ⟨same, same'⟩ := same
  have images_eq : images = bases.map (·.pow x) := by
    calc images
        = group.lift (images.map (·.value)) := (Group.lift_map_value same').symm
      _ = group.lift ((bases.map (·.pow x)).map (·.value)) :=
        congrArg group.lift (values.trans (imageValues_raised same x).symm)
      _ = bases.map (·.pow x) := Group.lift_map_value (group_of_mem_raised same x)
  rw [Statement.raised, images_eq]

/-- **Special soundness of exponentiation proofs.** If two answers to different challenges fit one
commitment to a statement about members, the images are powers of the bases to one exponent. So if
they are not, no more than one challenge can be answered for any commitment. -/
theorem exists_exponent_of_recommit_eq (prime : group.q.Prime) {s : Statement}
    (nonempty : s.bases ≠ []) (lengths : s.bases.length = s.images.length)
    (members : ∀ a ∈ s.bases ++ s.images, a.group = group ∧ group.isMember a.value = true) :
    (∀ e z e' z', e < group.q → e' < group.q → e ≠ e' →
      recommit group s.baseValues s.imageValues e z =
        recommit group s.baseValues s.imageValues e' z' →
      ∃ x < group.q, s = .raised s.bases x) ∧
    ∀ (suite suite' : Suite) (auxiliary auxiliary' : List String)
        (proof proof' : ExponentiationProof),
      (∀ x < group.q, s ≠ .raised s.bases x) → proof.verify suite s auxiliary = .ok true →
      proof'.verify suite' s auxiliary' = .ok true →
      recommit group s.baseValues s.imageValues proof.challenge proof.response =
        recommit group s.baseValues s.imageValues proof'.challenge proof'.response →
      proof.challenge = proof'.challenge := by
  have same : ∀ a ∈ s.bases ++ s.images, a.group = group := fun a mem => (members a mem).1
  have roots : ∀ b ∈ s.baseValues, group.IsRoot b := by
    intro b mem
    obtain ⟨a, found, rfl⟩ := List.mem_map.1 mem
    exact Group.isRoot_of_isMember (members a (List.mem_append_left _ found)).2
  have images : group.areMembers s.imageValues = true := by
    refine List.all_eq_true.2 fun v mem => ?_
    obtain ⟨a, found, rfl⟩ := List.mem_map.1 mem
    exact (members a (List.mem_append_right _ found)).2
  have extracted : ∀ e z e' z', e < group.q → e' < group.q → e ≠ e' →
      recommit group s.baseValues s.imageValues e z =
        recommit group s.baseValues s.imageValues e' z' →
      ∃ x < group.q, s = .raised s.bases x := by
    intro e z e' z' below below' different commitment
    have lengths' : s.baseValues.length = s.imageValues.length := by
      simpa [Statement.baseValues, Statement.imageValues] using lengths
    exact ⟨Proof.extract group e e' z z', Proof.extract_lt .., eq_raised_of_values same
      (images_eq_of_recommit_eq ⟨prime, below, below', different⟩ lengths' roots images
        commitment)⟩
  refine ⟨extracted, ?_⟩
  intro suite suite' auxiliary auxiliary' proof proof' wrong accepted accepted' commitment
  have ofGroup : s.group = .ok group := Statement.group_eq_ok.2 ⟨nonempty, lengths, same⟩
  by_contra different
  obtain ⟨x, below, right⟩ := extracted _ _ _ _ (challenge_lt_of_verify ofGroup accepted)
    (challenge_lt_of_verify ofGroup accepted') different commitment
  exact wrong x below right

/-- The answers 8 and 3 to the challenges 1 and 3 fit one commitment of 2 and 4 raised to three. If
4 had been raised to another exponent, no challenge but zero could be answered for the commitment of
the number five. -/
theorem exists_exponent_of_recommit_eq_of_small :
    let bases : List Element := [⟨Small.group, 2⟩, ⟨Small.group, 4⟩]
    let s : Statement := ⟨bases, [⟨Small.group, 8⟩, ⟨Small.group, 18⟩]⟩
    let wrong : Statement := ⟨bases, [⟨Small.group, 8⟩, ⟨Small.group, 2⟩]⟩
    Small.group.q.Prime ∧
      (∀ a ∈ s.bases ++ s.images, a.group = Small.group ∧ Small.group.isMember a.value = true) ∧
      recommit Small.group s.baseValues s.imageValues 1 8 =
        recommit Small.group s.baseValues s.imageValues 3 3 ∧
      (∃ x < Small.group.q, s = .raised s.bases x) ∧
      (∀ x < Small.group.q, wrong ≠ .raised wrong.bases x) ∧
      verify Small.suite wrong [] ⟨0, 5⟩ = .ok true ∧
      ∀ (suite : Suite) (auxiliary : List String) (proof : ExponentiationProof),
        proof.verify suite wrong auxiliary = .ok true →
        recommit Small.group wrong.baseValues wrong.imageValues proof.challenge proof.response =
          recommit Small.group wrong.baseValues wrong.imageValues 0 5 →
        proof.challenge = 0 := by
  intro bases s wrong
  have prime : Small.group.q.Prime := by
    show Nat.Prime 11
    norm_num
  have members : ∀ a ∈ s.bases ++ s.images,
      a.group = Small.group ∧ Small.group.isMember a.value = true := by decide
  have members' : ∀ a ∈ wrong.bases ++ wrong.images,
      a.group = Small.group ∧ Small.group.isMember a.value = true := by decide
  have commitment : recommit Small.group s.baseValues s.imageValues 1 8 =
      recommit Small.group s.baseValues s.imageValues 3 3 := by decide
  have apart : ∀ x < Small.group.q, wrong ≠ .raised wrong.bases x := by
    have images : ∀ x < Small.group.q, [8, 2] ≠ [2, 4].map (Small.group.pow · x) := by decide
    intro x below same
    exact images x below (congrArg Statement.imageValues same)
  have accepted : verify Small.suite wrong [] ⟨0, 5⟩ = .ok true := by decide
  refine ⟨prime, members, commitment, ?_, apart, accepted, ?_⟩
  · exact (exists_exponent_of_recommit_eq prime (List.cons_ne_nil _ _) rfl members).1 1 8 3 3
      (by decide) (by decide) (by decide) commitment
  · intro suite auxiliary proof accepted' commitment'
    exact (exists_exponent_of_recommit_eq prime (List.cons_ne_nil _ _) rfl members').2 suite
      Small.suite auxiliary [] proof ⟨0, 5⟩ apart accepted' accepted commitment'

end ExponentiationProof

namespace PlaintextEqualityProof

variable {c : Claim} {e e' z₁ z₂ z₁' z₂' : Nat}

/-- If two answers fit one commitment, the map takes the two exponents that are given away to the
image. -/
theorem image_eq_of_recommit_eq (apart : Proof.Apart c.group e e')
    (members : c.group.areMembers c.values = true)
    (same : c.recommit e z₁ z₂ = c.recommit e' z₁' z₂') :
    c.image = c.map (Proof.extract c.group e e' z₁ z₁') (Proof.extract c.group e e' z₂ z₂') := by
  obtain ⟨group, gamma, phi, key, gamma', phi', key'⟩ := c
  simp only [Claim.values, Group.areMembers_cons] at members
  obtain ⟨member, memberPhi, memberKey, member', memberPhi', memberKey', -⟩ := members
  have rootKey := Group.isRoot_of_isMember memberKey
  have rootKey' := Group.isRoot_of_isMember memberKey'
  simp only [Claim.recommit, Claim.map, Claim.image, List.zipWith_cons_cons, List.zipWith_nil_left,
    List.cons.injEq, and_true] at same ⊢
  obtain ⟨first, second, third⟩ := same
  have generator := group.isRoot_generator
  refine ⟨?_, ?_, ?_⟩
  · exact apart.eq_pow_extract generator member first
  · exact apart.eq_pow_extract generator member' second
  · have quotient : group.IsRoot (group.mul phi (group.inv phi')) :=
      (Group.isRoot_of_isMember memberPhi).mul (Group.isRoot_of_isMember memberPhi').inv
    have masks : group.IsRoot
        (group.mul (group.pow key z₁') (group.inv (group.pow key' z₂'))) :=
      (rootKey.pow z₁').mul (rootKey'.pow z₂').inv
    apply Group.eq_of_residue (group.mul_lt _ _) (group.mul_lt _ _)
    rw [apart.eq_of_quotients_eq masks quotient third]
    simp only [Group.residue_mul, Group.residue_inv, Group.residue_pow,
      Proof.residue_pow_extract rootKey, Proof.residue_pow_extract rootKey']
    generalize group.q - 1 = n
    ring

/-- **Special soundness of plaintext equality proofs.** If two answers to different challenges fit
one commitment to a statement about members, both ciphertexts hold one message. -/
theorem exists_message_of_recommit_eq {s : Statement} (claimed : s.claim = .ok c)
    (prime : c.group.q.Prime) (members : c.group.areMembers c.values = true)
    (below : e < c.group.q) (below' : e' < c.group.q) (different : e ≠ e')
    (same : c.recommit e z₁ z₂ = c.recommit e' z₁' z₂') :
    ∃ r < c.group.q, ∃ r' < c.group.q, ∃ m, c.group.isMember m = true ∧
      s = (Claim.ofMessage c.group c.key c.key' m r r').statement := by
  obtain ⟨m, member, holds⟩ := (Claim.image_eq_map_iff members).1
    (image_eq_of_recommit_eq ⟨prime, below, below', different⟩ members same)
  refine ⟨Proof.extract c.group e e' z₁ z₁', Proof.extract_lt ..,
    Proof.extract c.group e e' z₂ z₂', Proof.extract_lt .., m, member, ?_⟩
  rw [← holds]
  exact Statement.claim_eq_ok.1 claimed

/-- The answers to the challenges 1 and 2 show that `(8, 12)` under 4 and `(9, 3)` under 8 hold one
message, which is 16. -/
theorem exists_message_of_recommit_eq_of_small :
    let c : Claim := ⟨Small.group, 8, 12, 4, 9, 3, 8⟩
    c.statement.claim = .ok c ∧ c.group.q.Prime ∧ c.group.areMembers c.values = true ∧
      c.recommit 1 3 5 = c.recommit 2 6 10 ∧
      ∃ r < c.group.q, ∃ r' < c.group.q, ∃ m, c.group.isMember m = true ∧
        c.statement = (Claim.ofMessage c.group 4 8 m r r').statement := by
  intro c
  have claimed : c.statement.claim = .ok c := Statement.claim_eq_ok.2 rfl
  have prime : c.group.q.Prime := by
    show Nat.Prime 11
    norm_num
  have members : c.group.areMembers c.values = true := by decide
  have commitment : c.recommit 1 3 5 = c.recommit 2 6 10 := by decide
  exact ⟨claimed, prime, members, commitment, exists_message_of_recommit_eq claimed prime members
    (by decide) (by decide) (by decide) commitment⟩

end PlaintextEqualityProof
end ControlComponent
