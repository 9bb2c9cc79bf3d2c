import ControlComponent.Proof.Exponentiation
import ControlComponent.Proof.PlaintextEquality
import ControlComponent.Proofs.Outcome
import ControlComponent.Proofs.Residue
import ControlComponent.Proofs.Subgroup

/-!
Whoever knows the exponents can prove it.

The proof that the prover makes is one that the verifier accepts, for whatever randomness and
whatever digest, provided that every base is a root: then the response can be reduced modulo `q` and
the power of an image divided out, and the verifier rebuilds just what the prover committed to. This
goes for proofs of both kinds, the keys being the bases of a plaintext equality. The members of a
group are roots anyway, so of members everything can be proved that is true. A value that was hashed
into the group is a square, and squares are roots if `p` is prime.
-/

namespace ControlComponent

/-! ### Roots -/

/-- The squares that values are hashed to are roots if `p` is prime. -/
theorem Suite.isRoot_hashAndSquare {group : Group} (prime : group.p.Prime) (suite : Suite)
    (v : Nat) : group.IsRoot (suite.hashAndSquare ⟨group, v⟩).value :=
  Group.isRoot_of_isMember (isMember_hashAndSquare prime suite v)

namespace ExponentiationProof

variable {group : Group} {bases : List Nat}

/-! ### Commitments -/

/-- For a root, the verifier rebuilds the value that the prover committed to. -/
theorem recommit_root {b : Nat} (root : group.IsRoot b) (x e nonce : Nat) :
    group.mul (group.pow b (Proof.respond group nonce e x))
      (group.inv (group.pow (group.pow b x) e)) = group.pow b nonce := by
  have split : group.pow b (Proof.respond group nonce e x) =
      group.mul (group.pow (group.pow b x) e) (group.pow b nonce) := by
    refine Group.eq_of_residue (group.pow_lt _ _) (group.mul_lt _ _) ?_
    rw [Group.residue_pow, Proof.respond, root.pow_mod]
    simp only [Group.residue_mul, Group.residue_pow]
    ring
  rw [split]
  exact ((root.pow x).pow e).mul_mul_inv (group.pow_lt _ _)

/-- The verifier rebuilds the commitment of the prover. -/
theorem recommit_respond (roots : ∀ b ∈ bases, group.IsRoot b) (x e nonce : Nat) :
    recommit group bases (bases.map (group.pow · x)) e (Proof.respond group nonce e x) =
      commit group bases nonce := by
  unfold recommit commit
  induction bases with
  | nil => rfl
  | cons b rest ih =>
    rw [List.map_cons, List.zipWith_cons_cons, List.map_cons,
      recommit_root (roots b (List.mem_cons_self ..)),
      ih fun b' mem => roots b' (List.mem_cons_of_mem b mem)]

/-! ### Proofs -/

/-- What is proved of roots and their powers is valid. -/
theorem isValid_prove (suite : Suite) (roots : ∀ b ∈ bases, group.IsRoot b) (x : Nat)
    (auxiliary : List String) (nonce : Nat) :
    isValid suite group bases (bases.map (group.pow · x)) auxiliary
      (prove suite group bases (bases.map (group.pow · x)) x auxiliary nonce) = true := by
  simp only [isValid, prove, recommit_respond roots, beq_self_eq_true, Bool.and_true,
    Bool.and_eq_true]
  constructor
  · exact decide_eq_true (suite.hashToExponent_lt _ _)
  · exact decide_eq_true (Proof.respond_lt ..)

/-- Values of one group make a statement. -/
theorem group_lift {b : Nat} {rest images : List Nat}
    (lengths : (b :: rest).length = images.length) :
    (⟨group.lift (b :: rest), group.lift images⟩ : Statement).group = .ok group := by
  refine Statement.group_eq_ok.2 ⟨List.cons_ne_nil _ _, by simpa [Group.lift] using lengths, ?_⟩
  intro a mem
  rw [Group.lift, Group.lift, ← List.map_append] at mem
  obtain ⟨v, -, rfl⟩ := List.mem_map.1 mem
  rfl

/-- A statement about roots and their powers verifies with the proof that was made for it. -/
theorem verify_prove (suite : Suite) {b : Nat} {rest : List Nat}
    (roots : ∀ b' ∈ b :: rest, group.IsRoot b') (x : Nat) (auxiliary : List String) (nonce : Nat) :
    (prove suite group (b :: rest) ((b :: rest).map (group.pow · x)) x auxiliary nonce).verify suite
      ⟨group.lift (b :: rest), group.lift ((b :: rest).map (group.pow · x))⟩ auxiliary =
        .ok true := by
  refine bind_eq_ok.2 ⟨group, group_lift (List.length_map _).symm, ?_⟩
  simp only [Statement.baseValues, Statement.imageValues, Group.map_value_lift]
  exact congrArg Except.ok (isValid_prove suite roots x auxiliary nonce)

/-! ### Elements -/

/-- The statement that elements have been raised to an exponent. -/
def Statement.raised (elements : List Element) (x : Nat) : Statement :=
  ⟨elements, elements.map (·.pow x)⟩

variable {elements : List Element}

theorem group_of_mem_raised (same : ∀ a ∈ elements, a.group = group) (x : Nat) :
    ∀ a ∈ elements.map (·.pow x), a.group = group := by
  intro a mem
  obtain ⟨base, found, rfl⟩ := List.mem_map.1 mem
  exact same base found

/-- Elements of one group and their powers make a statement about that group. -/
theorem group_raised (nonempty : elements ≠ []) (same : ∀ a ∈ elements, a.group = group) (x : Nat) :
    (Statement.raised elements x).group = .ok group := by
  refine Statement.group_eq_ok.2 ⟨nonempty, (List.length_map _).symm, ?_⟩
  exact List.forall_mem_append.2 ⟨same, group_of_mem_raised same x⟩

/-- The images of such a statement are the powers of its bases. -/
theorem imageValues_raised (same : ∀ a ∈ elements, a.group = group) (x : Nat) :
    (Statement.raised elements x).imageValues =
      (Statement.raised elements x).baseValues.map (group.pow · x) := by
  simp only [Statement.raised, Statement.imageValues, Statement.baseValues, List.map_map]
  refine List.map_congr_left fun a mem => ?_
  obtain rfl := same a mem
  rfl

/-- Every statement that has a group can be given a proof, be it right or not. -/
theorem exists_generate (suite : Suite) {s : Statement} (ofGroup : s.group = .ok group) (x : Nat)
    (auxiliary : List String) (r : Randomness) :
    ∃ nonce r', generate suite s x auxiliary r =
      .ok (prove suite group s.baseValues s.imageValues x auxiliary nonce, r') := by
  rw [generate, ofGroup, ok_bind]
  generalize r.below group.q = draw
  exact ⟨draw.1, draw.2, rfl⟩

/-- That members have been raised to an exponent can be proved with any randomness, and the proof is
accepted, whatever number it was made with. -/
theorem generate_verifies (suite : Suite) (group : Group) (nonempty : elements ≠ [])
    (members : ∀ a ∈ elements, a.group = group ∧ group.isMember a.value = true) (x : Nat)
    (auxiliary : List String) :
    let s := Statement.raised elements x
    (∀ r, ∃ proof r', generate suite s x auxiliary r = .ok (proof, r') ∧
      proof.verify suite s auxiliary = .ok true) ∧
    ∀ nonce, (prove suite group s.baseValues s.imageValues x auxiliary nonce).verify suite s
      auxiliary = .ok true := by
  intro s
  have same : ∀ a ∈ elements, a.group = group := fun a mem => (members a mem).1
  have roots : ∀ v ∈ s.baseValues, group.IsRoot v := by
    intro v mem
    obtain ⟨a, found, rfl⟩ := List.mem_map.1 mem
    exact Group.isRoot_of_isMember (members a found).2
  have ofGroup : s.group = .ok group := group_raised nonempty same x
  have verified : ∀ nonce, (prove suite group s.baseValues s.imageValues x auxiliary nonce).verify
      suite s auxiliary = .ok true := by
    intro nonce
    rw [verify, ofGroup, ok_bind, imageValues_raised same]
    exact congrArg Except.ok (isValid_prove suite roots x auxiliary nonce)
  refine ⟨fun r => ?_, verified⟩
  obtain ⟨nonce, r', made⟩ := exists_generate suite ofGroup x auxiliary r
  exact ⟨_, r', made, verified nonce⟩

/-- Neither number of a group has to be prime: here they are 25 and 12, and the members are 7 and
its inverse 18 and 24, the square of both. -/
theorem generate_verifies_of_composite :
    let group : Group := ⟨25, 12, 7, by decide, by decide, by decide, by decide, by decide⟩
    let elements : List Element := [⟨group, 7⟩, ⟨group, 18⟩, ⟨group, 24⟩]
    let s := Statement.raised elements 5
    (elements ≠ [] ∧ ∀ a ∈ elements, a.group = group ∧ group.isMember a.value = true) ∧
      (∀ r, ∃ proof r', generate Suite.standard s 5 ["one"] r = .ok (proof, r') ∧
        proof.verify Suite.standard s ["one"] = .ok true) ∧
      ∀ nonce, (prove Suite.standard group s.baseValues s.imageValues 5 ["one"] nonce).verify
        Suite.standard s ["one"] = .ok true := by
  intro group elements s
  have nonempty : elements ≠ [] := List.cons_ne_nil _ _
  have members : ∀ a ∈ elements, a.group = group ∧ group.isMember a.value = true := by
    decide
  exact ⟨⟨nonempty, members⟩, generate_verifies Suite.standard group nonempty members 5 ["one"]⟩

end ExponentiationProof

namespace PlaintextEqualityProof

variable {c : Claim} {secret secret' : Nat}

/-- For two roots, the quotient of the powers to the responses is made up of the one that the prover
committed to and a power of the one that is proved. -/
theorem split_respond {group : Group} {a b : Nat} (root : group.IsRoot a) (root' : group.IsRoot b)
    (x x' e nonce nonce' : Nat) :
    group.mul (group.pow a (Proof.respond group nonce e x))
        (group.inv (group.pow b (Proof.respond group nonce' e x'))) =
      group.mul (group.pow (group.mul (group.pow a x) (group.inv (group.pow b x'))) e)
        (group.mul (group.pow a nonce) (group.inv (group.pow b nonce'))) := by
  refine Group.eq_of_residue (group.mul_lt _ _) (group.mul_lt _ _) ?_
  simp only [Group.residue_mul, Group.residue_inv, Group.residue_pow, Proof.respond,
    root.pow_mod, root'.pow_mod]
  generalize group.q - 1 = n
  ring

/-- The verifier rebuilds the commitment of the prover. -/
theorem recommit_respond (root : c.group.IsRoot c.key) (root' : c.group.IsRoot c.key')
    (image : c.image = c.map secret secret') (e nonce nonce' : Nat) :
    c.recommit e (Proof.respond c.group nonce e secret) (Proof.respond c.group nonce' e secret') =
      c.map nonce nonce' := by
  have generator := c.group.isRoot_generator
  have quotient : c.group.IsRoot (c.group.mul (c.group.pow c.key secret)
      (c.group.inv (c.group.pow c.key' secret'))) :=
    (root.pow secret).mul (root'.pow secret').inv
  rw [Claim.recommit, image]
  simp only [Claim.map, List.zipWith_cons_cons, List.zipWith_nil_left,
    ExponentiationProof.recommit_root generator, split_respond root root',
    (quotient.pow e).mul_mul_inv (c.group.mul_lt _ _)]

/-- What is proved of two ciphertexts of one message is valid. -/
theorem isValid_prove (suite : Suite) (root : c.group.IsRoot c.key)
    (root' : c.group.IsRoot c.key') (image : c.image = c.map secret secret')
    (auxiliary : List String) (nonce nonce' : Nat) :
    isValid suite c auxiliary (prove suite c secret secret' auxiliary nonce nonce') = true := by
  simp only [isValid, prove, recommit_respond root root' image, beq_self_eq_true, Bool.and_true,
    Bool.and_eq_true]
  refine ⟨⟨?_, ?_⟩, ?_⟩
  · exact decide_eq_true (suite.hashToExponent_lt _ _)
  · exact decide_eq_true (Proof.respond_lt ..)
  · exact decide_eq_true (Proof.respond_lt ..)

/-- Every statement that makes a claim can be given a proof, be it right or not. -/
theorem exists_generate (suite : Suite) {s : Statement} (claimed : s.claim = .ok c)
    (secret secret' : Nat) (auxiliary : List String) (r : Randomness) :
    ∃ proof r', generate suite s secret secret' auxiliary r = .ok (proof, r') := by
  rw [generate, claimed, ok_bind]
  generalize r.below c.group.q = draw
  obtain ⟨nonce, r₁⟩ := draw
  dsimp only
  generalize r₁.below c.group.q = draw
  obtain ⟨nonce', r₂⟩ := draw
  exact ⟨_, r₂, rfl⟩

/-- A proof of a statement is one of the claim that it makes. -/
theorem exists_prove {suite : Suite} {s : Statement} {auxiliary : List String} {r r' : Randomness}
    {proof : PlaintextEqualityProof}
    (generated : generate suite s secret secret' auxiliary r = .ok (proof, r')) :
    ∃ c nonce nonce', s.claim = .ok c ∧
      proof = prove suite c secret secret' auxiliary nonce nonce' := by
  obtain ⟨c, claimed, made⟩ := bind_eq_ok.1 generated
  generalize r.below c.group.q = draw at made
  obtain ⟨nonce, r₁⟩ := draw
  dsimp only at made
  generalize r₁.below c.group.q = draw at made
  obtain ⟨nonce', r₂⟩ := draw
  exact ⟨c, nonce, nonce', claimed, (congrArg Prod.fst (Except.ok.inj made)).symm⟩

end PlaintextEqualityProof
end ControlComponent
