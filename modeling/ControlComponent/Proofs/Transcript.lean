import ControlComponent.Proof.Exponentiation
import ControlComponent.Proof.PlaintextEquality
import ControlComponent.Proofs.Outcome
import ControlComponent.Proofs.Residue
import ControlComponent.Proofs.Small

/-!
What a challenge binds.

The values that are hashed for a challenge can be read off the hashed tree: the group, the values
the proof is about, the commitment and the texts. For a proof of exponentiation the values are the
bases and behind them the images. Nothing marks where the one list ends and the other begins, but
there are as many of the one as of the other, so the boundary is in the middle.

For a proof of plaintext equality the values are the two first values of the ciphertexts and the
quotient of the two second ones, and that is all: the two second values count only by their
quotient, and the two keys do not count at all. So a proof stays valid if both second values are
multiplied by one number, and if the keys are changed so that their powers in the commitment keep
their quotient. These are three values, an odd number, so nothing that is hashed for a proof of one
kind is hashed for one of the other.
-/

namespace ControlComponent

/-! ### Trees -/

namespace HashTree

theorem integers_inj {values values' : List Nat} :
    integers values = integers values' ↔ values = values' := by
  have injective : Function.Injective HashTree.integer := fun _ _ => HashTree.integer.inj
  rw [integers, integers, HashTree.list.injEq, (List.map_injective_iff.2 injective).eq_iff]

theorem texts_inj {values values' : List String} :
    texts values = texts values' ↔ values = values' := by
  have injective : Function.Injective HashTree.text := fun _ _ => HashTree.text.inj
  rw [texts, texts, HashTree.list.injEq, (List.map_injective_iff.2 injective).eq_iff]

end HashTree

/-- All that goes into a challenge can be read off what is hashed. -/
theorem Proof.transcript_inj {group group' : Group}
    {values values' commitment commitment' : List Nat} {auxiliary auxiliary' : List String} :
    transcript group values commitment auxiliary =
        transcript group' values' commitment' auxiliary' ↔
      group = group' ∧ values = values' ∧ commitment = commitment' ∧ auxiliary = auxiliary' := by
  simp only [transcript, HashTree.list.injEq, List.cons.injEq, HashTree.integers_inj,
    HashTree.texts_inj, and_true]
  constructor
  · rintro ⟨⟨p, q, g⟩, rest⟩
    exact ⟨Group.eq_of_values p q g, rest⟩
  · rintro ⟨rfl, rest⟩
    exact ⟨⟨rfl, rfl, rfl⟩, rest⟩

namespace ExponentiationProof

variable {group group' : Group} {bases bases' images images' commitment commitment' : List Nat}
  {auxiliary auxiliary' : List String}

/-! ### What the challenge of a statement binds -/

/-- Whether a statement has an image for every base, all in one group. -/
structure Statement.IsIn (s : Statement) (group : Group) : Prop where
  lengths : s.bases.length = s.images.length
  same : ∀ a ∈ s.bases ++ s.images, a.group = group

/-- The statements that can be proved or checked are in their group. -/
theorem Statement.isIn_of_group {s : Statement} (ofGroup : s.group = .ok group) : s.IsIn group :=
  let ⟨_, lengths, same⟩ := group_eq_ok.1 ofGroup
  ⟨lengths, same⟩

theorem Statement.IsIn.length_values {s : Statement} (isIn : s.IsIn group) :
    s.baseValues.length = s.imageValues.length := by
  rw [baseValues, imageValues, List.length_map, List.length_map]
  exact isIn.lengths

/-- In a group, a statement is known from its values. -/
theorem Statement.IsIn.eq_lift {s : Statement} (isIn : s.IsIn group) :
    s = ⟨group.lift s.baseValues, group.lift s.imageValues⟩ := by
  obtain ⟨same, same'⟩ := List.forall_mem_append.1 isIn.same
  rw [baseValues, imageValues, Group.lift_map_value same, Group.lift_map_value same']

/-- Two lists of the same length, one behind the other, can be taken apart. -/
theorem append_inj_of_halves (lengths : bases.length = images.length)
    (lengths' : bases'.length = images'.length) (same : bases ++ images = bases' ++ images') :
    bases = bases' ∧ images = images' := by
  have total := congrArg List.length same
  rw [List.length_append, List.length_append] at total
  exact List.append_inj same (by omega)

/-- All that goes into the challenge can be read off what is hashed, the bases and the images
too. -/
theorem transcript_inj (lengths : bases.length = images.length)
    (lengths' : bases'.length = images'.length) :
    transcript group bases images commitment auxiliary =
        transcript group' bases' images' commitment' auxiliary' ↔
      group = group' ∧ bases = bases' ∧ images = images' ∧ commitment = commitment' ∧
        auxiliary = auxiliary' := by
  unfold transcript
  rw [Proof.transcript_inj]
  constructor
  · rintro ⟨groups, values, commitments, texts⟩
    obtain ⟨first, second⟩ := append_inj_of_halves lengths lengths' values
    exact ⟨groups, first, second, commitments, texts⟩
  · rintro ⟨groups, rfl, rfl, commitments, texts⟩
    exact ⟨groups, rfl, commitments, texts⟩

/-- What is hashed for an exponentiation is never hashed for a plaintext equality, which is about
an odd number of values. -/
theorem transcript_ne_transcript (lengths : bases.length = images.length)
    (c : PlaintextEqualityProof.Claim) :
    transcript group bases images commitment auxiliary ≠ c.transcript commitment' auxiliary' := by
  intro same
  have values := congrArg List.length (Proof.transcript_inj.1 same).2.1
  rw [List.length_append, PlaintextEqualityProof.Claim.image] at values
  simp only [List.length_cons, List.length_nil] at values
  omega

/-- **What the challenge of an exponentiation proof binds.** The same tree is hashed for two
statements, each in a group, if and only if the groups, the bases, the images, the commitments and
the texts are the same, and no such tree is hashed for a plaintext equality. -/
theorem challenge_binds_statement {s s' : Statement} (isIn : s.IsIn group)
    (isIn' : s'.IsIn group') (commitment commitment' : List Nat)
    (auxiliary auxiliary' : List String) :
    (transcript group s.baseValues s.imageValues commitment auxiliary =
        transcript group' s'.baseValues s'.imageValues commitment' auxiliary' ↔
      group = group' ∧ s.bases = s'.bases ∧ s.images = s'.images ∧ commitment = commitment' ∧
        auxiliary = auxiliary') ∧
    ∀ (c : PlaintextEqualityProof.Claim) (commitment' : List Nat) (auxiliary' : List String),
      transcript group s.baseValues s.imageValues commitment auxiliary ≠
        c.transcript commitment' auxiliary' := by
  constructor
  · rw [transcript_inj isIn.length_values isIn'.length_values]
    constructor
    · rintro ⟨rfl, bases, images, commitments, texts⟩
      have statements : s = s' := by rw [isIn.eq_lift, isIn'.eq_lift, bases, images]
      exact ⟨rfl, congrArg _ statements, congrArg _ statements, commitments, texts⟩
    · rintro ⟨groups, bases, images, commitments, texts⟩
      exact ⟨groups, congrArg (List.map _) bases, congrArg (List.map _) images, commitments, texts⟩
  · intro c commitment' auxiliary'
    exact transcript_ne_transcript isIn.length_values c

/-- Another tree is hashed if the last base and the first image of a statement are exchanged. The
same one is hashed if the last base is counted as an image, but that is no statement. -/
theorem challenge_binds_statement_of_small :
    let element (v : Nat) : Element := ⟨Small.group, v⟩
    let s : Statement := ⟨[element 2, element 4], [element 8, element 18]⟩
    let s' : Statement := ⟨[element 2, element 8], [element 4, element 18]⟩
    let uneven : Statement := ⟨[element 2], [element 4, element 8, element 18]⟩
    let hashed (s : Statement) : HashTree :=
      transcript Small.group s.baseValues s.imageValues [1, 1] ["one"]
    s.IsIn Small.group ∧ s'.IsIn Small.group ∧ hashed s ≠ hashed s' ∧
      (∀ c : PlaintextEqualityProof.Claim, hashed s ≠ c.transcript [1, 1] ["one"]) ∧
      ¬ uneven.IsIn Small.group ∧ hashed s = hashed uneven := by
  intro element s s' uneven hashed
  have isIn : s.IsIn Small.group := Statement.isIn_of_group rfl
  have isIn' : s'.IsIn Small.group := Statement.isIn_of_group rfl
  have bound := challenge_binds_statement isIn isIn' [1, 1] [1, 1] ["one"] ["one"]
  refine ⟨isIn, isIn', fun same => ?_, fun c => bound.2 c [1, 1] ["one"], ?_, rfl⟩
  · have bases : s.bases ≠ s'.bases := by decide
    exact bases (bound.1.1 same).2.1
  · intro isIn''
    exact absurd isIn''.lengths (by decide)

end ExponentiationProof

namespace PlaintextEqualityProof

variable {suite : Suite} {c c' : Claim} {auxiliary auxiliary' : List String}

/-! ### Statements -/

/-- The statement that makes a claim. -/
def Claim.statement (c : Claim) : Statement where
  primary := ⟨c.group, c.gamma, [c.phi]⟩
  primaryKey := ⟨c.group, c.key⟩
  secondary := ⟨c.group, c.gamma', [c.phi']⟩
  secondaryKey := ⟨c.group, c.key'⟩

/-- The statements that can be proved or checked are those that make a claim, and no two of them
make the same one. -/
theorem Statement.claim_eq_ok {s : Statement} : s.claim = .ok c ↔ s = c.statement := by
  constructor
  · intro claim
    obtain ⟨⟨group, gamma, phis⟩, ⟨_, key⟩, ⟨_, gamma', phis'⟩, ⟨_, key'⟩⟩ := s
    unfold Statement.claim at claim
    split at claim
    · rename_i single single'
      cases single
      cases single'
      dsimp only at claim
      split at claim
      · cases claim
      · rename_i one
        simp only [not_or, not_not] at one
        obtain ⟨rfl, rfl, rfl⟩ := one
        cases claim
        rfl
    · cases claim
  · rintro rfl
    simp [Claim.statement, Statement.claim]

/-- Checking the statement that makes a claim is checking the claim. -/
theorem verify_statement (proof : PlaintextEqualityProof) :
    proof.verify suite c.statement auxiliary = .ok (isValid suite c auxiliary proof) :=
  bind_eq_ok.2 ⟨c, Statement.claim_eq_ok.2 rfl, rfl⟩

/-! ### What the challenge of a claim binds -/

/-- **What the challenge of a plaintext equality proof binds.** The same tree is hashed for two
statements if and only if they are of one group and have the same first values, their second values
have the same quotient, and the commitments and the texts are the same. The keys are free. -/
theorem transcript_eq_iff {s s' : Statement} {commitment commitment' : List Nat}
    (claim : s.claim = .ok c) (claim' : s'.claim = .ok c')
    (member : c.group.isMember c.phi' = true) (member' : c'.group.isMember c'.phi' = true) :
    c.transcript commitment auxiliary = c'.transcript commitment' auxiliary' ↔
      s.primary.group = s'.primary.group ∧ s.primary.gamma = s'.primary.gamma ∧
      s.secondary.gamma = s'.secondary.gamma ∧
      c.group.mul c.phi c'.phi' = c.group.mul c'.phi c.phi' ∧
      commitment = commitment' ∧ auxiliary = auxiliary' := by
  obtain rfl := Statement.claim_eq_ok.1 claim
  obtain rfl := Statement.claim_eq_ok.1 claim'
  have root := Group.isRoot_of_isMember member
  have root' := Group.isRoot_of_isMember member'
  simp only [Claim.transcript, Proof.transcript_inj, Claim.image, List.cons.injEq, and_true,
    Claim.statement, and_assoc]
  refine and_congr_right fun group => and_congr_right fun _ => and_congr_right fun _ => ?_
  rw [← group] at root' ⊢
  rw [root.mul_inv_eq_iff root']

/-- Dividing the last value of a commitment changes what is hashed, unless it is divided by one. -/
theorem transcript_div_iff {first second third v : Nat} (root : c.group.IsRoot third)
    (reduced : third < c.group.p) (root' : c.group.IsRoot v) (reduced' : v < c.group.p) :
    c.transcript [first, second, c.group.mul third (c.group.inv v)] auxiliary =
        c.transcript [first, second, third] auxiliary ↔ v = 1 := by
  rw [← root.mul_inv_eq_self_iff reduced root' reduced']
  simp [Claim.transcript, Proof.transcript_inj]

/-- Two statements with other plaintexts and other keys have one tree. -/
theorem exists_statements_with_one_transcript :
    ∃ s s' : Statement, ∃ c c', s.claim = .ok c ∧ s'.claim = .ok c' ∧
      s.primary.phis ≠ s'.primary.phis ∧ s.secondary.phis ≠ s'.secondary.phis ∧
      s.primaryKey ≠ s'.primaryKey ∧ s.secondaryKey ≠ s'.secondaryKey ∧
      c.transcript [] [] = c'.transcript [] [] := by
  let c : Claim := ⟨Small.group, 2, 2, 2, 2, 2, 2⟩
  let c' : Claim := ⟨Small.group, 2, 4, 3, 2, 4, 6⟩
  have claim : c.statement.claim = .ok c := Statement.claim_eq_ok.2 rfl
  have claim' : c'.statement.claim = .ok c' := Statement.claim_eq_ok.2 rfl
  have same : c.transcript [] [] = c'.transcript [] [] :=
    (transcript_eq_iff claim claim' (by decide) (by decide)).2
      ⟨rfl, rfl, rfl, by decide, rfl, rfl⟩
  exact ⟨c.statement, c'.statement, c, c', claim, claim', by decide, by decide, by decide,
    by decide, same⟩

/-! ### What a proof can be moved to -/

/-- The claim about other second values and other keys: the second values multiplied by one number,
and each key by the power of one number that the response for the other key makes. -/
def Claim.shift (c : Claim) (m a response response' : Nat) : Claim :=
  { c with
    phi := c.group.mul m c.phi
    phi' := c.group.mul m c.phi'
    key := c.group.mul c.key (c.group.pow a response')
    key' := c.group.mul c.key' (c.group.pow a response) }

/-- The second values of the shifted claim have the same quotient. -/
theorem image_shift {m : Nat} (root : c.group.IsRoot m) (a response response' : Nat) :
    (c.shift m a response response').image = c.image := by
  simp only [Claim.image, Claim.shift, List.cons.injEq, and_true, true_and]
  refine Group.eq_of_residue (c.group.mul_lt _ _) (c.group.mul_lt _ _) ?_
  have unit := root.mul_inv
  simp only [Group.residue_mul, Group.residue_inv] at unit ⊢
  rw [mul_pow]
  calc (m : ZMod c.group.p) * c.phi * (m ^ (c.group.q - 1) * c.phi' ^ (c.group.q - 1))
      = m * m ^ (c.group.q - 1) * (c.phi * c.phi' ^ (c.group.q - 1)) := by ring
    _ = c.phi * c.phi' ^ (c.group.q - 1) := by rw [unit, one_mul]

/-- The map of the shifted claim gives the same for the two responses. -/
theorem map_shift {a : Nat} (root : c.group.IsRoot a) (m response response' : Nat) :
    (c.shift m a response response').map response response' = c.map response response' := by
  simp only [Claim.map, Claim.shift, List.cons.injEq, and_true, true_and]
  refine Group.eq_of_residue (c.group.mul_lt _ _) (c.group.mul_lt _ _) ?_
  have unit := (root.pow (response * response')).mul_inv
  simp only [Group.residue_mul, Group.residue_inv, Group.residue_pow] at unit ⊢
  generalize c.group.q - 1 = n at unit ⊢
  calc ((c.key : ZMod c.group.p) * a ^ response') ^ response *
        ((c.key' * a ^ response) ^ response') ^ n
      = a ^ (response * response') * (a ^ (response * response')) ^ n *
          (c.key ^ response * (c.key' ^ response') ^ n) := by ring
    _ = c.key ^ response * (c.key' ^ response') ^ n := by rw [unit, one_mul]

/-- **A proof can be moved to another statement.** Whoever knows a valid proof has one for every
shifted claim too, with second values and keys that were never proved. -/
theorem isValid_shift {m a : Nat} (root : c.group.IsRoot m) (root' : c.group.IsRoot a)
    (challenge response response' : Nat) :
    isValid suite (c.shift m a response response') auxiliary ⟨challenge, [response, response']⟩ =
      isValid suite c auxiliary ⟨challenge, [response, response']⟩ := by
  have image := image_shift root a response response'
  have map := map_shift root' m response response'
  have tree : (c.shift m a response response').transcript
      ((c.shift m a response response').recommit challenge response response') auxiliary =
        c.transcript (c.recommit challenge response response') auxiliary := by
    rw [Claim.transcript, Claim.recommit, image, map]
    rfl
  simp only [isValid, tree]
  rfl

end PlaintextEqualityProof
end ControlComponent
