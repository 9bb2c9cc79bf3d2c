import ControlComponent.Node.VoteCheck
import ControlComponent.Proofs.Codes
import ControlComponent.Proofs.Completeness
import ControlComponent.Proofs.Examined
import ControlComponent.Proofs.Transcript

/-!
What becomes of an honest vote.

A voter encrypts the product of the chosen options under the election key and raises the ciphertext
to the secret key, encrypts each raised option under one value of the choice codes key, and proves
that the first ciphertext and the product of the others hold the same. The key of the second is the
product of the values that were used, the first ones of the choice codes key.

The check of the vote takes the product of all values of the choice codes key instead. If all of
them were used, every honest vote passes. If some were not, the check rebuilds a commitment that
differs from the voter's by a power of the unused values, and the vote passes only if both
commitments happen to lead to one challenge.
-/

namespace ControlComponent

open Message (Vote)

/-! ### Ciphertexts -/

namespace ElGamal

variable {group : Group}

/-- The product of the masked messages is the masked product. -/
theorem residue_product_masked (r : Nat) (messages : List Element) (values : List Nat)
    (short : messages.length ≤ values.length) :
    (group.product (List.zipWith (fun m h => group.mul (group.pow h r) m.value) messages values) :
        ZMod group.p) =
      (group.product (values.take messages.length) : ZMod group.p) ^ r *
        (group.product (messages.map (·.value)) : ZMod group.p) := by
  simp only [Group.residue_product]
  induction messages generalizing values with
  | nil => simp
  | cons m rest ih =>
    cases values with
    | nil => cases short
    | cons h values =>
      simp only [List.zipWith_cons_cons, List.map_cons, List.prod_cons, List.length_cons,
        List.take_succ_cons, Group.residue_mul, Group.residue_pow,
        ih values (Nat.le_of_succ_le_succ short)]
      ring

end ElGamal

/-! ### Keys with too many values -/

namespace PlaintextEqualityProof

variable {c : Claim} {secret secret' : Nat}

/-- A key that is multiplied by a value divides the last value of the commitment by its power. -/
theorem recommit_mul_key' {first second third e z z' : Nat}
    (commitment : c.recommit e z z' = [first, second, third]) (v : Nat) :
    { c with key' := c.group.mul c.key' v }.recommit e z z' =
      [first, second, c.group.mul third (c.group.inv (c.group.pow v z'))] := by
  simp only [Claim.recommit, Claim.map, Claim.image, List.zipWith_cons_cons, List.zipWith_nil_left,
    List.cons.injEq, and_true] at commitment ⊢
  obtain ⟨rfl, rfl, rfl⟩ := commitment
  refine ⟨rfl, rfl, Group.eq_of_residue (c.group.mul_lt _ _) (c.group.mul_lt _ _) ?_⟩
  simp only [Group.residue_mul, Group.residue_inv, Group.residue_pow]
  ring

/-- A proof under such a key is valid if the changed commitment leads to the same challenge. -/
theorem isValid_prove_mul_key' (suite : Suite) (root : c.group.IsRoot c.key)
    (root' : c.group.IsRoot c.key') (image : c.image = c.map secret secret')
    (auxiliary : List String) {nonce nonce' first second third challenge : Nat}
    (commitment : c.map nonce nonce' = [first, second, third])
    (challenge_eq : challenge =
      suite.hashToExponent (c.transcript [first, second, third] auxiliary) c.group) (v : Nat) :
    isValid suite { c with key' := c.group.mul c.key' v } auxiliary
        (prove suite c secret secret' auxiliary nonce nonce') = true ↔
      suite.hashToExponent (c.transcript [first, second, c.group.mul third (c.group.inv
        (c.group.pow v (Proof.respond c.group nonce' challenge secret')))] auxiliary) c.group =
        challenge := by
  have bound : challenge < c.group.q := challenge_eq ▸ suite.hashToExponent_lt _ _
  have bound' : ∀ n x, Proof.respond c.group n challenge x < c.group.q := fun n x =>
    Proof.respond_lt c.group n challenge x
  have rebuilt := recommit_respond root root' image challenge nonce nonce'
  rw [commitment] at rebuilt
  rw [prove, commitment, ← challenge_eq]
  simp only [isValid, recommit_mul_key' rebuilt, bound, bound', decide_true, Bool.true_and,
    beq_iff_eq]
  rfl

end PlaintextEqualityProof

/-! ### Ballots -/

/-- What a voter makes a vote from: the two public keys, the chosen options, the secret key, and the
randomness of both encryptions and of the proof. -/
structure Ballot where
  eventKey : ElGamal.PublicKey
  codesKey : ElGamal.PublicKey
  options : List Nat
  secret : Nat
  r : Nat
  r' : Nat
  randomness : Randomness

namespace Ballot

/-- Whether keys and options are members of one group. -/
structure InGroup (ballot : Ballot) (group : Group) : Prop where
  eventKey : ballot.eventKey.group = group
  codesKey : ballot.codesKey.group = group
  eventKey_members : group.areMembers ballot.eventKey.values = true
  codesKey_members : group.areMembers ballot.codesKey.values = true
  options_members : group.areMembers ballot.options = true

/-- The options raised to the secret key. -/
def codes (ballot : Ballot) : List Element :=
  ballot.codesKey.group.lift (ballot.options.map (ballot.codesKey.group.pow · ballot.secret))

/-- The product of the values of the choice codes key that the voter uses. -/
def used (ballot : Ballot) : Nat :=
  ballot.codesKey.group.product (ballot.codesKey.values.take ballot.options.length)

/-- The product of the values of the choice codes key that the voter leaves out. -/
def unused (ballot : Ballot) : Nat :=
  ballot.codesKey.group.product (ballot.codesKey.values.drop ballot.options.length)

/-- What the voter proves of the raised ciphertext and the ciphertext of the raised options. -/
def statement (ballot : Ballot) (c d : ElGamal.Ciphertext) : PlaintextEqualityProof.Statement where
  primary := c
  primaryKey := ballot.eventKey.first
  secondary := ⟨d.group, d.gamma, [d.group.product d.phis]⟩
  secondaryKey := ⟨ballot.codesKey.group, ballot.used⟩

/-- Whether `c` is the ciphertext of a ballot's options and `d` that of its raised options. -/
structure Encrypts (ballot : Ballot) (c d : ElGamal.Ciphertext) : Prop where
  encrypted : ElGamal.encrypt ballot.eventKey
    [⟨ballot.eventKey.group, ballot.eventKey.group.product ballot.options⟩] ballot.r = .ok c
  encryptedCodes : ElGamal.encrypt ballot.codesKey ballot.codes ballot.r' = .ok d

/-- Whether a vote is made from a ballot and its ciphertexts. -/
structure Makes (suite : Suite) (ballot : Ballot) (c d : ElGamal.Ciphertext) (vote : Vote) : Prop
    extends ballot.Encrypts c d where
  exponentiatedOptions : vote.exponentiatedOptions =
    (c.pow ballot.secret).gamma :: (c.pow ballot.secret).phis
  encryptedPartialCodes : vote.encryptedPartialCodes = d.gamma :: d.phis
  proved : ∃ rest, PlaintextEqualityProof.generate suite
    (ballot.statement (c.pow ballot.secret) d) (ballot.r * ballot.secret % c.group.q) ballot.r'
    vote.auxiliary ballot.randomness = .ok (vote.plaintextEqualityProof, rest)

/-! ### What the voter claims -/

/-- The raised options, each masked with one value of the choice codes key. -/
def maskedCodes (ballot : Ballot) (group : Group) : List Nat :=
  List.zipWith (fun m h => group.mul (group.pow h ballot.r') m.value) ballot.codes
    ballot.codesKey.values

/-- The values of what the voter proves. -/
def claim (ballot : Ballot) (group : Group) : PlaintextEqualityProof.Claim where
  group := group
  gamma := group.pow (group.pow group.g ballot.r) ballot.secret
  phi := group.pow (group.mul (group.pow ballot.eventKey.first.value ballot.r)
    (group.product ballot.options)) ballot.secret
  key := ballot.eventKey.first.value
  gamma' := group.pow group.g ballot.r'
  phi' := group.product (ballot.maskedCodes group)
  key' := ballot.used

variable {suite : Suite} {ballot : Ballot} {group : Group} {c d : ElGamal.Ciphertext} {vote : Vote}

/-- The ciphertexts of a ballot have the values that the voter claims. -/
theorem ciphertexts_of_encrypts (inGroup : ballot.InGroup group) (encrypts : ballot.Encrypts c d) :
    c.pow ballot.secret = ⟨group, (ballot.claim group).gamma, [(ballot.claim group).phi]⟩ ∧
      d = ⟨group, (ballot.claim group).gamma', ballot.maskedCodes group⟩ ∧
      ballot.options ≠ [] ∧ ballot.options.length ≤ ballot.codesKey.values.length := by
  obtain ⟨-, rfl⟩ := ElGamal.encrypt_eq_ok.1 encrypts.encrypted
  obtain ⟨⟨nonempty, short⟩, rfl⟩ := ElGamal.encrypt_eq_ok.1 encrypts.encryptedCodes
  have first : ballot.eventKey.values =
      ballot.eventKey.first.value :: ballot.eventKey.values.tail :=
    (List.cons_head_tail ballot.eventKey.values_ne).symm
  refine ⟨?_, ?_, ?_, ?_⟩
  · rw [ElGamal.Ciphertext.pow, inGroup.eventKey, first]
    rfl
  · rw [inGroup.codesKey]
    rfl
  · simpa [codes, Group.lift] using nonempty
  · simpa [codes, Group.lift] using short

theorem isRoot_used (inGroup : ballot.InGroup group) : group.IsRoot ballot.used := by
  rw [used, inGroup.codesKey]
  exact Group.isRoot_product fun v mem =>
    Group.isRoot_of_areMembers inGroup.codesKey_members v (List.mem_of_mem_take mem)

theorem isRoot_unused (inGroup : ballot.InGroup group) : group.IsRoot ballot.unused := by
  rw [unused, inGroup.codesKey]
  exact Group.isRoot_product fun v mem =>
    Group.isRoot_of_areMembers inGroup.codesKey_members v (List.mem_of_mem_drop mem)

/-- The choice codes key as a whole is what was used and what was not. -/
theorem compress_codesKey (inGroup : ballot.InGroup group) :
    ballot.codesKey.compress = ⟨group, group.mul ballot.used ballot.unused⟩ := by
  have whole := List.take_append_drop ballot.options.length ballot.codesKey.values
  rw [ElGamal.PublicKey.compress, used, unused, inGroup.codesKey, Element.mk.injEq]
  refine ⟨rfl, Group.eq_of_residue (group.product_lt _) (group.mul_lt _ _) ?_⟩
  rw [Group.residue_mul, Group.residue_product, Group.residue_product, Group.residue_product,
    ← List.prod_append, ← List.map_append, whole]

/-- The raised options are roots. -/
theorem isRoot_codes (inGroup : ballot.InGroup group) :
    ∀ m ∈ ballot.codes, group.IsRoot m.value := by
  rw [codes, inGroup.codesKey]
  intro m mem
  simp only [Group.lift, List.map_map, List.mem_map] at mem
  obtain ⟨o, mem, rfl⟩ := mem
  exact (Group.isRoot_of_areMembers inGroup.options_members o mem).pow ballot.secret

theorem members_maskedCodes (inGroup : ballot.InGroup group) :
    group.areMembers (ballot.maskedCodes group) = true :=
  ElGamal.members_masked ballot.r' (isRoot_codes inGroup)
    (Group.isRoot_of_areMembers inGroup.codesKey_members)

/-- The product of the raised options is the raised product. -/
theorem residue_product_codes (inGroup : ballot.InGroup group) :
    (group.product (ballot.codes.map (·.value)) : ZMod group.p) =
      (group.product ballot.options : ZMod group.p) ^ ballot.secret := by
  rw [codes, inGroup.codesKey]
  simp only [Group.lift, List.map_map, Group.residue_product]
  rw [← powMonoidHom_apply, ← List.prod_hom, List.map_map]
  congr 2
  funext o
  exact group.residue_pow o ballot.secret

/-- What the voter claims is so: both ciphertexts hold the raised product. -/
theorem image_claim (inGroup : ballot.InGroup group)
    (short : ballot.options.length ≤ ballot.codesKey.values.length) :
    (ballot.claim group).image =
      (ballot.claim group).map (ballot.r * ballot.secret % group.q) ballot.r' := by
  have root : group.IsRoot ballot.eventKey.first.value :=
    Group.isRoot_of_areMembers inGroup.eventKey_members _ (List.head_mem _)
  have product : group.IsRoot (group.product (ballot.maskedCodes group)) :=
    Group.isRoot_product (Group.isRoot_of_areMembers (members_maskedCodes inGroup))
  have power : group.IsRoot (group.pow ballot.used ballot.r') := (isRoot_used inGroup).pow _
  have lengths : ballot.codes.length = ballot.options.length := by simp [codes, Group.lift]
  have masked : (group.product (ballot.maskedCodes group) : ZMod group.p) =
      (ballot.used : ZMod group.p) ^ ballot.r' *
        (group.product ballot.options : ZMod group.p) ^ ballot.secret := by
    rw [maskedCodes, ElGamal.residue_product_masked _ _ _ (lengths ▸ short),
      residue_product_codes inGroup, lengths, used, inGroup.codesKey]
  simp only [PlaintextEqualityProof.Claim.image, PlaintextEqualityProof.Claim.map, claim,
    List.cons.injEq, and_true, true_and]
  constructor
  · refine Group.eq_of_residue (group.pow_lt _ _) (group.pow_lt _ _) ?_
    simp only [Group.residue_pow, group.isRoot_generator.pow_mod, pow_mul]
  · refine (product.mul_inv_eq_iff power).2 ?_
    refine Group.eq_of_residue (group.mul_lt _ _) (group.mul_lt _ _) ?_
    simp only [Group.residue_mul, Group.residue_pow, root.pow_mod, masked]
    ring

/-- The statement about the ciphertexts makes the voter's claim. -/
theorem claim_statement (inGroup : ballot.InGroup group) (encrypts : ballot.Encrypts c d) :
    (ballot.statement (c.pow ballot.secret) d).claim = .ok (ballot.claim group) := by
  obtain ⟨raised, codes, -, -⟩ := ciphertexts_of_encrypts inGroup encrypts
  refine PlaintextEqualityProof.Statement.claim_eq_ok.2 ?_
  rw [statement, raised, codes, inGroup.codesKey, ElGamal.PublicKey.first, inGroup.eventKey]
  rfl

/-- A vote can be made from every ballot with one option or more, and no more of them than the
choice codes key has values, for any event and any card. -/
theorem exists_makes (suite : Suite) (inGroup : ballot.InGroup group)
    (nonempty : ballot.options ≠ [])
    (short : ballot.options.length ≤ ballot.codesKey.values.length) (vote : Vote) :
    ∃ c d vote', ballot.Makes suite c d vote' ∧ vote'.auxiliary = vote.auxiliary := by
  have one : 1 ≤ ballot.eventKey.values.length :=
    List.length_pos_iff.2 ballot.eventKey.values_ne
  obtain ⟨c, encrypted⟩ : ∃ c, ElGamal.encrypt ballot.eventKey
      [⟨ballot.eventKey.group, ballot.eventKey.group.product ballot.options⟩] ballot.r = .ok c :=
    ⟨_, ElGamal.encrypt_eq_ok.2 ⟨⟨by simp, one⟩, rfl⟩⟩
  obtain ⟨d, encryptedCodes⟩ :
      ∃ d, ElGamal.encrypt ballot.codesKey ballot.codes ballot.r' = .ok d :=
    ⟨_, ElGamal.encrypt_eq_ok.2 ⟨⟨by simpa [codes, Group.lift] using nonempty,
      by simpa [codes, Group.lift] using short⟩, rfl⟩⟩
  have encrypts : ballot.Encrypts c d := ⟨encrypted, encryptedCodes⟩
  obtain ⟨proof, rest, generated⟩ := PlaintextEqualityProof.exists_generate suite
    (claim_statement inGroup encrypts) (ballot.r * ballot.secret % c.group.q) ballot.r'
    vote.auxiliary ballot.randomness
  exact ⟨c, d, { vote with
      exponentiatedOptions := (c.pow ballot.secret).gamma :: (c.pow ballot.secret).phis
      encryptedPartialCodes := d.gamma :: d.phis
      plaintextEqualityProof := proof }, ⟨encrypts, rfl, rfl, rest, generated⟩, rfl⟩

/-- The proof of a vote is one that the prover makes of the claim. -/
theorem exists_prove (inGroup : ballot.InGroup group) (makes : ballot.Makes suite c d vote) :
    ∃ nonce nonce', vote.plaintextEqualityProof =
      PlaintextEqualityProof.prove suite (ballot.claim group)
        (ballot.r * ballot.secret % group.q) ballot.r' vote.auxiliary nonce nonce' := by
  obtain ⟨-, made⟩ := ElGamal.encrypt_eq_ok.1 makes.encrypted
  obtain ⟨rest, generated⟩ := makes.proved
  obtain ⟨claim, nonce, nonce', claimed, proof⟩ := PlaintextEqualityProof.exists_prove generated
  cases claimed.symm.trans (claim_statement inGroup makes.toEncrypts)
  rw [made, inGroup.eventKey] at proof
  exact ⟨nonce, nonce', proof⟩

/-! ### The check -/

/-- All values of the voter's claim are members, one by one. -/
theorem members_claim (inGroup : ballot.InGroup group) :
    group.areMembers [(ballot.claim group).gamma, (ballot.claim group).phi] = true ∧
      group.areMembers ((ballot.claim group).gamma' :: ballot.maskedCodes group) = true := by
  have root : group.IsRoot ballot.eventKey.first.value :=
    Group.isRoot_of_areMembers inGroup.eventKey_members _ (List.head_mem _)
  have product : group.IsRoot (group.product ballot.options) :=
    Group.isRoot_product (Group.isRoot_of_areMembers inGroup.options_members)
  have gamma := (group.isRoot_generator.pow ballot.r).isMember_pow ballot.secret
  have phi := ((root.pow ballot.r).mul product).isMember_pow ballot.secret
  have gamma' := group.isRoot_generator.isMember_pow ballot.r'
  have masked := members_maskedCodes inGroup
  simp only [Group.areMembers_cons, Group.areMembers_nil, and_true]
  exact ⟨⟨gamma, phi⟩, gamma', masked⟩

/-- What is checked of a vote is the voter's claim with the product of the whole choice codes key in
the place of the values used. -/
theorem checkPlaintextEquality_of_makes (inGroup : ballot.InGroup group)
    (makes : ballot.Makes suite c d vote) :
    VoteCheck.checkPlaintextEquality suite group vote ballot.eventKey ballot.codesKey =
      .ofVerification (.ok (PlaintextEqualityProof.isValid suite
        { ballot.claim group with key' := group.mul ballot.used ballot.unused } vote.auxiliary
        vote.plaintextEqualityProof)) := by
  obtain ⟨raised, masked, nonempty, short⟩ := ciphertexts_of_encrypts inGroup makes.toEncrypts
  obtain ⟨members, members'⟩ := members_claim inGroup
  have options : vote.exponentiatedOptions =
      [(ballot.claim group).gamma, (ballot.claim group).phi] := by
    rw [makes.exponentiatedOptions, raised]
  have codes : vote.encryptedPartialCodes =
      (ballot.claim group).gamma' :: ballot.maskedCodes group := by
    rw [makes.encryptedPartialCodes, masked]
  have product : (ballot.claim group).phi' = group.product (ballot.maskedCodes group) := rfl
  obtain ⟨phi, phis, several⟩ : ∃ phi phis, ballot.maskedCodes group = phi :: phis := by
    obtain ⟨o, options, eq⟩ := List.exists_cons_of_ne_nil nonempty
    obtain ⟨h, values, eq'⟩ := List.exists_cons_of_ne_nil ballot.codesKey.values_ne
    exact ⟨_, _, by rw [maskedCodes, Ballot.codes, eq, eq', List.map_cons]; rfl⟩
  have first : ballot.eventKey.first = ⟨group, (ballot.claim group).key⟩ := by
    rw [ElGamal.PublicKey.first, inGroup.eventKey]
    rfl
  rw [← PlaintextEqualityProof.verify_statement, VoteCheck.checkPlaintextEquality, options, codes,
    first, compress_codesKey inGroup]
  rw [several] at members' product ⊢
  simp only [members, members', Bool.and_self, if_true, PlaintextEqualityProof.Claim.statement,
    product]
  rfl

/-- A voter commits to three values, the last of which is a quotient of members. -/
theorem exists_commitment (inGroup : ballot.InGroup group) (nonce nonce' : Nat) :
    ∃ first second third, (ballot.claim group).map nonce nonce' = [first, second, third] ∧
      group.IsRoot third ∧ third < group.p := by
  have root : group.IsRoot ballot.eventKey.first.value :=
    Group.isRoot_of_areMembers inGroup.eventKey_members _ (List.head_mem _)
  have root' : group.IsRoot ballot.used := isRoot_used inGroup
  exact ⟨_, _, _, rfl, (root.pow nonce).mul (root'.pow nonce').inv, group.mul_lt _ _⟩

/-- A vote passes if the commitment without the unused values leads to the voter's challenge. -/
theorem passes_iff (inGroup : ballot.InGroup group) (makes : ballot.Makes suite c d vote)
    {nonce nonce' first second third challenge : Nat}
    (proof : vote.plaintextEqualityProof =
      PlaintextEqualityProof.prove suite (ballot.claim group)
        (ballot.r * ballot.secret % group.q) ballot.r' vote.auxiliary nonce nonce')
    (commitment : (ballot.claim group).map nonce nonce' = [first, second, third])
    (challenge_eq : challenge = suite.hashToExponent
      ((ballot.claim group).transcript [first, second, third] vote.auxiliary) group) :
    VoteCheck.checkPlaintextEquality suite group vote ballot.eventKey ballot.codesKey = .valid ↔
      suite.hashToExponent ((ballot.claim group).transcript [first, second, group.mul third
        (group.inv (group.pow ballot.unused (Proof.respond group nonce' challenge ballot.r')))]
        vote.auxiliary) group = challenge := by
  obtain ⟨-, -, -, short⟩ := ciphertexts_of_encrypts inGroup makes.toEncrypts
  have root : group.IsRoot ballot.eventKey.first.value :=
    Group.isRoot_of_areMembers inGroup.eventKey_members _ (List.head_mem _)
  rw [checkPlaintextEquality_of_makes inGroup makes, ProofCheck.ofVerification_eq_valid,
    Except.ok.injEq, proof]
  exact PlaintextEqualityProof.isValid_prove_mul_key' suite root (isRoot_used inGroup)
    (image_claim inGroup short) vote.auxiliary commitment challenge_eq ballot.unused

/-- If all values of the choice codes key are used, dividing by a power of the others changes
nothing. -/
theorem pow_unused_eq_one (all : ballot.options.length = ballot.codesKey.values.length)
    (e : Nat) : group.pow ballot.unused e = 1 := by
  have one : ballot.unused = 1 := by
    rw [unused, all, List.drop_length]
    rfl
  rw [one, Group.pow, Modular.power_eq, Nat.one_pow, Nat.mod_eq_of_lt group.one_lt_p]

/-- **When an honest vote passes the check of plaintext equality.** The commitment that the check
rebuilds differs from the voter's in the last value, which is divided by a power of the unused
values of the choice codes key. So the vote passes if and only if both commitments lead to one
challenge. What is hashed for them is the same only if that power is one, as it is if all values are
used: then every honest vote passes. -/
theorem honest_vote_passes_iff (inGroup : ballot.InGroup group)
    (makes : ballot.Makes suite c d vote) :
    ∃ claim first second third response response',
      (ballot.statement (c.pow ballot.secret) d).claim = .ok claim ∧
      vote.plaintextEqualityProof =
        ⟨suite.hashToExponent (claim.transcript [first, second, third] vote.auxiliary) group,
          [response, response']⟩ ∧
      (VoteCheck.checkPlaintextEquality suite group vote ballot.eventKey ballot.codesKey = .valid ↔
        suite.hashToExponent (claim.transcript [first, second, group.mul third
            (group.inv (group.pow ballot.unused response'))] vote.auxiliary) group =
          suite.hashToExponent (claim.transcript [first, second, third] vote.auxiliary) group) ∧
      (claim.transcript [first, second, group.mul third
            (group.inv (group.pow ballot.unused response'))] vote.auxiliary =
          claim.transcript [first, second, third] vote.auxiliary ↔
        group.pow ballot.unused response' = 1) ∧
      (ballot.options.length = ballot.codesKey.values.length →
        VoteCheck.checkPlaintextEquality suite group vote ballot.eventKey ballot.codesKey =
          .valid) := by
  obtain ⟨nonce, nonce', proof⟩ := exists_prove inGroup makes
  obtain ⟨first, second, third, commitment, quotient, reduced⟩ :=
    exists_commitment inGroup nonce nonce'
  generalize challenge_eq : suite.hashToExponent
    ((ballot.claim group).transcript [first, second, third] vote.auxiliary) group = challenge
  have passes := passes_iff inGroup makes proof commitment challenge_eq.symm
  have made : vote.plaintextEqualityProof = ⟨challenge,
      [Proof.respond group nonce challenge (ballot.r * ballot.secret % group.q),
        Proof.respond group nonce' challenge ballot.r']⟩ := by
    rw [proof, PlaintextEqualityProof.prove, commitment, ← challenge_eq]
    rfl
  generalize Proof.respond group nonce' challenge ballot.r' = response' at passes made
  have same : (ballot.claim group).transcript [first, second, group.mul third
        (group.inv (group.pow ballot.unused response'))] vote.auxiliary =
      (ballot.claim group).transcript [first, second, third] vote.auxiliary ↔
        group.pow ballot.unused response' = 1 :=
    PlaintextEqualityProof.transcript_div_iff quotient reduced
      ((isRoot_unused inGroup).pow response') (group.pow_lt _ _)
  refine ⟨ballot.claim group, first, second, third, _, response',
    claim_statement inGroup makes.toEncrypts, challenge_eq ▸ made, challenge_eq ▸ passes, same,
    fun all => passes.2 ?_⟩
  rw [same.2 (pow_unused_eq_one all response'), challenge_eq]

end Ballot

/-! ### An honest vote that is refused -/

namespace Small

/-- The functions with digests that are what is hashed. -/
def plainSuite : Suite := { suite with hash := HashTree.digestWith id }

/-- A ballot with one option and a choice codes key of two values. -/
def ballot : Ballot where
  eventKey := ⟨group, [2], by decide⟩
  codesKey := ⟨group, [3, 4], by decide⟩
  options := [8]
  secret := 3
  r := 5
  r' := 7
  randomness := stream 48

/-- The vote that is made from the ballot. -/
def honestVote : Vote :=
  { readVote with
    exponentiatedOptions := [16, 4]
    encryptedPartialCodes := [13, 12]
    plaintextEqualityProof := ⟨1, [7, 10]⟩ }

theorem inGroup_ballot : ballot.InGroup group :=
  ⟨rfl, rfl, by decide +kernel, by decide +kernel, by decide +kernel⟩

theorem makes_honestVote :
    ballot.Makes plainSuite ⟨group, 9, [3]⟩ ⟨group, 13, [12]⟩ honestVote where
  encrypted := toOption_eq_some.1 (by decide +kernel)
  encryptedCodes := toOption_eq_some.1 (by decide +kernel)
  exponentiatedOptions := by decide +kernel
  encryptedPartialCodes := rfl
  proved := by
    have proof : (PlaintextEqualityProof.generate plainSuite
        (ballot.statement (ElGamal.Ciphertext.pow ⟨group, 9, [3]⟩ 3) ⟨group, 13, [12]⟩) 4 7
        honestVote.auxiliary (stream 48)).map Prod.fst = .ok honestVote.plaintextEqualityProof :=
      toOption_eq_some.1 (by decide +kernel)
    obtain ⟨⟨proof, rest⟩, generated, rfl⟩ := map_eq_ok.1 proof
    exact ⟨rest, generated⟩

end Small

/-- An honest vote that uses one of two values of the choice codes key is refused: the commitments
lead to two challenges. -/
theorem Ballot.exists_honest_vote_refused :
    Small.ballot.InGroup Small.group ∧
    Small.ballot.Makes Small.plainSuite ⟨Small.group, 9, [3]⟩ ⟨Small.group, 13, [12]⟩
      Small.honestVote ∧
    VoteCheck.checkPlaintextEquality Small.plainSuite Small.group Small.honestVote
      Small.ballot.eventKey Small.ballot.codesKey = .invalid ∧
    ∃ claim : PlaintextEqualityProof.Claim, ∃ first second third response',
      Small.plainSuite.hashToExponent (claim.transcript [first, second, Small.group.mul third
          (Small.group.inv (Small.group.pow Small.ballot.unused response'))]
          Small.honestVote.auxiliary) Small.group ≠
        Small.plainSuite.hashToExponent (claim.transcript [first, second, third]
          Small.honestVote.auxiliary) Small.group := by
  have refused : VoteCheck.checkPlaintextEquality Small.plainSuite Small.group Small.honestVote
      Small.ballot.eventKey Small.ballot.codesKey = .invalid := by decide +kernel
  obtain ⟨claim, first, second, third, response, response', -, -, passes, -, -⟩ :=
    honest_vote_passes_iff Small.inGroup_ballot Small.makes_honestVote
  refine ⟨Small.inGroup_ballot, Small.makes_honestVote, refused, claim, first, second, third,
    response', ?_⟩
  intro collision
  cases refused.symm.trans (passes.2 collision)

end ControlComponent
