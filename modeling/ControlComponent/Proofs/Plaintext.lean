import ControlComponent.Proofs.Completeness
import ControlComponent.Proofs.Transcript

/-!
Two ciphertexts of one message.

What a plaintext equality is meant to say is that there is a message that both ciphertexts hold,
each under its key. What the proof of it shows is that the map of the claim takes two exponents to
the claim's image, where the message is cancelled. For members both come to the same: the message
can be got back from either ciphertext. So whoever has encrypted one message under two keys can
prove it, and the proof is accepted.
-/

namespace ControlComponent.PlaintextEqualityProof

namespace Claim

/-- The values of a claim. -/
def values (c : Claim) : List Nat := [c.gamma, c.phi, c.key, c.gamma', c.phi', c.key']

/-- The claim about the two ciphertexts of a message, under each of two keys with exponents of their
own. -/
def ofMessage (group : Group) (key key' message r r' : Nat) : Claim where
  group := group
  gamma := group.pow group.g r
  phi := group.mul (group.pow key r) message
  key := key
  gamma' := group.pow group.g r'
  phi' := group.mul (group.pow key' r') message
  key' := key'

variable {c : Claim} {group : Group} {key key' message : Nat}

/-- Both ciphertexts of a member under members consist of members. -/
theorem members_ofMessage (members : group.areMembers [key, key', message] = true) (r r' : Nat) :
    group.areMembers (ofMessage group key key' message r r').values = true := by
  simp only [Group.areMembers_cons] at members
  obtain ⟨member, member', member'', -⟩ := members
  have root := Group.isRoot_of_isMember member
  have root' := Group.isRoot_of_isMember member'
  have root'' := Group.isRoot_of_isMember member''
  have generator := group.isRoot_generator
  simp only [values, Group.areMembers_cons]
  exact ⟨generator.isMember_pow r, (root.pow r).isMember_mul root'', member,
    generator.isMember_pow r', (root'.pow r').isMember_mul root'', member', Group.areMembers_nil⟩

/-- Instead of dividing the second values and the masks, both can be multiplied crosswise. -/
theorem image_eq_map_iff_crosswise (members : c.group.areMembers c.values = true) {r r' : Nat} :
    c.image = c.map r r' ↔
      c.gamma = c.group.pow c.group.g r ∧ c.gamma' = c.group.pow c.group.g r' ∧
        c.group.mul c.phi (c.group.pow c.key' r') = c.group.mul (c.group.pow c.key r) c.phi' := by
  simp only [values, Group.areMembers_cons] at members
  obtain ⟨-, -, -, -, member, member', -⟩ := members
  have root := Group.isRoot_of_isMember member
  have root' := Group.isRoot_of_isMember member'
  simp only [image, map, List.cons.injEq, and_true, root.mul_inv_eq_iff (root'.pow r')]

/-- **What the map shows.** Two exponents are taken to the image of a claim about members if and
only if both ciphertexts hold one message, encrypted with these exponents. -/
theorem image_eq_map_iff (members : c.group.areMembers c.values = true) {r r' : Nat} :
    c.image = c.map r r' ↔
      ∃ m, c.group.isMember m = true ∧ c = ofMessage c.group c.key c.key' m r r' := by
  rw [image_eq_map_iff_crosswise members]
  obtain ⟨group, gamma, phi, key, gamma', phi', key'⟩ := c
  simp only [values, Group.areMembers_cons] at members
  obtain ⟨-, member, memberKey, -, member', -, -⟩ := members
  obtain ⟨reduced, root⟩ := Group.isMember_iff_isRoot.1 member
  have reduced' := (Group.isMember_iff_isRoot.1 member').1
  have mask := (Group.isRoot_of_isMember memberKey).pow r
  simp only [ofMessage, mk.injEq, true_and, and_true]
  constructor
  · rintro ⟨rfl, rfl, crosswise⟩
    -- The message is what the first ciphertext holds without its mask.
    refine ⟨group.mul phi (group.inv (group.pow key r)), ?_, rfl, ?_, rfl, ?_⟩
    · exact root.isMember_mul mask.inv
    · exact (mask.mul_mul_inv_cancel reduced).symm
    · have unmasked := congrArg (group.mul · (group.inv (group.pow key r))) crosswise
      rw [mask.mul_mul_inv reduced'] at unmasked
      rw [← unmasked]
      apply Group.eq_of_residue (group.mul_lt _ _) (group.mul_lt _ _)
      simp only [Group.residue_mul]
      ring
  · rintro ⟨m, -, rfl, rfl, rfl, rfl⟩
    refine ⟨rfl, rfl, ?_⟩
    apply Group.eq_of_residue (group.mul_lt _ _) (group.mul_lt _ _)
    simp only [Group.residue_mul, Group.residue_pow]
    ring

end Claim

/-- **Whoever has encrypted one message under two keys can prove it.** With any randomness there is
a proof, and it is accepted, whatever numbers it was made with. -/
theorem verify_generate_ofMessage (suite : Suite) (group : Group) {key key' message : Nat}
    (members : group.areMembers [key, key', message] = true) (r r' : Nat)
    (auxiliary : List String) :
    let c := Claim.ofMessage group key key' message r r'
    (∀ randomness, ∃ proof rest,
      generate suite c.statement r r' auxiliary randomness = .ok (proof, rest) ∧
        proof.verify suite c.statement auxiliary = .ok true) ∧
    ∀ nonce nonce',
      (prove suite c r r' auxiliary nonce nonce').verify suite c.statement auxiliary =
        .ok true := by
  intro c
  have roots := Group.isRoot_of_areMembers members
  have root : c.group.IsRoot c.key := roots key (by simp)
  have root' : c.group.IsRoot c.key' := roots key' (by simp)
  have member : group.isMember message = true := List.all_eq_true.1 members message (by simp)
  have image : c.image = c.map r r' :=
    (Claim.image_eq_map_iff (Claim.members_ofMessage members r r')).2 ⟨message, member, rfl⟩
  have verified : ∀ nonce nonce', (prove suite c r r' auxiliary nonce nonce').verify suite
      c.statement auxiliary = .ok true := by
    intro nonce nonce'
    rw [verify_statement, isValid_prove suite root root' image]
  refine ⟨fun randomness => ?_, verified⟩
  obtain ⟨proof, rest, generated⟩ :=
    exists_generate suite (Statement.claim_eq_ok.2 rfl) r r' auxiliary randomness
  obtain ⟨c', nonce, nonce', claimed, rfl⟩ := exists_prove generated
  cases claimed.symm.trans (Statement.claim_eq_ok.2 rfl)
  exact ⟨_, rest, generated, verified nonce nonce'⟩

/-- Neither number of a group has to be prime: here they are 25 and 12, and the message 7 is
encrypted under 18 and under 24. -/
theorem verify_generate_ofMessage_of_composite :
    let group : Group := ⟨25, 12, 7, by decide, by decide, by decide, by decide, by decide⟩
    let c := Claim.ofMessage group 18 24 7 5 3
    group.areMembers [18, 24, 7] = true ∧
      (∀ randomness, ∃ proof rest,
        generate Suite.standard c.statement 5 3 ["one"] randomness = .ok (proof, rest) ∧
          proof.verify Suite.standard c.statement ["one"] = .ok true) ∧
      ∀ nonce nonce', (prove Suite.standard c 5 3 ["one"] nonce nonce').verify Suite.standard
        c.statement ["one"] = .ok true := by
  intro group c
  have members : group.areMembers [18, 24, 7] = true := by decide
  exact ⟨members, verify_generate_ofMessage Suite.standard group members 5 3 ["one"]⟩

end ControlComponent.PlaintextEqualityProof
