import Mathlib.Tactic.NormNum.Prime
import ControlComponent.Node.Statement
import ControlComponent.Proofs.Answer
import ControlComponent.Proofs.Completeness
import ControlComponent.Proofs.Examined
import ControlComponent.Proofs.Small

/-!
Every proof in a reply verifies.

Prover and verifier make their lists of bases and images apart from each other, each from what it
has at hand. Here the statements that anyone can rebuild from a request and its response are
compared with the ones that the node has proved. The three engines differ in what makes the bases
roots: ciphertexts are checked to be members before they are raised, the decrypted value is one of
the request's members, and the hashes of the voting phase are squares.
-/

namespace ControlComponent

namespace Node

open Message.Computation

/-- Whether a proof verifies against a claimed statement. -/
def Claimed.Verifies (suite : Suite) (c : Claimed) (proof : ExponentiationProof) : Prop :=
  proof.verify suite c.statement c.auxiliary = .ok true

variable {suite : Suite} {keys : Key.Service} {nodeId : Nat}

/-! ### Generation -/

theorem Generation.verifies_of_answers {master : Nat} (response : Message.Generation.Response)
    {input : Message.Generation.Input} {output : Message.Generation.Output}
    (answers : Answers suite response.group master response.electionId response.nodeId input
      output) :
    (claims response input output).1.Verifies suite output.partialCodesProof ∧
      (claims response input output).2.Verifies suite output.confirmationKeyProof := by
  obtain ⟨ready, nonce, nonce', prepared, rfl⟩ := answers
  have roots : ∀ values, response.group.areMembers values = true →
      ∀ b ∈ response.group.g :: values, response.group.IsRoot b := by
    intro values members b mem
    rcases List.mem_cons.1 mem with rfl | mem
    · exact response.group.isRoot_generator
    · exact Group.isRoot_of_areMembers members b mem
  simp only [Claimed.Verifies, claims, answer, proveCiphertext, prepared.partialCodes,
    prepared.confirmationKey]
  constructor
  · exact ExponentiationProof.verify_prove suite (roots _ prepared.partialCodes_members) _ _ _
  · exact ExponentiationProof.verify_prove suite (roots _ prepared.confirmationKey_members) _ _ _

/-! ### Decryption -/

/-- The product of a key's powers is the power to its compressed exponent, so that one exponent
takes the generator to the public key and `gamma` to the contributions. -/
theorem Decryption.verifies_of_proves {request : Request} {group : Group} {gamma : Nat}
    {secret : ElGamal.SecretKey} {share : DecryptionShare} (root : group.IsRoot gamma)
    (contributions : share.contributions = secret.exponents.map (group.pow gamma))
    (publicKey : share.publicKey = secret.publicKey.values)
    (proves : Proves suite nodeId request group gamma secret share.proof) :
    (claim group nodeId request.electionId request.cardId gamma share).Verifies suite
      share.proof := by
  obtain ⟨own, exponents, nonempty⟩ := secret
  obtain ⟨r, r', generated⟩ := proves
  obtain ⟨group', grouped, made⟩ := bind_eq_ok.1 generated
  -- A proof is only made if the key is of the group.
  obtain ⟨-, -, same⟩ := ExponentiationProof.Statement.group_eq_ok.1 grouped
  obtain rfl : group = group' := same ⟨group, group.g⟩ (by simp [Group.lift])
  obtain rfl : own = group :=
    same (ElGamal.SecretKey.publicKey ⟨own, exponents, nonempty⟩).compress (by simp)
  have roots : ∀ b ∈ [own.g, gamma], own.IsRoot b := by
    simp [own.isRoot_generator, root]
  have images : [own.product (exponents.map (own.pow own.g)),
      own.product (exponents.map (own.pow gamma))] =
      [own.g, gamma].map (own.pow · (own.sumExponents exponents)) := by
    rw [root.product_pow, own.isRoot_generator.product_pow]
    rfl
  generalize r.below own.q = draw at made
  obtain ⟨nonce, r₁⟩ := draw
  have proof : share.proof = ExponentiationProof.prove suite own [own.g, gamma]
      [own.product (exponents.map (own.pow own.g)), own.product (exponents.map (own.pow gamma))]
      (own.sumExponents exponents)
      (auxiliary request.electionId request.cardId context nodeId) nonce :=
    (congrArg Prod.fst (Except.ok.inj made)).symm
  simp only [Claimed.Verifies, claim, publicKey, contributions, proof, ElGamal.SecretKey.publicKey,
    images]
  exact ExponentiationProof.verify_prove suite roots _ _ _

/-! ### Exponentiation -/

namespace Exponentiation

variable (suite) (group : Group) (electionId cardId : String) (phase : Phase) (values : List Nat)
  (key nonce : Nat) (texts : List String)

/-- What is claimed of shares is what is proved of them. -/
theorem statement_claim :
    (claim suite group nodeId electionId cardId phase
      (shares suite group phase values key texts nonce)).statement =
      ⟨group.lift (group.g :: values.map fun v => (suite.hashAndSquare ⟨group, v⟩).value),
        group.lift ((group.g :: values.map fun v => (suite.hashAndSquare ⟨group, v⟩).value).map
          (group.pow · key))⟩ := by
  cases phase with
  | choice =>
    have publicKey : (shares suite group .choice values key texts nonce).choicePublicKey =
      some (group.pow group.g key) := rfl
    simp [claim, publicKey, shares_eq, Group.lift, Group.generator, Suite.hashAndSquare]
  | voteCast =>
    have publicKey : (shares suite group .voteCast values key texts nonce).voteCastPublicKey =
      some (group.pow group.g key) := rfl
    simp [claim, publicKey, shares_eq, Group.lift, Group.generator, Suite.hashAndSquare]

variable {group} (prime : group.p.Prime)

include prime

theorem verifies_of_prime :
    let share := shares suite group phase values key
      (auxiliary electionId cardId phase.context nodeId) nonce
    (claim suite group nodeId electionId cardId phase share).Verifies suite share.proof := by
  intro share
  have roots : ∀ b ∈ group.g :: values.map fun v => (suite.hashAndSquare ⟨group, v⟩).value,
      group.IsRoot b := by
    intro b mem
    rcases List.mem_cons.1 mem with rfl | mem
    · exact group.isRoot_generator
    · obtain ⟨v, -, rfl⟩ := List.mem_map.1 mem
      exact suite.isRoot_hashAndSquare prime v
  rw [Claimed.Verifies, statement_claim]
  exact ExponentiationProof.verify_prove suite roots key
    (auxiliary electionId cardId phase.context nodeId) nonce

end Exponentiation

/-! ### Replies -/

/-- Every proof of every completed message verifies against the statement that the request and the
response make, with nothing but their group known besides. For the voting phase this is the group of
the card set; there `p` has to be prime, so that the hashes of the values are roots. -/
theorem proofs_verify (suite : Suite) (keys : Key.Service) (nodeId : Nat) :
    (∀ request state response,
      (Generation.process suite keys nodeId request state).result = .ok response →
      response.payload.payload.electionId = request.payload.payload.electionId ∧
      response.payload.payload.group = request.payload.payload.group ∧
      response.payload.payload.nodeId = nodeId ∧
      List.Forall₂
        (fun input output => output.cardId = input.cardId ∧
          (Generation.claims response.payload.payload input output).1.Verifies suite
            output.partialCodesProof ∧
          (Generation.claims response.payload.payload input output).2.Verifies suite
            output.confirmationKeyProof)
        request.payload.payload.inputs response.payload.payload.outputs) ∧
    (∀ found request state response,
      (Decryption.process suite keys nodeId found request state).result = .ok response →
      ∃ input gamma rest share group,
        request.payload = some input ∧ input.elements = some (gamma :: rest) ∧
        response.payload.map (·.payload) = some share ∧
        keys.parameters request.electionId request.setId = .ok group ∧
        (Decryption.claim group nodeId request.electionId request.cardId gamma share).Verifies
          suite share.proof) ∧
    (∀ maxAttempts request state response,
      (Exponentiation.process suite keys nodeId maxAttempts request state).result = .ok response →
      ∃ input share group,
        request.payload = some input ∧ input.elements = some (share.shares.map (·.input)) ∧
        response.payload.map (·.payload) = some share ∧
        keys.parameters request.electionId request.setId = .ok group ∧
        (group.p.Prime →
          (Exponentiation.claim suite group nodeId request.electionId request.cardId (.of input)
            share).Verifies suite share.proof)) := by
  refine ⟨?_, ?_, ?_⟩
  · intro request state response done
    obtain ⟨secret, outputs, signed, authorized, answers, signs, rfl⟩ := Generation.answered done
    obtain ⟨signature, rfl⟩ := signs.exists_signature
    refine ⟨rfl, (Generation.authorize_ok authorized).2.1, rfl, answers.imp ?_⟩
    intro input output answer
    constructor
    · obtain ⟨ready, _, _, prepared, rfl⟩ := answer
      exact prepared.cardId
    · exact Generation.verifies_of_answers _ answer
  · intro found request state response done
    obtain ⟨input, voteInput, group, gamma, secret, share, signed, passed, proves, signs, rfl⟩ :=
      Decryption.answered done
    obtain ⟨signature, rfl⟩ := signs.exists_signature
    obtain ⟨vote, elements, selections, adminBoard, examined⟩ :=
      Decryption.exists_examined passed.examined
    obtain ⟨_, -, consistent⟩ := examined.consistent
    obtain ⟨rest, rfl, members⟩ := Decryption.elements_of_checkConsistency consistent
    have root : group.IsRoot gamma :=
      Group.isRoot_of_isMember (List.all_eq_true.1 members gamma (List.mem_cons_self ..))
    exact ⟨input, gamma, rest, share, group, passed.payload, examined.listed, rfl,
      Decryption.parameters_of_accept passed.accepted,
      Decryption.verifies_of_proves root passed.contributions passed.publicKey proves⟩
  · intro maxAttempts request state response done
    obtain ⟨input, group, record, values, master, share, signed, passed, signs, rfl⟩ :=
      Exponentiation.answered done
    obtain ⟨signature, rfl⟩ := signs.exists_signature
    obtain ⟨key, nonce, derived, rfl⟩ := passed.computed
    refine ⟨input, _, group, passed.payload, ?_, rfl, passed.parameters, ?_⟩
    · rw [Exponentiation.elements_of_examine passed.examined, Exponentiation.shares_eq,
        List.map_map]
      exact congrArg some (List.map_id values).symm
    · intro prime
      exact Exponentiation.verifies_of_prime suite _ _ _ _ _ _ prime

/-- The proofs of three messages of one card verify, one message of each kind. -/
theorem proofs_verify_of_small :
    Small.group.p.Prime ∧
    (∃ generated, (Generation.process Small.suite Small.keyring.service 1
        (Small.generation Small.setA Small.cardC) (.initial .empty (Small.stream 48))).result =
          .ok generated ∧
      List.Forall₂
        (fun input output => output.cardId = input.cardId ∧
          (Generation.claims generated.payload.payload input output).1.Verifies Small.suite
            output.partialCodesProof ∧
          (Generation.claims generated.payload.payload input output).2.Verifies Small.suite
            output.confirmationKeyProof)
        (Small.generation Small.setA Small.cardC).payload.payload.inputs
        generated.payload.payload.outputs) ∧
    (∃ decrypted share, (Decryption.process Small.suite Small.keyring.service 1
        (Small.registered Small.setA Small.cardC .empty) (Small.decryption Small.setA)
        (.initial (Small.registered Small.setA Small.cardC .empty) (Small.stream 48))).result =
          .ok decrypted ∧
      decrypted.payload.map (·.payload) = some share ∧
      (Decryption.claim Small.group 1 Small.electionId Small.cardC 2 share).Verifies Small.suite
        share.proof) ∧
    (∃ chosen share, (Exponentiation.process Small.suite Small.keyring.service 1 5
        (Small.choice Small.setA) (Small.decrypted Small.setA)).result = .ok chosen ∧
      chosen.payload.map (·.payload) = some share ∧
      (Exponentiation.claim Small.suite Small.group 1 Small.electionId Small.cardC .choice
        share).Verifies Small.suite share.proof) := by
  obtain ⟨generation, decryption, exponentiation⟩ :=
    proofs_verify Small.suite Small.keyring.service 1
  have prime : Small.group.p.Prime := by
    show Nat.Prime 23
    norm_num
  have known : Small.keyring.service.parameters Small.electionId Small.setA = .ok Small.group := rfl
  refine ⟨prime, ?_, ?_, ?_⟩
  · obtain ⟨generated, done⟩ := exists_eq_ok (show (Generation.process Small.suite
      Small.keyring.service 1 (Small.generation Small.setA Small.cardC)
      (.initial .empty (Small.stream 48))).result.isOk = true by decide +kernel)
    exact ⟨generated, done, (generation _ _ _ done).2.2.2⟩
  · obtain ⟨decrypted, done⟩ := Small.exists_response
    obtain ⟨input, gamma, rest, share, group, payload, listed, given, parameters, verifies⟩ :=
      decryption _ _ _ _ done
    cases payload
    cases listed
    cases known.symm.trans parameters
    exact ⟨decrypted, share, done, given, verifies⟩
  · obtain ⟨chosen, done⟩ := exists_eq_ok (show (Exponentiation.process Small.suite
      Small.keyring.service 1 5 (Small.choice Small.setA)
      (Small.decrypted Small.setA)).result.isOk = true by decide +kernel)
    obtain ⟨input, share, group, payload, -, given, parameters, verifies⟩ :=
      exponentiation _ _ _ _ done
    cases payload
    cases known.symm.trans parameters
    exact ⟨chosen, share, done, given, verifies prime⟩

end Node
end ControlComponent
