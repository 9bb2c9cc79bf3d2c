import ControlComponent.Proofs.Answer
import ControlComponent.Proofs.Key.Reachable
import ControlComponent.Proofs.Key.Sealing
import ControlComponent.Proofs.Residue
import ControlComponent.Proofs.Small

/-!
The two phases compute the same return codes.

In the set-up phase a node raises the encrypted hashes of a card's codes to the keys of the card; in
the voting phase it raises the hashes of the codes themselves. The keys of a card are derived anew
each time. That both come to the same is what makes the codes that a voter sees the codes that were
printed: decrypting what was raised gives what the voting phase raises, value by value.
-/

namespace ControlComponent

/-! ### Decryption -/

namespace ElGamal

/-- The messages of a ciphertext: each value is divided by the power of `gamma` that the key's
exponent in its place makes. -/
def SecretKey.decrypt (key : SecretKey) (c : CiphertextValues) : List Nat :=
  List.zipWith (fun phi x => key.group.mul phi (key.group.inv (key.group.pow c.gamma x)))
    c.phis key.exponents

/-- Encryption succeeds with one message or more, and no more than the key has values. -/
theorem encrypt_eq_ok {key : PublicKey} {messages : List Element} {r : Nat} {c : Ciphertext} :
    encrypt key messages r = .ok c ↔
      (messages ≠ [] ∧ messages.length ≤ key.values.length) ∧
      c = ⟨key.group, key.group.pow key.group.g r,
        List.zipWith (fun m h => key.group.mul (key.group.pow h r) m.value) messages
          key.values⟩ := by
  unfold encrypt
  by_cases bad : messages = [] ∨ key.values.length < messages.length
  · rw [if_pos bad]
    constructor
    · rintro ⟨⟩
    · rintro ⟨⟨nonempty, short⟩, -⟩
      rcases bad with empty | long
      · exact absurd empty nonempty
      · exact absurd long (Nat.not_lt.2 short)
  · rw [if_neg bad]
    rw [not_or, Nat.not_lt] at bad
    constructor
    · rintro ⟨⟩
      exact ⟨bad, rfl⟩
    · rintro ⟨-, rfl⟩
      rfl

/-- Masked messages are members if the messages and the key are. -/
theorem members_masked {group : Group} (r : Nat) {messages : List Element} {values : List Nat}
    (roots : ∀ m ∈ messages, group.IsRoot m.value) (roots' : ∀ h ∈ values, group.IsRoot h) :
    group.areMembers
      (List.zipWith (fun m h => group.mul (group.pow h r) m.value) messages values) = true := by
  induction messages generalizing values with
  | nil => rfl
  | cons m rest ih =>
    cases values with
    | nil => rfl
    | cons h values =>
      obtain ⟨root, rest⟩ := List.forall_mem_cons.1 roots
      obtain ⟨root', rest'⟩ := List.forall_mem_cons.1 roots'
      exact Group.areMembers_cons.2 ⟨(root'.pow r).isMember_mul root, ih rest rest'⟩

/-- What masks a message is a power of the generator, and raised to `k` it still is. -/
theorem unmask (group : Group) (m x r k : Nat) :
    group.mul (group.pow (group.mul (group.pow (group.pow group.g x) r) m) k)
        (group.inv (group.pow (group.pow (group.pow group.g r) k) x)) = group.pow m k := by
  have mask : group.pow (group.pow (group.pow group.g r) k) x =
      group.pow group.g (x * r * k) := by
    refine Group.eq_of_residue (group.pow_lt _ _) (group.pow_lt _ _) ?_
    simp only [Group.residue_pow]
    ring
  have masked : group.pow (group.mul (group.pow (group.pow group.g x) r) m) k =
      group.mul (group.pow group.g (x * r * k)) (group.pow m k) := by
    refine Group.eq_of_residue (group.pow_lt _ _) (group.mul_lt _ _) ?_
    simp only [Group.residue_pow, Group.residue_mul]
    ring
  rw [mask, masked]
  exact ((Group.isRoot_generator group).pow _).mul_mul_inv (group.pow_lt _ _)

/-- Decrypting a ciphertext raised to an exponent gives the messages raised to it. -/
theorem decrypt_pow {key : SecretKey} {messages : List Element} {r : Nat} {c : Ciphertext}
    (encrypted : encrypt key.publicKey messages r = .ok c) (k : Nat) :
    key.decrypt (c.pow k).toValues = messages.map fun m => key.group.pow m.value k := by
  obtain ⟨⟨-, short⟩, rfl⟩ := encrypt_eq_ok.1 encrypted
  simp only [SecretKey.decrypt, SecretKey.publicKey, Ciphertext.pow, Ciphertext.toValues,
    List.length_map] at short ⊢
  clear encrypted
  generalize key.exponents = exponents at short
  induction messages generalizing exponents with
  | nil => rfl
  | cons m rest ih =>
    cases exponents with
    | nil => cases short
    | cons x exponents =>
      simp only [List.map_cons, List.zipWith_cons_cons, List.cons.injEq]
      exact ⟨unmask key.group m.value x r k, ih exponents (Nat.le_of_succ_le_succ short)⟩

end ElGamal

namespace Node

open Message.Computation

variable {suite : Suite} {keys : Key.Service}

/-! ### Set-up -/

namespace Generation

open Message.Generation

/-- Whether the ciphertexts of a card hold the hashes of its codes and of its confirmation key,
encrypted under the public key of `key`. -/
structure Encrypts (suite : Suite) (key : ElGamal.SecretKey) (codes : List Nat)
    (confirmation : Nat) (input : Message.Generation.Input) : Prop where
  partialCodes : ∃ r c, ElGamal.encrypt key.publicKey
    (codes.map fun v => suite.hashAndSquare ⟨key.group, v⟩) r = .ok c ∧
    input.partialCodes = c.toValues
  confirmationKey : ∃ r c, ElGamal.encrypt key.publicKey
    [suite.hashAndSquare ⟨key.group, confirmation⟩] r = .ok c ∧
    input.confirmationKey = c.toValues

/-- What the output for a card holds, decrypted: the hashes raised to the keys that are derived for
the card. -/
theorem decrypt_output {key : ElGamal.SecretKey} {codes : List Nat} {confirmation master : Nat}
    {electionId : String} {nodeId : Nat} {input : Message.Generation.Input} {output : Output}
    (encrypts : Encrypts suite key codes confirmation input)
    (answers : Answers suite key.group master electionId nodeId input output) :
    ∃ choiceKey voteCastKey,
      VoterKey.deriveFor suite master .choice input.cardId key.group = .ok choiceKey ∧
      VoterKey.deriveFor suite master .voteCast input.cardId key.group = .ok voteCastKey ∧
      output.cardId = input.cardId ∧
      output.choicePublicKey = [key.group.pow key.group.g choiceKey] ∧
      output.voteCastPublicKey = [key.group.pow key.group.g voteCastKey] ∧
      key.decrypt output.partialCodes = codes.map (fun v =>
        key.group.pow (suite.hashAndSquare ⟨key.group, v⟩).value choiceKey) ∧
      key.decrypt output.confirmationKey =
        [key.group.pow (suite.hashAndSquare ⟨key.group, confirmation⟩).value voteCastKey] := by
  obtain ⟨ready, nonce, nonce', prepared, rfl⟩ := answers
  obtain ⟨r, c, encrypted, partialCodes⟩ := encrypts.partialCodes
  obtain ⟨r', c', encrypted', confirmationKey⟩ := encrypts.confirmationKey
  have codes_eq : ready.partialCodes = c := by
    rw [prepared.partialCodes, partialCodes, (ElGamal.encrypt_eq_ok.1 encrypted).2]
    rfl
  have key_eq : ready.confirmationKey = c' := by
    rw [prepared.confirmationKey, confirmationKey, (ElGamal.encrypt_eq_ok.1 encrypted').2]
    rfl
  refine ⟨ready.choiceKey, ready.voteCastKey, prepared.choiceKey, prepared.voteCastKey,
    prepared.cardId, rfl, rfl, ?_, ?_⟩
  · rw [answer, codes_eq, ElGamal.decrypt_pow encrypted, List.map_map]
    rfl
  · rw [answer, key_eq, ElGamal.decrypt_pow encrypted']
    rfl

end Generation

/-! ### Voting -/

namespace Exponentiation

/-- Whether a request asks for values to be raised in a phase, for a card. -/
structure AsksFor (request : Request) (electionId setId cardId : String) (phase : Phase)
    (values : List Nat) : Prop where
  electionId : request.electionId = electionId
  setId : request.setId = setId
  cardId : request.cardId = cardId
  payload : ∃ input, request.payload = some input ∧ Phase.of input = phase ∧
    input.elements = some values

/-- What a completed request of the voting phase is answered with: the shares that belong to the key
derived for the card. -/
theorem shares_of_process {nodeId maxAttempts : Nat} {request : Request} {state : State}
    {response : Envelope (Signed ExponentiationShare)} {electionId setId cardId : String}
    {phase : Phase} {values : List Nat}
    (asks : AsksFor request electionId setId cardId phase values)
    (done : (process suite keys nodeId maxAttempts request state).result = .ok response) :
    ∃ group master key nonce,
      keys.parameters electionId setId = .ok group ∧
      keys.generationKey electionId setId = .ok master ∧
      VoterKey.deriveFor suite master.first phase.keyKind cardId group = .ok key ∧
      response.payload.map (·.payload) =
        some (shares suite group phase values key
          [electionId, cardId, phase.context, Text.Decimal.render nodeId] nonce) := by
  obtain ⟨rfl, rfl, rfl, input, payload, rfl, listed⟩ := asks
  obtain ⟨input', group, record, values', master, share, signed, passed, signs, rfl⟩ :=
    answered done
  cases payload.symm.trans passed.payload
  cases listed.symm.trans (elements_of_examine passed.examined)
  obtain ⟨key, nonce, derived, rfl⟩ := passed.computed
  refine ⟨group, master, key, nonce, passed.parameters, passed.unlocked, derived, ?_⟩
  obtain ⟨signature, rfl⟩ := signs.exists_signature
  rfl

end Exponentiation

/-! ### Agreement -/

/-- If set-up has answered a card whose ciphertexts hold the hashes of its codes, and the voting
phase has answered the codes and the confirmation key of the card, then decrypting what set-up has
raised gives the shares of the voting phase, and both phases give the same public keys of the card.
The key that decrypts is any key of the group; the two phases may be handled by nodes with other
numbers, in any states, as long as the keys are the same and those of a card set are in its group,
as those of a keyring are. -/
theorem phases_agree (grouped : keys.Grouped) (key : ElGamal.SecretKey) {codes : List Nat}
    {confirmation nodeId nodeId' nodeId'' maxAttempts maxAttempts' : Nat}
    {setup : Message.Generation.SignedRequest} {choice cast : Request}
    {input : Message.Generation.Input} {state state' state'' : State} {i : Nat}
    {generated : Message.Generation.Envelope Message.Generation.Response}
    {chosen confirmed : Envelope (Signed ExponentiationShare)}
    (group : setup.payload.payload.group = key.group)
    (card : setup.payload.payload.inputs[i]? = some input)
    (encrypts : Generation.Encrypts suite key codes confirmation input)
    (choosing : Exponentiation.AsksFor choice setup.payload.payload.electionId
      setup.payload.payload.setId input.cardId .choice codes)
    (casting : Exponentiation.AsksFor cast setup.payload.payload.electionId
      setup.payload.payload.setId input.cardId .voteCast [confirmation])
    (generation :
      (Generation.process suite keys nodeId setup state).result = .ok generated)
    (choosing_done :
      (Exponentiation.process suite keys nodeId' maxAttempts choice state').result = .ok chosen)
    (casting_done :
      (Exponentiation.process suite keys nodeId'' maxAttempts' cast state'').result =
        .ok confirmed) :
    ∃ output share share' publicKey publicKey',
      generated.payload.payload.outputs[i]? = some output ∧ output.cardId = input.cardId ∧
      chosen.payload.map (·.payload) = some share ∧
      confirmed.payload.map (·.payload) = some share' ∧
      share.shares.map (·.input) = codes ∧
      key.decrypt output.partialCodes = share.shares.map (·.share) ∧
      share'.shares.map (·.input) = [confirmation] ∧
      key.decrypt output.confirmationKey = share'.shares.map (·.share) ∧
      output.choicePublicKey = [publicKey] ∧ share.choicePublicKey = some publicKey ∧
      output.voteCastPublicKey = [publicKey'] ∧ share'.voteCastPublicKey = some publicKey' := by
  obtain ⟨secret, outputs, signed, authorized, answers, signs, rfl⟩ :=
    Generation.answered generation
  obtain ⟨unlocked, same, -⟩ := Generation.authorize_ok authorized
  obtain ⟨signature, rfl⟩ := signs.exists_signature
  obtain ⟨output, given, answer⟩ := Generation.exists_output answers card
  obtain ⟨group₁, master₁, k₁, _, known₁, unlocked₁, derived₁, share⟩ :=
    Exponentiation.shares_of_process choosing choosing_done
  obtain ⟨group₂, master₂, k₂, _, known₂, unlocked₂, derived₂, share'⟩ :=
    Exponentiation.shares_of_process casting casting_done
  -- All three messages work with one key, and hence in one group.
  cases unlocked.symm.trans unlocked₁
  cases unlocked.symm.trans unlocked₂
  have one : secret.group = key.group := same.trans group
  obtain rfl : key.group = group₁ := one.symm.trans (grouped _ _ _ _ known₁ unlocked)
  obtain rfl : key.group = group₂ := one.symm.trans (grouped _ _ _ _ known₂ unlocked)
  rw [one] at answer
  obtain ⟨k₁', k₂', derived₁', derived₂', cardId, publicKey, publicKey', codes_eq, key_eq⟩ :=
    Generation.decrypt_output encrypts answer
  -- A key that is derived again is the same key.
  cases derived₁.symm.trans derived₁'
  cases derived₂.symm.trans derived₂'
  refine ⟨output, _, _, _, _, given, cardId, share, share', ?_, ?_, ?_, ?_, publicKey, rfl,
    publicKey', rfl⟩
  · rw [Exponentiation.shares_eq, List.map_map]
    exact List.map_id codes
  · simp [Exponentiation.shares_eq, codes_eq]
  · simp [Exponentiation.shares_eq]
  · simp [Exponentiation.shares_eq, key_eq]

/-- Both phases agree on a card whose ciphertexts are `(2, 2)`, encrypted with exponent one. -/
theorem phases_agree_of_small :
    let key : ElGamal.SecretKey := ⟨Small.group, [1], by simp⟩
    let setup := Small.generation Small.setA Small.cardC
    ∃ generated chosen confirmed output share share',
      (Generation.process Small.suite Small.keyring.service 1 setup
        (.initial .empty (Small.stream 48))).result = .ok generated ∧
      (Exponentiation.process Small.suite Small.keyring.service 1 5 (Small.choice Small.setA)
        (Small.decrypted Small.setA)).result = .ok chosen ∧
      (Exponentiation.process Small.suite Small.keyring.service 1 5 (Small.cast Small.setA)
        (Small.exponentiated Small.setA)).result = .ok confirmed ∧
      generated.payload.payload.outputs[0]? = some output ∧
      chosen.payload.map (·.payload) = some share ∧
      confirmed.payload.map (·.payload) = some share' ∧
      key.decrypt output.partialCodes = share.shares.map (·.share) ∧
      key.decrypt output.confirmationKey = share'.shares.map (·.share) := by
  intro key setup
  have grouped : Small.keyring.service.Grouped :=
    ((Small.keyring_reachable .standard).sound Key.Sealing.honest_standard).grouped_service
  have encrypts : Generation.Encrypts Small.suite key [2] 2
      ⟨Small.cardC, ⟨2, [2]⟩, ⟨2, [2]⟩, [2]⟩ :=
    ⟨⟨1, ⟨Small.group, 2, [2]⟩, by decide, rfl⟩, ⟨1, ⟨Small.group, 2, [2]⟩, by decide, rfl⟩⟩
  obtain ⟨generated, generation⟩ := exists_eq_ok (show (Generation.process Small.suite
    Small.keyring.service 1 setup (.initial .empty (Small.stream 48))).result.isOk = true by
      decide +kernel)
  obtain ⟨chosen, choosing⟩ := exists_eq_ok (show (Exponentiation.process Small.suite
    Small.keyring.service 1 5 (Small.choice Small.setA)
      (Small.decrypted Small.setA)).result.isOk = true by decide +kernel)
  obtain ⟨confirmed, casting⟩ := exists_eq_ok (show (Exponentiation.process Small.suite
    Small.keyring.service 1 5 (Small.cast Small.setA)
      (Small.exponentiated Small.setA)).result.isOk = true by decide +kernel)
  obtain ⟨output, share, share', _, _, given, -, first, second, -, codes, -, confirmation, -⟩ :=
    phases_agree grouped key (i := 0) rfl rfl encrypts ⟨rfl, rfl, rfl, _, rfl, rfl, rfl⟩
      ⟨rfl, rfl, rfl, _, rfl, rfl, rfl⟩ generation choosing casting
  exact ⟨generated, chosen, confirmed, output, share, share', generation, choosing, casting, given,
    first, second, codes, confirmation⟩

end Node
end ControlComponent
