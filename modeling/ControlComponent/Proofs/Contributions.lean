import Mathlib.Data.List.GetD
import ControlComponent.Proofs.Codes
import ControlComponent.Proofs.Examined

/-!
What several nodes decrypt together.

The voter's codes are encrypted under a key that is made of the keys of all nodes, multiplied value
by value. Each node raises the first value of the ciphertext to its own exponents, and that is all
that it contributes. The nodes together thus hold the secret key that belongs to the combined key,
its exponents being the sums of theirs, although none of them knows it: the products of their
contributions are the powers that this key would make, and dividing by them leaves the codes.
-/

namespace ControlComponent

/-! ### Lists taken together place by place -/

namespace Group

variable {group : Group} {v : Nat}

/-- For each of `length` places, the product of the values that the lists have there. -/
def products (group : Group) (length : Nat) (lists : List (List Nat)) : List Nat :=
  (List.range length).map fun i => group.product (lists.map (·.getD i 1))

/-- For each of `length` places, the sum of the exponents that the lists have there. -/
def sums (group : Group) (length : Nat) (lists : List (List Nat)) : List Nat :=
  (List.range length).map fun i => group.sumExponents (lists.map (·.getD i 0))

/-- The products of powers of a root are its powers to the sums. -/
theorem IsRoot.products_pow (root : group.IsRoot v) (length : Nat) (lists : List (List Nat)) :
    group.products length (lists.map (·.map (group.pow v))) =
      (group.sums length lists).map (group.pow v) := by
  rw [products, sums, List.map_map]
  refine List.map_congr_left fun i _ => ?_
  have place : (lists.map (·.map (group.pow v))).map (·.getD i 1) =
      (lists.map (·.getD i 0)).map (group.pow v) := by
    rw [List.map_map, List.map_map]
    refine List.map_congr_left fun l _ => ?_
    simp only [Function.comp_apply]
    rw [← group.pow_zero_eq v, List.getD_map]
  rw [place, root.product_pow]
  rfl

end Group

/-! ### Keys taken together -/

namespace ElGamal

variable {group : Group}

/-- The values of a public key that belongs to a secret key are powers of the generator. -/
theorem isRoot_publicKey (key : SecretKey) : ∀ h ∈ key.publicKey.values, key.group.IsRoot h := by
  intro h mem
  obtain ⟨x, -, rfl⟩ := List.mem_map.1 mem
  exact key.group.isRoot_generator.pow x

/-- A ciphertext of members under a key of members consists of members. -/
theorem members_of_encrypt {key : PublicKey} {messages : List Element} {r : Nat} {c : Ciphertext}
    (encrypted : encrypt key messages r = .ok c)
    (roots : ∀ m ∈ messages, key.group.IsRoot m.value)
    (roots' : ∀ h ∈ key.values, key.group.IsRoot h) :
    key.group.areMembers (c.gamma :: c.phis) = true := by
  obtain ⟨-, rfl⟩ := encrypt_eq_ok.1 encrypted
  exact Group.areMembers_cons.2
    ⟨key.group.isRoot_generator.isMember_pow r, members_masked r roots roots'⟩

theorem length_phis_of_encrypt {key : PublicKey} {messages : List Element} {r : Nat}
    {c : Ciphertext} (encrypted : encrypt key messages r = .ok c) :
    c.phis.length = messages.length := by
  obtain ⟨⟨-, short⟩, rfl⟩ := encrypt_eq_ok.1 encrypted
  rw [List.length_zipWith, Nat.min_eq_left short]

/-- Raised to one, a ciphertext of members is as it was. -/
theorem Ciphertext.pow_one {c : Ciphertext}
    (members : c.group.areMembers (c.gamma :: c.phis) = true) : c.pow 1 = c := by
  have same : ∀ v ∈ c.gamma :: c.phis, c.group.pow v 1 = v := fun v mem =>
    Group.pow_one_eq (Group.isMember_iff.1 (List.all_eq_true.1 members v mem)).2.1
  obtain ⟨gamma, phis⟩ := List.forall_mem_cons.1 same
  rw [Ciphertext.pow, gamma, List.map_congr_left phis, List.map_id']

/-- Decrypting what was encrypted gives the messages. -/
theorem decrypt_encrypt {key : SecretKey} {messages : List Element} {r : Nat} {c : Ciphertext}
    (encrypted : encrypt key.publicKey messages r = .ok c)
    (members : ∀ m ∈ messages, key.group.isMember m.value = true) :
    key.decrypt c.toValues = messages.map (·.value) := by
  have raised : c.pow 1 = c := by
    refine Ciphertext.pow_one ?_
    have ofKey := members_of_encrypt encrypted
      (fun m mem => Group.isRoot_of_isMember (members m mem)) (isRoot_publicKey key)
    obtain ⟨-, rfl⟩ := encrypt_eq_ok.1 encrypted
    exact ofKey
  calc key.decrypt c.toValues
      = key.decrypt (c.pow 1).toValues := by rw [raised]
    _ = messages.map fun m => key.group.pow m.value 1 := decrypt_pow encrypted 1
    _ = messages.map (·.value) :=
      List.map_congr_left fun m mem =>
        Group.pow_one_eq (Group.isMember_iff.1 (members m mem)).2.1

/-- The secret key that the holders of several keys have together. -/
def SecretKey.joint (group : Group) (length : Nat) (positive : 0 < length)
    (keys : List SecretKey) : SecretKey where
  group := group
  exponents := group.sums length (keys.map (·.exponents))
  exponents_ne := by simp [Group.sums, Nat.ne_of_gt positive]

/-- The product of public keys, value by value, is the public key of the joint key. -/
theorem eq_publicKey_joint {length : Nat} (positive : 0 < length) {keys : List SecretKey}
    (same : ∀ key ∈ keys, key.group = group) {combined : PublicKey}
    (ofGroup : combined.group = group)
    (values : combined.values = group.products length (keys.map (·.publicKey.values))) :
    combined = (SecretKey.joint group length positive keys).publicKey := by
  have powers : keys.map (·.publicKey.values) =
      (keys.map (·.exponents)).map (·.map (group.pow group.g)) := by
    rw [List.map_map]
    refine List.map_congr_left fun key mem => ?_
    obtain rfl := same key mem
    rfl
  obtain ⟨own, _, _⟩ := combined
  obtain rfl : own = group := ofGroup
  rw [PublicKey.mk.injEq]
  refine ⟨rfl, ?_⟩
  rw [powers, own.isRoot_generator.products_pow] at values
  exact values

end ElGamal

namespace Node.Decryption

open Message.Computation

/-! ### Nodes -/

/-- A node that takes part in a decryption, with the key that it has for what it is asked. -/
structure Participant where
  keys : Key.Service
  nodeId : Nat
  request : Request
  state : State
  secret : ElGamal.SecretKey
  unlocked : keys.decryptionKey request.electionId request.setId = .ok secret

namespace Participant

/-- What the node makes of a value. -/
def decrypt (node : Participant) (suite : Suite) (group : Group) (gamma : Nat) :
    Step DecryptionShare :=
  Decryption.decrypt suite node.keys node.nodeId node.request group gamma node.state

/-- Whether the node's key is one of the group, with so many exponents. -/
structure Holds (node : Participant) (group : Group) (length : Nat) : Prop where
  group : node.secret.group = group
  length : node.secret.exponents.length = length

end Participant

variable {group : Group} {length gamma : Nat} {nodes : List Participant}

/-- All nodes contribute, each its powers of the value. -/
theorem exists_shares (suite : Suite) (holds : ∀ node ∈ nodes, node.Holds group length)
    (member : group.isMember gamma = true) :
    ∃ shares : List DecryptionShare,
      List.Forall₂ (fun node share => (node.decrypt suite group gamma).result = .ok share ∧
        share.contributions.length = length) nodes shares ∧
      shares.map (·.contributions) =
        (nodes.map (·.secret.exponents)).map (·.map (group.pow gamma)) := by
  induction nodes with
  | nil => exact ⟨[], .nil, rfl⟩
  | cons node nodes ih =>
    obtain ⟨⟨rfl, length_eq⟩, rest⟩ := List.forall_mem_cons.1 holds
    obtain ⟨shares, all, contributions⟩ := ih rest
    obtain ⟨proof, done, -⟩ := exists_decrypt suite node.nodeId node.unlocked member node.state
    refine ⟨_ :: shares, .cons ⟨done, ?_⟩ all, ?_⟩
    · rw [List.length_map, length_eq]
    · rw [List.map_cons, contributions]
      rfl

/-- **The nodes together recover the codes.** Under the product of the nodes' public keys any codes
can be encrypted, as long as there are some and no more than the keys have values. Every node
answers the first value of the ciphertext with as many contributions as its key has exponents, and
each of the other values, divided by the product of the contributions in its place, is the code. -/
theorem contributions_recover_codes (suite : Suite)
    (holds : ∀ node ∈ nodes, node.Holds group length)
    {combined : ElGamal.PublicKey} (ofGroup : combined.group = group)
    (values : combined.values = group.products length (nodes.map (·.secret.publicKey.values)))
    {codes : List Element}
    (members : ∀ code ∈ codes, code.group = group ∧ group.isMember code.value = true) (r : Nat) :
    ((∃ c, ElGamal.encrypt combined codes r = .ok c) ↔ codes ≠ [] ∧ codes.length ≤ length) ∧
    ∀ c, ElGamal.encrypt combined codes r = .ok c →
      ∃ shares : List DecryptionShare,
        List.Forall₂ (fun node share => (node.decrypt suite group c.gamma).result = .ok share ∧
          share.contributions.length = length) nodes shares ∧
        c.phis.length = codes.length ∧
        List.zipWith (fun phi product => group.mul phi (group.inv product)) c.phis
          (group.products length (shares.map (·.contributions))) = codes.map (·.value) := by
  have positive : 0 < length := by
    refine Nat.pos_of_ne_zero ?_
    rintro rfl
    exact combined.values_ne values
  have same : ∀ key ∈ nodes.map (·.secret), key.group = group := by
    intro key mem
    obtain ⟨node, found, rfl⟩ := List.mem_map.1 mem
    exact (holds node found).group
  constructor
  · have lengths : combined.values.length = length := by simp [values, Group.products]
    constructor
    · rintro ⟨c, encrypted⟩
      obtain ⟨⟨nonempty, short⟩, -⟩ := ElGamal.encrypt_eq_ok.1 encrypted
      exact ⟨nonempty, lengths ▸ short⟩
    · rintro ⟨nonempty, short⟩
      exact ⟨_, ElGamal.encrypt_eq_ok.2 ⟨⟨nonempty, lengths ▸ short⟩, rfl⟩⟩
  · intro c encrypted
    have public_eq := ElGamal.eq_publicKey_joint positive same ofGroup
      (by rw [List.map_map]; exact values)
    rw [public_eq] at encrypted
    have roots : ∀ code ∈ codes, group.IsRoot code.value := fun code mem =>
      Group.isRoot_of_isMember (members code mem).2
    have ciphertext := ElGamal.members_of_encrypt encrypted roots (ElGamal.isRoot_publicKey _)
    have member : group.isMember c.gamma = true :=
      List.all_eq_true.1 ciphertext _ (List.mem_cons_self ..)
    obtain ⟨shares, all, contributions⟩ := exists_shares suite holds member
    have decrypted := ElGamal.decrypt_encrypt encrypted fun code mem => (members code mem).2
    refine ⟨shares, all, ?_, ?_⟩
    · exact ElGamal.length_phis_of_encrypt encrypted
    · rw [contributions, (Group.isRoot_of_isMember member).products_pow, List.zipWith_map_right]
      simp only [ElGamal.SecretKey.decrypt, ElGamal.SecretKey.joint, List.map_map] at decrypted
      exact decrypted

/-- A node with this key, which is asked to decrypt for the card of the small component. -/
def holder (nodeId : Nat) (secret : ElGamal.SecretKey) : Participant where
  keys := { Small.keyring.service with decryptionKey := fun _ _ => .ok secret }
  nodeId := nodeId
  request := Small.decryption Small.setA
  state := Small.ready Small.setA
  secret := secret
  unlocked := rfl

/-- Two nodes with three exponents each recover two codes. -/
theorem contributions_recover_codes_of_small :
    let nodes := [holder 1 ⟨Small.group, [3, 4, 6], by simp⟩,
      holder 2 ⟨Small.group, [5, 1, 9], by simp⟩]
    let combined : ElGamal.PublicKey := ⟨Small.group, [3, 9, 16], by simp⟩
    let codes : List Element := [⟨Small.group, 4⟩, ⟨Small.group, 8⟩]
    (∀ node ∈ nodes, node.Holds Small.group 3) ∧
      combined.values = Small.group.products 3 (nodes.map (·.secret.publicKey.values)) ∧
      (∀ code ∈ codes, code.group = Small.group ∧ Small.group.isMember code.value = true) ∧
      ∃ c shares, ElGamal.encrypt combined codes 7 = .ok c ∧
        List.Forall₂ (fun node (share : DecryptionShare) =>
          (node.decrypt Small.suite Small.group c.gamma).result = .ok share ∧
            share.contributions.length = 3) nodes shares ∧
        c.phis.length = codes.length ∧
        List.zipWith (fun phi product => Small.group.mul phi (Small.group.inv product)) c.phis
          (Small.group.products 3 (shares.map (·.contributions))) = [4, 8] := by
  intro nodes combined codes
  have holds : ∀ node ∈ nodes, node.Holds Small.group 3 := by
    simp only [nodes, List.mem_cons, List.not_mem_nil, or_false, forall_eq_or_imp, forall_eq]
    exact ⟨⟨rfl, rfl⟩, ⟨rfl, rfl⟩⟩
  have values : combined.values =
      Small.group.products 3 (nodes.map (·.secret.publicKey.values)) := by decide
  have members : ∀ code ∈ codes,
      code.group = Small.group ∧ Small.group.isMember code.value = true := by decide
  obtain ⟨encrypts, recovers⟩ :=
    contributions_recover_codes Small.suite holds rfl values members 7
  obtain ⟨c, encrypted⟩ := encrypts.2 (by decide)
  obtain ⟨shares, recovered⟩ := recovers c encrypted
  exact ⟨holds, values, members, c, shares, encrypted, recovered⟩

end Node.Decryption
end ControlComponent
