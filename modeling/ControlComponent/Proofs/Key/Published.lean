import ControlComponent.Proofs.Identifier
import ControlComponent.Proofs.Small

/-!
What the signature of a published key stands for.

The text of the key, the name of the event and the name of the resource are signed one behind the
other, with nothing between them. So it is their joint text that a signature binds: two keys for
different events or sets have one and the same signature if their texts only differ in where one
part ends and the next begins. Names that leave no doubt about that, such as identifiers, are bound
together with the key.
-/

namespace ControlComponent

/-- Whether a signature for one message is accepted for another one. -/
def Signature.Scheme.Forgery (scheme : Signature.Scheme) (secret : Signature.SecretKey)
    (signed claimed : Bytes) : Prop :=
  claimed ≠ signed ∧
    scheme.verify (scheme.publicKey secret) claimed (scheme.sign secret signed) = .ok ()

/-- A signature that is accepted for another message is a forgery. -/
theorem Certificate.forgery_of_checkSignature {scheme : Signature.Scheme}
    {secret : Signature.SecretKey} {signed claimed : Bytes}
    (checked : checkSignature scheme (scheme.publicKey secret) claimed
      (scheme.sign secret signed) = .ok ())
    (different : claimed ≠ signed) : scheme.Forgery secret signed claimed := by
  refine ⟨different, ?_⟩
  unfold checkSignature at checked
  split at checked
  · assumption
  · cases checked

namespace Key.SignedPublicKey

variable {key key' : ElGamal.PublicKey} {electionId resourceId electionId' resourceId' : String}

/-- Whether it is known of two pairs of names where they begin when each stands at the end of a
text: both have the same lengths, or all four are identifiers. -/
inductive Aligned (electionId resourceId electionId' resourceId' : String) : Prop
  | lengths (event : (Bytes.ofText electionId).length = (Bytes.ofText electionId').length)
      (resource : (Bytes.ofText resourceId).length = (Bytes.ofText resourceId').length) :
      Aligned electionId resourceId electionId' resourceId'
  | identifiers (event : Uuid.isWritten electionId = true)
      (resource : Uuid.isWritten resourceId = true) (event' : Uuid.isWritten electionId' = true)
      (resource' : Uuid.isWritten resourceId' = true) :
      Aligned electionId resourceId electionId' resourceId'

/-- What is signed is the joint text. -/
theorem message_eq_ofText (key : ElGamal.PublicKey) (electionId resourceId : String) :
    message key electionId resourceId =
      Bytes.ofText (Text.Decimal.commaSeparated key.values ++ electionId ++ resourceId) := by
  rw [Bytes.ofText_append, Bytes.ofText_append]
  rfl

/-- Aligned names and the text of the key in front of them are known from the joint text. -/
theorem parts_of_message (aligned : Aligned electionId resourceId electionId' resourceId')
    (same : message key electionId resourceId = message key' electionId' resourceId') :
    key.values = key'.values ∧ electionId = electionId' ∧ resourceId = resourceId' := by
  cases aligned with
  | lengths event resource =>
    obtain ⟨front, resources⟩ := List.append_inj' same resource
    obtain ⟨keys, events⟩ := List.append_inj' front event
    exact ⟨Text.Decimal.commaSeparated_injective (Bytes.ofText_inj.1 keys),
      Bytes.ofText_inj.1 events, Bytes.ofText_inj.1 resources⟩
  | identifiers event resource event' resource' =>
    exact Uuid.commaSeparated_append_inj event resource event' resource' same

theorem forgery_of_check {scheme : Signature.Scheme} {secret : Signature.SecretKey}
    (checked : check scheme (scheme.publicKey secret) electionId' resourceId'
      ⟨key', (sign scheme secret key electionId resourceId).signature⟩ = .ok ())
    (different :
      message key' electionId' resourceId' ≠ message key electionId resourceId) :
    scheme.Forgery secret (message key electionId resourceId)
      (message key' electionId' resourceId') :=
  Certificate.forgery_of_checkSignature checked different

/-- **The signature of a published key binds the joint text of the key and the two names.** Of two
keys for aligned names the same bytes are signed only if the values of the keys, the events and the
resources are the same, and a signature that was made for the one is accepted for the other only
then, unless it is a forgery. -/
theorem signature_binds_joint_text (key key' : ElGamal.PublicKey)
    (electionId resourceId electionId' resourceId' : String) :
    (message key electionId resourceId = message key' electionId' resourceId' ↔
      Text.Decimal.commaSeparated key.values ++ electionId ++ resourceId =
        Text.Decimal.commaSeparated key'.values ++ electionId' ++ resourceId') ∧
    (Aligned electionId resourceId electionId' resourceId' →
      (message key electionId resourceId = message key' electionId' resourceId' ↔
        key.values = key'.values ∧ electionId = electionId' ∧ resourceId = resourceId') ∧
      ∀ (scheme : Signature.Scheme) (secret : Signature.SecretKey),
        check scheme (scheme.publicKey secret) electionId' resourceId'
          ⟨key', (sign scheme secret key electionId resourceId).signature⟩ = .ok () →
        (key.values = key'.values ∧ electionId = electionId' ∧ resourceId = resourceId') ∨
          scheme.Forgery secret (message key electionId resourceId)
            (message key' electionId' resourceId')) := by
  constructor
  · rw [message_eq_ofText, message_eq_ofText, Bytes.ofText_inj]
  · intro aligned
    refine ⟨⟨parts_of_message aligned, ?_⟩, ?_⟩
    · rintro ⟨values, rfl, rfl⟩
      rw [message_eq_ofText, message_eq_ofText, values]
    · intro scheme secret checked
      by_cases same : message key electionId resourceId = message key' electionId' resourceId'
      · exact .inl (parts_of_message aligned same)
      · exact .inr (forgery_of_check checked (Ne.symm same))

/-- The keys of the two card sets of the small component are signed with different bytes, and so
would be those of a set whose name is written in another form. -/
theorem signature_binds_joint_text_of_small :
    let key := (Small.setKeys Small.setA 3).generation.publicKey
    let other := "urn:uuid:00000000-0000-0000-0000-00000000000a"
    Aligned Small.electionId Small.setA Small.electionId Small.setB ∧
      Aligned Small.electionId Small.setA Small.electionId other ∧
      message key Small.electionId Small.setA ≠ message key Small.electionId Small.setB ∧
      message key Small.electionId Small.setA ≠ message key Small.electionId other := by
  intro key other
  have lengths : Aligned Small.electionId Small.setA Small.electionId Small.setB :=
    .lengths rfl (by decide +kernel)
  have identifiers : Aligned Small.electionId Small.setA Small.electionId other :=
    .identifiers (by decide +kernel) (by decide +kernel) (by decide +kernel) (by decide +kernel)
  refine ⟨lengths, identifiers, ?_, ?_⟩
  · intro same
    obtain ⟨-, -, sets⟩ :=
      (((signature_binds_joint_text key key _ _ _ _).2 lengths).1.1 same)
    exact absurd sets (by decide)
  · intro same
    obtain ⟨-, -, sets⟩ :=
      (((signature_binds_joint_text key key _ _ _ _).2 identifiers).1.1 same)
    exact absurd sets (by decide)

/-- A key for one event and one resource is signed with the same bytes for another event and another
resource, and within one event a signature is accepted for another key and another set. -/
theorem exists_keys_with_one_message :
    ∃ key key' : ElGamal.PublicKey,
      ElGamal.PublicKey.ofValues Small.group [4, 1] = .ok key ∧
      ElGamal.PublicKey.ofValues Small.group [4, 12] = .ok key' ∧
      message key "ee" "vcs" = message key "e" "evcs" ∧ "ee" ≠ "e" ∧ "vcs" ≠ "evcs" ∧
      message key "2" "2a" = message key' "2" "a" ∧ key.values ≠ key'.values ∧ "2a" ≠ "a" ∧
      ∀ scheme secret, Signature.Scheme.Honest scheme →
        check scheme (scheme.publicKey secret) "2" "a"
          ⟨key', (sign scheme secret key "2" "2a").signature⟩ = .ok () := by
  let key : ElGamal.PublicKey := ⟨Small.group, [4, 1], by simp⟩
  let key' : ElGamal.PublicKey := ⟨Small.group, [4, 12], by simp⟩
  have same : message key "2" "2a" = message key' "2" "a" := by decide +kernel
  refine ⟨key, key', rfl, rfl, by decide +kernel, by decide, by decide, same, by decide, by decide,
    ?_⟩
  intro scheme secret honest
  have accepted := honest secret (message key "2" "2a")
  unfold check Certificate.checkSignature
  simp only [sign]
  rw [← same, accepted]

end Key.SignedPublicKey
end ControlComponent
