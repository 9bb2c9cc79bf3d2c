import ControlComponent.Key.Keyring
import ControlComponent.Proofs.Lookup
import ControlComponent.Proofs.Outcome

/-!
What a keyring answers about a card set it answers from the keys of the card set.
-/

namespace ControlComponent.Key

/-- Keys that a card set's own keys are derived from in the group of the card set. -/
def Service.Grouped (keys : Service) : Prop :=
  ∀ electionId setId group secret, keys.parameters electionId setId = .ok group →
    keys.generationKey electionId setId = .ok secret → secret.group = group

namespace Keyring

variable {keyring : Keyring} {electionId setId : String}

theorem setKeysOf_of_parameters {group : Group}
    (known : keyring.service.parameters electionId setId = .ok group) :
    ∃ keys, keyring.setKeysOf electionId setId = .ok keys ∧ keys.group = group := by
  simp only [service, parameters, setKeysOf] at known ⊢
  cases found : keyring.setKeys.get? ⟨electionId, setId⟩ with
  | none => simp [found] at known
  | some keys => exact ⟨keys, rfl, by simpa [found] using known⟩

theorem setKeysOf_of_decryptionKey {secret : ElGamal.SecretKey}
    (unlocked : keyring.service.decryptionKey electionId setId = .ok secret) :
    ∃ keys, keyring.setKeysOf electionId setId = .ok keys ∧ keys.encryption.secret = secret :=
  map_eq_ok.1 unlocked

theorem setKeysOf_of_generationKey {secret : ElGamal.SecretKey}
    (unlocked : keyring.service.generationKey electionId setId = .ok secret) :
    ∃ keys, keyring.setKeysOf electionId setId = .ok keys ∧ keys.generation.secret = secret :=
  map_eq_ok.1 unlocked

section Found

variable {keys : SetKeys} (found : keyring.setKeysOf electionId setId = .ok keys)

include found

theorem parameters_of_setKeysOf :
    keyring.service.parameters electionId setId = .ok keys.group := by
  simp only [service, parameters, setKeysOf] at found ⊢
  cases present : keyring.setKeys.get? ⟨electionId, setId⟩ with
  | none => simp [present] at found
  | some keys' =>
    rw [present] at found
    cases found
    rfl

theorem generationKey_of_setKeysOf :
    keyring.service.generationKey electionId setId = .ok keys.generation.secret :=
  map_eq_ok.2 ⟨keys, found, rfl⟩

theorem decryptionKey_of_setKeysOf :
    keyring.service.decryptionKey electionId setId = .ok keys.encryption.secret :=
  map_eq_ok.2 ⟨keys, found, rfl⟩

end Found

theorem mem_of_setKeysOf {keys : SetKeys} (found : keyring.setKeysOf electionId setId = .ok keys) :
    keys ∈ keyring.setKeys.entries := by
  unfold setKeysOf at found
  split at found
  · rename_i present
    cases found
    exact Table.mem_of_get? present
  · cases found

theorem hasSetKeys_of_setKeysOf {keys : SetKeys}
    (found : keyring.setKeysOf electionId setId = .ok keys) :
    keyring.hasSetKeys electionId setId = true := by
  unfold setKeysOf at found
  split at found
  · rename_i present
    simp [hasSetKeys, Table.contains, present]
  · cases found

end Keyring
end ControlComponent.Key
