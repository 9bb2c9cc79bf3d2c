import ControlComponent.Cipher.Gcm
import ControlComponent.Derivation.Argon2i
import ControlComponent.Key.Fault
import ControlComponent.Randomness

/-!
Sealing byte strings under a password.

A sealed container begins with a mark, a salt and a nonce; behind them stands the encrypted content
with its tag. The encryption key is derived from the password and the salt. A wrong password cannot
be told from a container that was changed.
-/

namespace ControlComponent.Key

/-- The functions that sealing is built on. -/
structure Sealing where
  deriveKey : (password salt : Bytes) → Bytes
  encrypt : (key nonce content : Bytes) → Bytes
  decrypt? : (key nonce encrypted : Bytes) → Option Bytes

namespace Sealing

/-- Argon2i with 4096 blocks of memory and three passes, and AES-256-GCM. -/
def standard : Sealing where
  deriveKey := Derivation.Argon2i.derive ⟨4096, 3⟩ 32
  encrypt := Cipher.Gcm.encrypt
  decrypt? := Cipher.Gcm.decrypt?

end Sealing

namespace Vault

/-- What every container begins with. -/
def mark : Bytes := [0x52, 0x43, 0x4b, 0x53]

/-- The length of a salt. -/
def saltLength : Nat := 16

/-- The length of a nonce. -/
def nonceLength : Nat := Cipher.Gcm.nonceSize

/-- The length of what stands in front of the encrypted content. -/
def headLength : Nat := mark.length + saltLength + nonceLength

/-- The length of a container of nothing. -/
def minLength : Nat := headLength + Cipher.Gcm.tagSize

/-- A salt and a nonce, drawn at random. -/
def draw (r : Randomness) : (Bytes × Bytes) × Randomness :=
  let (salt, r) := r.take saltLength
  let (nonce, r) := r.take nonceLength
  ((salt, nonce), r)

/-- A byte string sealed under a password. -/
def wrap (s : Sealing) (password : String) (salt nonce content : Bytes) : Bytes :=
  mark ++ salt ++ nonce ++ s.encrypt (s.deriveKey (Bytes.ofText password) salt) nonce content

/-- The byte string that was sealed under a password. -/
def unwrap (s : Sealing) (password : String) (container : Bytes) : Except Fault Bytes :=
  if container.length < minLength ∨ container.take mark.length ≠ mark then
    .error (.invalidStore .notSealed)
  else
    let salt := (container.drop mark.length).take saltLength
    let nonce := (container.drop (mark.length + saltLength)).take nonceLength
    match s.decrypt? (s.deriveKey (Bytes.ofText password) salt) nonce
        (container.drop headLength) with
    | some content => .ok content
    | none => .error .invalidPassword

end Vault

/-- Under a key that was derived from a salt of the right length, and with a nonce of the right
length, decryption undoes encryption, which adds a tag of sixteen bytes. -/
structure Sealing.Honest (s : Sealing) : Prop where
  decrypt_encrypt : ∀ password salt nonce content, salt.length = Vault.saltLength →
    nonce.length = Vault.nonceLength →
    s.decrypt? (s.deriveKey password salt) nonce
      (s.encrypt (s.deriveKey password salt) nonce content) = some content
  length_encrypt : ∀ password salt nonce content, salt.length = Vault.saltLength →
    nonce.length = Vault.nonceLength →
    (s.encrypt (s.deriveKey password salt) nonce content).length =
      content.length + Cipher.Gcm.tagSize

end ControlComponent.Key
