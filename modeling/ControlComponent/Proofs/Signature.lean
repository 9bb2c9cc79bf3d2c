import ControlComponent.Signature.Ed25519

/-!
What the keys and signatures of a scheme look like.

Keys and signatures are written as bytes, and what is read back must have the form of a key or of a
signature. A scheme is readable if whatever it makes has that form. Ed25519 is, provided that it
accepts its own signatures: it accepts none under a key that is no point, and the scalar of a
signature is below the order of the base point, so the highest bits of its last byte are clear.
-/

namespace ControlComponent.Signature

/-- A public key that is read back from its bytes. -/
def PublicKey.Readable (key : PublicKey) : Prop := Ed25519.publicKeyOfBytes key.bytes = .ok key

/-- A signature that is read back from its bytes. -/
def Readable (signature : Signature) : Prop :=
  Ed25519.signatureOfBytes signature.bytes = .ok signature

/-- A scheme whose keys and signatures are read back. -/
structure Scheme.Readable (scheme : Scheme) : Prop where
  publicKey : ∀ secret, (scheme.publicKey secret).Readable
  sign : ∀ secret message, (scheme.sign secret message).Readable

namespace Ed25519

open Edwards

/-! ### Keys -/

theorem length_encode (p : Point) : p.encode.length = 32 := by
  unfold Point.encode
  exact Bytes.length_ofNatLE 32 _

/-- Under a key that is no point no signature is accepted. -/
theorem isSome_decode?_of_verify {key : PublicKey} {message : Bytes} {signature : Signature}
    (verified : verify key message signature = .ok ()) : (Point.decode? key.bytes).isSome := by
  cases decoded : Point.decode? key.bytes with
  | some point => rfl
  | none =>
    simp only [verify, decoded] at verified
    split at verified
    · cases verified
    · split at verified
      · rename_i impossible
        cases impossible
      · cases verified

/-- A key under which some signature is accepted is read as it is. -/
theorem readable_publicKey {secret : SecretKey} {message : Bytes} {signature : Signature}
    (verified : verify (publicKey secret) message signature = .ok ()) :
    (publicKey secret).Readable := by
  have point : ¬(Point.decode? (publicKey secret).bytes).isNone = true := by
    rw [Option.isNone_eq_false_iff.2 (isSome_decode?_of_verify verified)]
    exact Bool.false_ne_true
  have length : (publicKey secret).bytes.length = 32 := length_encode _
  unfold PublicKey.Readable publicKeyOfBytes
  rw [if_neg (not_not_intro length), if_neg point]

/-! ### Signatures -/

theorem order_pos : 0 < order := Nat.add_pos_left (Nat.two_pow_pos 252) _

theorem getLast?_ofNatLE (width n : Nat) :
    (Bytes.ofNatLE (width + 1) n).getLast? = some (UInt8.ofNat (n / 256 ^ width)) := by
  induction width generalizing n with
  | zero => simp [Bytes.ofNatLE]
  | succ width ih =>
    have shifted : n / 256 / 256 ^ width = n / 256 ^ (width + 1) := by
      rw [Nat.div_div_eq_div_mul, Nat.pow_succ']
    rw [← shifted, ← ih, Bytes.ofNatLE, Bytes.ofNatLE, List.getLast?_cons_cons]

/-- A point and a scalar below the order are read as a signature: the last byte of the scalar is
less than 32. -/
theorem readable_append {point : Bytes} {s : Nat} (length : point.length = 32)
    (reduced : s < order) : Readable ⟨point ++ Bytes.ofNatLE 32 s⟩ := by
  have small : s / 256 ^ 31 < 32 := by
    rw [Nat.div_lt_iff_lt_mul (Nat.pow_pos (by decide))]
    exact Nat.lt_of_lt_of_le reduced (by decide)
  have clear : ∀ n < 32, UInt8.ofNat n &&& 0xe0 = 0 := by decide
  have last : (point ++ Bytes.ofNatLE 32 s).getLastD 0 &&& 0xe0 = 0 := by
    rw [List.getLastD_eq_getLast?, List.getLast?_append, getLast?_ofNatLE]
    exact clear _ small
  unfold Readable signatureOfBytes
  rw [if_pos ⟨by rw [List.length_append, length, Bytes.length_ofNatLE], last⟩]

theorem readable_sign (secret : SecretKey) (message : Bytes) : (sign secret message).Readable := by
  unfold sign
  exact readable_append (length_encode _) (Nat.mod_lt _ order_pos)

/-! ### The scheme -/

/-- If Ed25519 accepts its own signatures, its keys and signatures can be read back. -/
theorem readable_of_honest (honest : scheme.Honest) : scheme.Readable := by
  simp only [Scheme.Honest, scheme] at honest
  constructor <;> simp only [scheme]
  · exact fun secret => readable_publicKey (honest secret [])
  · exact readable_sign

end Ed25519
end ControlComponent.Signature
