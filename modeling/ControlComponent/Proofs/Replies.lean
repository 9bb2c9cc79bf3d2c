import ControlComponent.Message.Computation
import ControlComponent.Message.Generation
import ControlComponent.Proofs.Key.Certified
import ControlComponent.Proofs.Wire.Kept

/-!
Replies that come back.

Whatever a node puts into a reply is read back from it, in either encoding: texts, numbers of any
size and lists of them always are, and keys, signatures and identifiers are if they have the form
that they should have.
-/

namespace ControlComponent

open Wire (Codec)
open Wire.Codec

variable {nesting : Nat}

/-! ### Signatures -/

theorem Certificate.keeps_codec {certificate : Certificate} (readable : certificate.Readable) :
    codec.Keeps (nesting + 1) certificate :=
  keeps_record (by decide)
    ⟨keeps_text _, keeps_text _, keeps_publicKey readable.publicKey,
      keeps_signature readable.signature, trivial⟩ rfl

/-- A signature whose own bytes are those of a signature, and whose chain consists of certificates
that are read back. -/
structure PayloadSignature.WellFormed (s : PayloadSignature) : Prop where
  signature : s.signature.Readable
  chain : ∀ certificate ∈ s.chain, certificate.Readable

theorem PayloadSignature.WellFormed.keeps_codec {s : PayloadSignature} (wellFormed : s.WellFormed) :
    codec.Keeps (nesting + 3) s :=
  keeps_record (by decide)
    ⟨keeps_signature wellFormed.signature,
      keeps_list fun certificate mem => Certificate.keeps_codec (wellFormed.chain certificate mem),
      trivial⟩ rfl

/-- A payload comes back with its signature, or without one if it has none. -/
theorem Signed.keeps_codec {c : Codec α} {signed : Signed α}
    (kept : c.Keeps (nesting + 3) signed.payload)
    (wellFormed : ∀ s, signed.signature = some s → s.WellFormed) :
    (codec c).Keeps (nesting + 4) signed := by
  have distinct : ["payload", "signature"].Nodup := by decide
  refine keeps_record distinct
    ⟨kept, keeps_option (fun s there => (wellFormed s there).keeps_codec) ?_, trivial⟩ rfl
  rintro e s ⟨⟩

/-! ### Generation -/

theorem ExponentiationProof.keeps_codec (proof : ExponentiationProof) :
    codec.Keeps (nesting + 1) proof :=
  keeps_record (by decide) ⟨keeps_decimal _, keeps_decimal _, trivial⟩ rfl

theorem ElGamal.CiphertextValues.keeps_codec (values : ElGamal.CiphertextValues) :
    codec.Keeps (nesting + 2) values :=
  keeps_record (by decide) ⟨keeps_decimal _, keeps_decimals _, trivial⟩ rfl

namespace Message

theorem Generation.Output.keeps_codec (output : Generation.Output) :
    codec.Keeps (nesting + 3) output :=
  keeps_record (by decide)
    ⟨keeps_text _, keeps_decimals _, keeps_decimals _, output.partialCodes.keeps_codec,
      output.partialCodesProof.keeps_codec, output.confirmationKey.keeps_codec,
      output.confirmationKeyProof.keeps_codec, trivial⟩ rfl

/-- A response comes back if the numbers of its chunk and of the node have 32 bits. -/
theorem Generation.Response.keeps_codec {response : Generation.Response}
    (chunk : response.chunkId < 2 ^ 32) (node : response.nodeId < 2 ^ 32) :
    codec.Keeps (nesting + 5) response :=
  keeps_record (by decide)
    ⟨keeps_text _, keeps_text _, keeps_text _, keeps_natural (Nat.le_pred_of_lt chunk) (by decide),
      keeps_group _, keeps_list fun output _ => output.keeps_codec,
      keeps_natural (Nat.le_pred_of_lt node) (by decide), trivial⟩ rfl

theorem Generation.Envelope.keeps_codec {c : Codec α} {e : Generation.Envelope α}
    (sixteen : e.correlationId.bytes.length = 16)
    (kept : (Signed.codec c).Keeps nesting e.payload) :
    (codec c).Keeps (nesting + 1) e := by
  have distinct : ["correlation_id", "request_id", "payload"].Nodup := by decide
  exact keeps_record distinct ⟨keeps_uuid sixteen, keeps_text _, kept, trivial⟩ rfl

/-! ### Decryption and exponentiation -/

namespace Computation

theorem DecryptionShare.keeps_codec (share : DecryptionShare) : codec.Keeps (nesting + 2) share :=
  keeps_record (by decide)
    ⟨keeps_decimals _, share.proof.keeps_codec, keeps_decimals _, trivial⟩ rfl

theorem LongCodeShare.keeps_codec (share : LongCodeShare) : codec.Keeps (nesting + 1) share :=
  keeps_record (by decide) ⟨keeps_decimal _, keeps_decimal _, trivial⟩ rfl

/-- A number that may be missing, as text. -/
theorem keeps_optionalDecimal (value : Option Nat) : decimal.option.Keeps nesting value := by
  refine keeps_option (fun n _ => keeps_decimal n) ?_
  rintro e n ⟨⟩

theorem ExponentiationShare.keeps_codec (share : ExponentiationShare) :
    codec.Keeps (nesting + 3) share :=
  keeps_record (by decide)
    ⟨keeps_list fun one _ => one.keeps_codec, share.proof.keeps_codec,
      keeps_optionalDecimal _, keeps_optionalDecimal _, trivial⟩ rfl

/-- A message comes back if its identifier has sixteen bytes and its payload, if it has one, comes
back. -/
theorem Envelope.keeps_codec {c : Codec α} {e : Envelope α}
    (sixteen : e.correlationId.bytes.length = 16)
    (kept : ∀ payload, e.payload = some payload → c.Keeps nesting payload)
    (present : ∀ e payload, (c.encode e payload).document e ≠ .null) :
    (codec c).Keeps (nesting + 1) e := by
  have distinct : ["correlation_id", "request_id", "election_event_id", "verification_card_set_id",
      "verification_card_id", "payload"].Nodup := by decide
  exact keeps_record distinct
    ⟨keeps_uuid sixteen, keeps_text _, keeps_text _, keeps_text _, keeps_text _,
      keeps_option kept present, trivial⟩ rfl

end Computation
end Message
end ControlComponent
