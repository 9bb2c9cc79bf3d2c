import ControlComponent.Message.Vote
import ControlComponent.Proofs.Key.Stored
import ControlComponent.Proofs.Messages
import ControlComponent.Proofs.Wire.Distinct

/-!
What a signature was made for.

A certificate, a request, a share or a published key is signed as its CBOR, and nothing in front of
it tells which of them it is. The bytes tell it all the same: all of these are records, a record is
written with the names of its fields, and no two kinds have the same names. Keys of card sets and
of voting cards are signed in another way, as text with two identifiers behind them. No text begins
like a record, so that neither kind of signature can ever be taken for the other.
-/

namespace ControlComponent

open Message
open Wire (Codec Data Encoding)
open Wire.Codec

/-! ### Records and texts -/

/-- The first byte of a record does not begin a character. -/
theorem Wire.Cbor.not_isUTF8FirstByte_record {x : UInt8} (low : x < 32) :
    ¬(5 * 32 + x).IsUTF8FirstByte := by
  obtain ⟨k, rfl⟩ : ∃ k : Fin 32, x = UInt8.ofNat k :=
    ⟨⟨x.toNat, UInt8.lt_iff_toNat_lt.1 low⟩, by simp⟩
  revert k
  decide

/-- A record is not written as any text is. -/
theorem Wire.Cbor.write_record_ne_ofText {fields : List (String × Data)}
    (few : fields.length < 2 ^ 64) (text : String) :
    write (.record fields) ≠ Bytes.ofText text := by
  intro same
  obtain ⟨x, tail, head, low, -⟩ := exists_head 5 few
  rw [write, head, List.cons_append] at same
  exact not_isUTF8FirstByte_record low (Bytes.isUTF8FirstByte_of_ofText same.symm)

/-! ### Codecs -/

theorem Certificate.injective_codec : codec.Injective :=
  injective_record (.required injective_text (.required injective_text
    (.required injective_publicKey (.required injective_signature .done)))) fun _ => rfl

theorem ExponentiationProof.injective_codec : codec.Injective :=
  injective_record (.required injective_decimal (.required injective_decimal .done)) fun _ => rfl

theorem ElGamal.CiphertextValues.injective_codec : codec.Injective :=
  injective_record (.required injective_decimal (.required injective_decimals .done)) fun _ => rfl

namespace Message

namespace Generation

theorem Input.injective_codec : codec.Injective :=
  injective_record (.required injective_text (.required ElGamal.CiphertextValues.injective_codec
    (.required ElGamal.CiphertextValues.injective_codec (.required injective_decimals .done))))
    fun _ => rfl

theorem Correctness.injective_codec : codec.Injective :=
  injective_record (.required (injective_natural _) .done) fun _ => rfl

theorem Request.injective_codec : codec.Injective :=
  injective_record (.required injective_text (.required injective_text (.required injective_text
    (.required (injective_natural _) (.required injective_group
      (.required (injective_list Input.injective_codec)
        (.required Correctness.injective_codec .done))))))) fun _ => rfl

theorem Output.injective_codec : codec.Injective :=
  injective_record (.required injective_text (.required injective_decimals
    (.required injective_decimals (.required ElGamal.CiphertextValues.injective_codec
      (.required ExponentiationProof.injective_codec
        (.required ElGamal.CiphertextValues.injective_codec
          (.required ExponentiationProof.injective_codec .done))))))) fun _ => rfl

theorem Response.injective_codec : codec.Injective :=
  injective_record (.required injective_text (.required injective_text (.required injective_text
    (.required (injective_natural _) (.required injective_group
      (.required (injective_list Output.injective_codec)
        (.required (injective_natural _) .done))))))) fun _ => rfl

end Generation

namespace Computation

theorem DecryptionShare.injective_codec : codec.Injective :=
  injective_record (.required injective_decimals (.required ExponentiationProof.injective_codec
    (.required injective_decimals .done))) fun _ => rfl

theorem LongCodeShare.injective_codec : codec.Injective :=
  injective_record (.required injective_decimal (.required injective_decimal .done)) fun _ => rfl

theorem ExponentiationShare.injective_codec : codec.Injective := by
  have optional : decimal.option.Injective := injective_option injective_decimal (by rintro e n ⟨⟩)
  exact injective_record (.required (injective_list LongCodeShare.injective_codec)
    (.required ExponentiationProof.injective_codec
      (.defaulted optional (.defaulted optional .done)))) fun _ => rfl

theorem ElectionKey.injective_codec : codec.Injective :=
  injective_record (.required injective_text (.required injective_decimals .done)) fun _ => rfl

theorem CardSet.injective_codec : codec.Injective :=
  injective_record (.required injective_text (.required injective_decimals
    (.required Certificate.injective_codec .done))) fun _ => rfl

theorem CardSet.fitsIn_codec : codec.FitsIn 5 :=
  fitsIn_checkedRecord (.required fitsIn_text (.required fitsIn_decimals
    (.required Key.fitsIn_certificate .done)))

end Computation

end Message

/-! ### What is signed -/

/-- What is signed as a whole. The numbers in messages fit their types. -/
inductive Signable where
  | certificate (subject issuer : String) (key : Signature.PublicKey)
  | generationRequest (request : Generation.Request) (wellFormed : request.WellFormed)
  | generationResponse (response : Generation.Response) (wellFormed : response.WellFormed)
  | decryptionShare (share : Computation.DecryptionShare)
  | exponentiationShare (share : Computation.ExponentiationShare)
  | electionKey (key : Computation.ElectionKey)
  | cardSet (s : Computation.CardSet)

namespace Signable

/-- The bytes that are signed. -/
def bytes : Signable → Bytes
  | .certificate subject issuer key => Certificate.package subject issuer key
  | .generationRequest request _ => Signed.message Generation.Request.codec request
  | .generationResponse response _ => Signed.message Generation.Response.codec response
  | .decryptionShare share => Signed.message Computation.DecryptionShare.codec share
  | .exponentiationShare share => Signed.message Computation.ExponentiationShare.codec share
  | .electionKey key => Computation.ElectionKey.codec.write .cbor key
  | .cardSet s => Computation.CardSet.codec.write .cbor s

/-- The data that are written for signing. -/
def data : Signable → Data
  | .certificate subject issuer key => .record [("subject", .text subject),
      ("issuer", .text issuer), ("public_key", .list (key.bytes.map fun b => .nat b.toNat))]
  | .generationRequest request _ => Generation.Request.codec.encode .cbor request
  | .generationResponse response _ => Generation.Response.codec.encode .cbor response
  | .decryptionShare share => Computation.DecryptionShare.codec.encode .cbor share
  | .exponentiationShare share => Computation.ExponentiationShare.codec.encode .cbor share
  | .electionKey key => Computation.ElectionKey.codec.encode .cbor key
  | .cardSet s => Computation.CardSet.codec.encode .cbor s

/-- The names of the fields that are written. -/
def names : Signable → List String
  | .certificate .. => ["subject", "issuer", "public_key"]
  | .generationRequest .. => ["tenant_id", "election_event_id", "verification_card_set_id",
      "chunk_id", "group", "return_code_generation_inputs", "combined_correctness_information"]
  | .generationResponse .. => ["tenant_id", "election_event_id", "verification_card_set_id",
      "chunk_id", "group", "return_code_generation_outputs", "node_id"]
  | .decryptionShare .. => ["decrypt_contribution_result", "exponentiation_proof", "public_key"]
  | .exponentiationShare .. => ["pcc_or_ck_to_long_return_code_share", "exponentiation_proof",
      "voter_choice_return_code_generation_public_key",
      "voter_vote_cast_return_code_generation_public_key"]
  | .electionKey .. => ["election_event_id", "public_key"]
  | .cardSet .. => ["verification_card_set_id", "choice_codes_encryption_public_key",
      "verification_card_set_issuer_certificate"]

theorem bytes_eq_write (a : Signable) : a.bytes = Wire.Cbor.write a.data := by
  cases a <;> rfl

/-- Whatever is signed is a record. -/
theorem exists_fields (a : Signable) :
    ∃ fields, a.data = .record fields ∧ fields.map Prod.fst = a.names := by
  cases a <;> exact ⟨_, rfl, rfl⟩

theorem length_names_lt (a : Signable) : a.names.length < 2 ^ 64 := by
  cases a <;> simp [names]

theorem itemsFit_bytes (b : Bytes) (nesting : Nat) :
    Data.ItemsFit nesting (b.map fun x => .nat x.toNat) := by
  induction b with
  | nil => trivial
  | cons x rest ih =>
    have small : x.toNat < 2 ^ 64 := Nat.lt_trans x.toNat_lt (by decide)
    exact ⟨by cases nesting <;> exact small, ih⟩

/-- Whatever is signed can be written. -/
theorem fits_data (a : Signable) : a.data.Fits 5 := by
  cases a with
  | certificate subject issuer key => exact ⟨trivial, trivial, itemsFit_bytes key.bytes 3, trivial⟩
  | generationRequest request wellFormed => exact (wellFormed.keeps_codec).fits
  | generationResponse response wellFormed =>
    exact (Generation.Response.keeps_codec wellFormed.chunkId wellFormed.nodeId).fits
  | decryptionShare share => exact (share.keeps_codec).fits
  | exponentiationShare share => exact (share.keeps_codec).fits
  | electionKey key => exact (key.keeps_codec).fits
  | cardSet s => exact Computation.CardSet.fitsIn_codec s

/-- What is signed for a certificate is told apart from what is signed for another one. -/
theorem data_certificate_inj {subject subject' issuer issuer' : String}
    {key key' : Signature.PublicKey}
    (same : (certificate subject issuer key).data = (certificate subject' issuer' key').data) :
    certificate subject issuer key = certificate subject' issuer' key' := by
  simp only [data, Data.record.injEq, List.cons.injEq, Prod.mk.injEq, Data.text.injEq,
    Data.list.injEq, true_and, and_true] at same
  obtain ⟨rfl, rfl, listed⟩ := same
  have bytes : key.bytes = key'.bytes :=
    (List.map_inj_right fun _ _ one => UInt8.toNat_inj.1 (Data.nat.inj one)).1 listed
  rw [show key = key' from congrArg Signature.PublicKey.mk bytes]

/-- Data are signed for one object only. -/
theorem data_injective : Function.Injective data := by
  intro a b same
  -- The names tell of which kind the two are.
  have named : a.names = b.names := by
    obtain ⟨fields, written, names⟩ := a.exists_fields
    obtain ⟨fields', written', names'⟩ := b.exists_fields
    rw [← names, ← names', Data.record.inj (written.symm.trans (same.trans written'))]
  cases a <;> cases b
  case certificate.certificate => exact data_certificate_inj same
  case generationRequest.generationRequest =>
    cases Generation.Request.injective_codec .cbor same
    rfl
  case generationResponse.generationResponse =>
    cases Generation.Response.injective_codec .cbor same
    rfl
  case decryptionShare.decryptionShare =>
    exact congrArg decryptionShare (Computation.DecryptionShare.injective_codec .cbor same)
  case exponentiationShare.exponentiationShare =>
    exact congrArg exponentiationShare (Computation.ExponentiationShare.injective_codec .cbor same)
  case electionKey.electionKey =>
    exact congrArg electionKey (Computation.ElectionKey.injective_codec .cbor same)
  case cardSet.cardSet => exact congrArg cardSet (Computation.CardSet.injective_codec .cbor same)
  all_goals simp [names] at named

/-- What is signed as a whole is no text. -/
theorem bytes_ne_ofText (a : Signable) (text : String) : a.bytes ≠ Bytes.ofText text := by
  obtain ⟨fields, written, names⟩ := a.exists_fields
  have few : fields.length < 2 ^ 64 := by
    rw [← List.length_map Prod.fst, names]
    exact a.length_names_lt
  rw [bytes_eq_write, written]
  exact Wire.Cbor.write_record_ne_ofText few text

/-- A signature for one object counts for no other: the signed bytes are the same only if the kind
and the object are, and they are never those of a public key that is signed with two identifiers. No
machine holds so many bytes that their number takes more than the 64 bits a length is written in. -/
theorem bytes_determine (a : Signable) :
    (∀ b : Signable, a.bytes.length < 2 ^ 64 → (a.bytes = b.bytes ↔ a = b)) ∧
    (∀ key electionId resourceId,
      a.bytes ≠ Key.SignedPublicKey.message key electionId resourceId) ∧
    ∀ vote : Vote, a.bytes ≠ vote.signedBytes := by
  refine ⟨fun b small => ⟨fun same => ?_, congrArg bytes⟩, fun key electionId resourceId => ?_,
    fun vote => ?_⟩
  · rw [bytes_eq_write] at small same
    rw [bytes_eq_write] at same
    exact data_injective (Wire.Cbor.write_inj a.fits_data b.fits_data (by decide) small same)
  · rw [Key.SignedPublicKey.message, ElGamal.PublicKey.toBytes, ← Bytes.ofText_append,
      ← Bytes.ofText_append]
    exact a.bytes_ne_ofText _
  · rw [Vote.signedBytes, Vote.cardPublicKeyBytes, ← Bytes.ofText_append, ← Bytes.ofText_append]
    exact a.bytes_ne_ofText _

/-- What is signed for an election key is not signed for a share that holds the same numbers. -/
theorem bytes_electionKey_ne_decryptionShare :
    let a := electionKey ⟨"event", [7]⟩
    let b := decryptionShare ⟨[7], ⟨1, 2⟩, [7]⟩
    a.bytes.length < 2 ^ 64 ∧ a.bytes ≠ b.bytes := by
  intro a b
  have small : a.bytes.length < 2 ^ 64 := by decide +kernel
  have different : a ≠ b := by simp [a, b]
  exact ⟨small, fun same => different (((bytes_determine a).1 b small).1 same)⟩

end Signable
end ControlComponent
