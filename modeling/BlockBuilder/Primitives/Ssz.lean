import BlockBuilder.Lib.Sequence
import BlockBuilder.Primitives.Blst
import BlockBuilder.Primitives.SigningRoot

/-!
# Submissions as bytes (`crates/primitives/src/ssz.rs`, `bid.rs`)

`ssz.rs` writes the codecs of `Bloom`, `B256`, `U256`, `U64`, `Address` and `Bytes` by
hand, the macros in `blst/` those of keys and signatures, and the records of
`bid.rs` derive theirs field by field.

Mirroring notes:
- The integers are little-endian. `Bloom`, `B256` and `Address` are bytes, most
  significant first in the words that stand for them here.
- `u64`, fixed byte strings and lists have the codecs of the SSZ library.
- A container of fixed fields is read by the same `split`, which takes it at
  exactly its own length.

A submission comes back from its bytes exactly when the offsets its containers
write fit in four bytes (`SignedBid.OffsetsFit`): the blobs may be any number, what
comes before an offset may not. Every byte string that is read is what is written
again.
-/

namespace BlockBuilder

open Lib (ByteOrder Codec Fields leBytes ofLeBytes beBytes ofBeBytes)

variable {n : Nat}

/-! ## Words -/

/-- A word in its `n` bytes. -/
def wordCodec (order : ByteOrder) (n : Nat) : Codec (BitVec (8 * n)) :=
  .ofFixed n (fun x => order.toBytes n x.toNat) fun bytes =>
    .ok (BitVec.ofNat (8 * n) (order.ofBytes bytes))

def Bloom.codec : Codec Bloom := wordCodec .big 256
def U256.codec : Codec U256 := wordCodec .little 32
def Address.codec : Codec Address := wordCodec .big 20

def uint64Codec : Codec UInt64 :=
  .ofFixed 8 (fun x => leBytes 8 x.toNat) fun bytes => .ok (UInt64.ofNat (ofLeBytes bytes))

def U64.codec : Codec UInt64 := uint64Codec

def FixedBytes.codec (n : Nat) : Codec (FixedBytes n) :=
  .ofFixed n FixedBytes.bytes fun bytes =>
    if h : bytes.length = n then .ok { bytes := bytes, length_eq := h }
    else .error (.invalidByteLength bytes.length n)

def Hash256.codec : Codec Hash256 := FixedBytes.codec 32

def B256.ofHash256 (hash : Hash256) : B256 := BitVec.ofNat 256 (ofBeBytes hash.bytes)

/-- By way of `Hash256`. -/
def B256.codec : Codec B256 where
  encode :=
    { isSszFixedLen := Hash256.codec.encode.isSszFixedLen
      sszFixedLen := Hash256.codec.encode.sszFixedLen
      sszBytesLen := fun hash => Hash256.codec.encode.sszBytesLen (B256.toHash256 hash)
      sszAppend := fun hash => Hash256.codec.encode.sszAppend (B256.toHash256 hash) }
  decode :=
    { isSszFixedLen := Hash256.codec.decode.isSszFixedLen
      sszFixedLen := Hash256.codec.decode.sszFixedLen
      fromSszBytes := fun bytes => (Hash256.codec.decode.fromSszBytes bytes).map B256.ofHash256 }

def Bytes.codec : Codec Bytes where
  encode :=
    { isSszFixedLen := false
      sszFixedLen := Lib.bytesPerLengthOffset
      sszBytesLen := List.length
      sszAppend := fun bytes => bytes }
  decode :=
    { isSszFixedLen := false
      sszFixedLen := Lib.bytesPerLengthOffset
      fromSszBytes := fun bytes => .ok bytes }

theorem pow_256 (n : Nat) : 256 ^ n = 2 ^ (8 * n) := (Nat.pow_mul 2 8 n).symm

theorem lawful_wordCodec (order : ByteOrder) (n : Nat) : (wordCodec order n).Lawful := by
  refine Codec.lawful_ofFixed (fun x => order.length_toBytes n _) fun bytes x hlen hread => ?_
  cases hread
  have hlt := order.ofBytes_lt bytes
  rw [hlen, pow_256] at hlt
  rw [BitVec.toNat_ofNat, Nat.mod_eq_of_lt hlt, ← hlen, order.toBytes_ofBytes]

theorem roundTrips_wordCodec (order : ByteOrder) (n : Nat) (x : BitVec (8 * n)) :
    (wordCodec order n).RoundTrips x := by
  have hlt : x.toNat < 256 ^ n := pow_256 n ▸ x.isLt
  refine (Codec.roundTrips_ofFixed fun x => order.length_toBytes n _).mpr ?_
  rw [order.ofBytes_toBytes_of_lt hlt, BitVec.ofNat_toNat, BitVec.setWidth_eq]

theorem lawful_uint64Codec : uint64Codec.Lawful := by
  refine Codec.lawful_ofFixed (fun x => Lib.length_leBytes 8 _) fun bytes x hlen hread => ?_
  cases hread
  have hlt : ofLeBytes bytes < 2 ^ 64 := by
    have hlt := Lib.ofLeBytes_lt bytes
    rwa [hlen] at hlt
  rw [UInt64.toNat_ofNat_of_lt' hlt, ← hlen, Lib.leBytes_ofLeBytes]

theorem roundTrips_uint64Codec (x : UInt64) : uint64Codec.RoundTrips x := by
  refine (Codec.roundTrips_ofFixed fun x => Lib.length_leBytes 8 _).mpr ?_
  have hlt : x.toNat < 256 ^ 8 := x.toNat_lt
  rw [Lib.ofLeBytes_leBytes, Nat.mod_eq_of_lt hlt, UInt64.ofNat_toNat]

theorem lawful_fixedBytes : (FixedBytes.codec n).Lawful := by
  refine Codec.lawful_ofFixed FixedBytes.length_eq fun bytes x hlen hread => ?_
  rw [dif_pos hlen] at hread
  cases hread
  rfl

theorem roundTrips_fixedBytes (x : FixedBytes n) : (FixedBytes.codec n).RoundTrips x := by
  refine (Codec.roundTrips_ofFixed FixedBytes.length_eq).mpr ?_
  rw [dif_pos x.length_eq]

theorem B256.ofHash256_toHash256 (hash : B256) : B256.ofHash256 (B256.toHash256 hash) = hash := by
  have hlt : hash.toNat < 256 ^ 32 := hash.isLt
  rw [ofHash256, bytes_toHash256, Lib.ofBeBytes_beBytes, Nat.mod_eq_of_lt hlt,
    BitVec.ofNat_toNat, BitVec.setWidth_eq]

theorem B256.toHash256_ofHash256 (hash : Hash256) : B256.toHash256 (B256.ofHash256 hash) = hash := by
  have hlt : ofBeBytes hash.bytes < 2 ^ 256 := by
    have hlt := Lib.ofBeBytes_lt hash.bytes
    rwa [hash.length_eq] at hlt
  have hbytes := Lib.beBytes_ofBeBytes hash.bytes
  rw [hash.length_eq] at hbytes
  apply FixedBytes.ext
  rw [bytes_toHash256, ofHash256, BitVec.toNat_ofNat, Nat.mod_eq_of_lt hlt, hbytes]

theorem lawful_b256 : B256.codec.Lawful where
  sameFixed := rfl
  sameLen := rfl
  bytesLen := fun hash => (B256.toHash256 hash).length_eq
  fixedLen := fun _ _ => rfl
  offsetLen := nofun
  canonical := by
    intro bytes x h
    obtain ⟨hash, hread, rfl⟩ := map_eq_ok.mp h
    simp only [B256.codec]
    rw [B256.toHash256_ofHash256]
    exact lawful_fixedBytes.canonical bytes hash hread

theorem roundTrips_b256 (x : B256) : B256.codec.RoundTrips x :=
  map_eq_ok.mpr ⟨B256.toHash256 x, roundTrips_fixedBytes _, B256.ofHash256_toHash256 x⟩

theorem lawful_bytes : Bytes.codec.Lawful where
  sameFixed := rfl
  sameLen := rfl
  bytesLen := fun _ => rfl
  fixedLen := nofun
  offsetLen := fun _ => rfl
  canonical := by
    intro bytes x h
    cases h
    rfl

theorem roundTrips_bytes (x : Bytes) : Bytes.codec.RoundTrips x := rfl

theorem lawful_bloom : Bloom.codec.Lawful := lawful_wordCodec .big 256
theorem lawful_u256 : U256.codec.Lawful := lawful_wordCodec .little 32
theorem lawful_address : Address.codec.Lawful := lawful_wordCodec .big 20

theorem roundTrips_bloom (x : Bloom) : Bloom.codec.RoundTrips x := roundTrips_wordCodec .big 256 x
theorem roundTrips_u256 (x : U256) : U256.codec.RoundTrips x := roundTrips_wordCodec .little 32 x

-- `test_ssz_u256`
example : U256.codec.encode.sszAppend 50 = 50 :: List.replicate 31 0 := by decide

theorem roundTrips_address (x : Address) : Address.codec.RoundTrips x :=
  roundTrips_wordCodec .big 20 x

/-! ## The derived containers -/

variable {Pub Sig : Type} (blst : Blst Pub Sig)

namespace BidMessage

def codecFields : Fields (UInt64 × B256 × B256 × GenericPublicKey Pub × GenericPublicKey Pub ×
    Address × UInt64 × UInt64 × U256 × Unit) :=
  .cons uint64Codec <| .cons B256.codec <| .cons B256.codec <|
  .cons (GenericPublicKey.codec blst) <| .cons (GenericPublicKey.codec blst) <|
  .cons Address.codec <| .cons uint64Codec <| .cons uint64Codec <| .cons U256.codec .nil

def codec : Codec (BidMessage (GenericPublicKey Pub)) :=
  .container (codecFields blst)
    (fun bid =>
      (bid.slot, bid.parentHash, bid.blockHash, bid.builderPubkey, bid.proposerPubkey,
        bid.proposerFeeRecipient, bid.gasLimit, bid.gasUsed, bid.value, ()))
    fun (slot, parentHash, blockHash, builderPubkey, proposerPubkey, proposerFeeRecipient,
        gasLimit, gasUsed, value, ()) =>
      { slot, parentHash, blockHash, builderPubkey, proposerPubkey, proposerFeeRecipient,
        gasLimit, gasUsed, value }

end BidMessage

namespace AlloyWithdrawal

def codecFields : Fields (UInt64 × UInt64 × Address × UInt64 × Unit) :=
  .cons uint64Codec <| .cons uint64Codec <| .cons Address.codec <| .cons uint64Codec .nil

def codec : Codec AlloyWithdrawal :=
  .container codecFields
    (fun withdrawal =>
      (withdrawal.index, withdrawal.validatorIndex, withdrawal.address, withdrawal.amount, ()))
    fun (index, validatorIndex, address, amount, ()) =>
      { index, validatorIndex, address, amount }

end AlloyWithdrawal

namespace ExecutionPayload

def codecFields : Fields (B256 × Address × B256 × B256 × Bloom × B256 × UInt64 × UInt64 × UInt64 ×
    UInt64 × Bytes × U256 × B256 × List Bytes × List AlloyWithdrawal × UInt64 × UInt64 × Unit) :=
  .cons B256.codec <| .cons Address.codec <| .cons B256.codec <| .cons B256.codec <|
  .cons Bloom.codec <| .cons B256.codec <| .cons uint64Codec <| .cons uint64Codec <|
  .cons uint64Codec <| .cons uint64Codec <| .cons Bytes.codec <| .cons U256.codec <|
  .cons B256.codec <| .cons Bytes.codec.vec <| .cons AlloyWithdrawal.codec.vec <|
  .cons uint64Codec <| .cons uint64Codec .nil

def codec : Codec ExecutionPayload :=
  .container codecFields
    (fun payload =>
      (payload.parentHash, payload.feeRecipient, payload.stateRoot, payload.receiptsRoot,
        payload.logsBloom, payload.prevRandao, payload.blockNumber, payload.gasLimit,
        payload.gasUsed, payload.timestamp, payload.extraData, payload.baseFeePerGas,
        payload.blockHash, payload.transactions, payload.withdrawals, payload.blobGasUsed,
        payload.excessBlobGas, ()))
    fun (parentHash, feeRecipient, stateRoot, receiptsRoot, logsBloom, prevRandao, blockNumber,
        gasLimit, gasUsed, timestamp, extraData, baseFeePerGas, blockHash, transactions,
        withdrawals, blobGasUsed, excessBlobGas, ()) =>
      { parentHash, feeRecipient, stateRoot, receiptsRoot, logsBloom, prevRandao, blockNumber,
        gasLimit, gasUsed, timestamp, extraData, baseFeePerGas, blockHash, transactions,
        withdrawals, blobGasUsed, excessBlobGas }

end ExecutionPayload

/-- How many bytes a payload is. -/
def ExecutionPayload.sszLen (payload : ExecutionPayload) : Nat :=
  528 + payload.extraData.length +
    ((payload.transactions.map List.length).sum + 4 * payload.transactions.length) +
    44 * payload.withdrawals.length

namespace BlobsBundleV1

def codecFields : Fields (List Bytes48 × List Bytes48 × List Blob × Unit) :=
  .cons (FixedBytes.codec 48).vec <| .cons (FixedBytes.codec 48).vec <|
  .cons (FixedBytes.codec 131072).vec .nil

def codec : Codec BlobsBundleV1 :=
  .container codecFields (fun bundle => (bundle.commitments, bundle.proofs, bundle.blobs, ()))
    fun (commitments, proofs, blobs, ()) => { commitments, proofs, blobs }

end BlobsBundleV1

namespace SignedBid

def codecFields : Fields (BidMessage (GenericPublicKey Pub) × ExecutionPayload × BlobsBundleV1 ×
    GenericSignature Sig × Unit) :=
  .cons (BidMessage.codec blst) <| .cons ExecutionPayload.codec <| .cons BlobsBundleV1.codec <|
  .cons (GenericSignature.codec blst) .nil

def codec : Codec (SignedBid (GenericPublicKey Pub) (GenericSignature Sig)) :=
  .container (codecFields blst)
    (fun bid => (bid.message, bid.executionPayload, bid.blobsBundle, bid.signature, ()))
    fun (message, executionPayload, blobsBundle, signature, ()) =>
      { message, executionPayload, blobsBundle, signature }

/-- The keys and the signature are points, or the signature is empty. -/
def PointsValid (ValidKey : Pub → Prop) (ValidSig : Sig → Prop)
    (bid : SignedBid (GenericPublicKey Pub) (GenericSignature Sig)) : Prop :=
  bid.message.builderPubkey.Valid blst ValidKey ∧
    bid.message.proposerPubkey.Valid blst ValidKey ∧ bid.signature.Valid blst ValidSig

/-- Where the blobs bundle starts in the submission and the blobs start in it can
be said in four bytes. -/
def OffsetsFit {Pub Sig : Type} (bid : SignedBid Pub Sig) : Prop :=
  340 + bid.executionPayload.sszLen < 2 ^ 32 ∧
    12 + 48 * (bid.blobsBundle.commitments.length + bid.blobsBundle.proofs.length) < 2 ^ 32

instance {Pub Sig : Type} (bid : SignedBid Pub Sig) : Decidable bid.OffsetsFit :=
  inferInstanceAs (Decidable (_ ∧ _))

end SignedBid

/-! ## What comes back -/

section

variable {blst : Blst Pub Sig} {ValidKey : Pub → Prop} {ValidSig : Sig → Prop}

theorem lawful_bidMessageFields (laws : blst.Inverse ValidKey ValidSig) :
    (BidMessage.codecFields blst).Lawful :=
  have hkey := GenericPublicKey.lawful_codec laws
  .cons lawful_uint64Codec <| .cons lawful_b256 <| .cons lawful_b256 <|
  .cons hkey <| .cons hkey <| .cons lawful_address <|
  .cons lawful_uint64Codec <| .cons lawful_uint64Codec <|
  .cons lawful_u256 .nil

theorem lawful_bidMessage (laws : blst.Inverse ValidKey ValidSig) :
    (BidMessage.codec blst).Lawful :=
  Codec.lawful_container (lawful_bidMessageFields laws) fun _ => rfl

/-- All fields of a message are in their slots, so only its keys can fail. -/
theorem roundTrips_bidMessage (laws : blst.Inverse ValidKey ValidSig)
    (bid : BidMessage (GenericPublicKey Pub)) :
    (BidMessage.codec blst).RoundTrips bid ↔
      bid.builderPubkey.Valid blst ValidKey ∧ bid.proposerPubkey.Valid blst ValidKey := by
  unfold BidMessage.codec
  rw [Codec.roundTrips_container (lawful_bidMessageFields laws) (fun _ => rfl) (fun _ => rfl)]
  refine (and_iff_right trivial).trans ?_
  simp only [BidMessage.codecFields, Fields.roundTrips_cons, Fields.roundTrips_nil,
    roundTrips_uint64Codec, roundTrips_b256, roundTrips_address, roundTrips_u256,
    GenericPublicKey.roundTrips_codec laws, true_and, and_true]

theorem lawful_withdrawalFields : AlloyWithdrawal.codecFields.Lawful :=
  .cons lawful_uint64Codec <| .cons lawful_uint64Codec <|
  .cons lawful_address <| .cons lawful_uint64Codec .nil

theorem lawful_withdrawal : AlloyWithdrawal.codec.Lawful :=
  Codec.lawful_container lawful_withdrawalFields fun _ => rfl

theorem roundTrips_withdrawal (withdrawal : AlloyWithdrawal) :
    AlloyWithdrawal.codec.RoundTrips withdrawal := by
  unfold AlloyWithdrawal.codec
  rw [Codec.roundTrips_container lawful_withdrawalFields (fun _ => rfl) (fun _ => rfl)]
  refine ⟨trivial, ?_⟩
  simp only [AlloyWithdrawal.codecFields, Fields.roundTrips_cons, Fields.roundTrips_nil,
    roundTrips_uint64Codec, roundTrips_address, true_and]

theorem lawful_transactions : Bytes.codec.vec.Lawful := Codec.lawful_vec lawful_bytes nofun

theorem lawful_withdrawals : AlloyWithdrawal.codec.vec.Lawful :=
  Codec.lawful_vec lawful_withdrawal fun _ => by decide

theorem lawful_payloadFields : ExecutionPayload.codecFields.Lawful :=
  .cons lawful_b256 <| .cons lawful_address <| .cons lawful_b256 <| .cons lawful_b256 <|
  .cons lawful_bloom <| .cons lawful_b256 <| .cons lawful_uint64Codec <|
  .cons lawful_uint64Codec <| .cons lawful_uint64Codec <| .cons lawful_uint64Codec <|
  .cons lawful_bytes <| .cons lawful_u256 <| .cons lawful_b256 <| .cons lawful_transactions <|
  .cons lawful_withdrawals <| .cons lawful_uint64Codec <| .cons lawful_uint64Codec .nil

theorem lawful_payload : ExecutionPayload.codec.Lawful :=
  Codec.lawful_container lawful_payloadFields fun _ => rfl

theorem length_payload (payload : ExecutionPayload) :
    (ExecutionPayload.codec.encode.sszAppend payload).length = payload.sszLen := by
  unfold ExecutionPayload.codec ExecutionPayload.sszLen
  rw [Codec.length_container lawful_payloadFields]
  have hfixed : ExecutionPayload.codecFields.fixedLens = 528 := by decide
  have hflag : AlloyWithdrawal.codec.encode.isSszFixedLen = true := by decide
  have hlen : AlloyWithdrawal.codec.encode.sszFixedLen = 44 := by decide
  rw [hfixed]
  simp only [ExecutionPayload.codecFields, Fields.cons, Fields.nil, B256.codec, Hash256.codec,
    FixedBytes.codec, Address.codec, Bloom.codec, U256.codec, wordCodec, uint64Codec,
    Bytes.codec, Codec.ofFixed, Codec.vec, Lib.bytesPerLengthOffset, hflag, hlen, if_true,
    Bool.false_eq_true, if_false, Nat.zero_add, Nat.add_zero]
  omega

/-- A payload that an offset can point past has no offset of its own that does not fit. -/
theorem roundTrips_payload {payload : ExecutionPayload} (h : payload.sszLen < 2 ^ 32) :
    ExecutionPayload.codec.RoundTrips payload := by
  have htransactions : Bytes.codec.vec.RoundTrips payload.transactions := by
    refine Codec.roundTrips_vec_of_length_lt lawful_bytes nofun (fun x _ => rfl) ?_
    rw [Codec.length_vec lawful_bytes.toDeclares]
    have hlen : Bytes.codec.vec.encode.sszBytesLen payload.transactions =
        (payload.transactions.map List.length).sum + 4 * payload.transactions.length := rfl
    unfold ExecutionPayload.sszLen at h
    exact lt_of_le_of_lt (by omega) h
  have hwithdrawals : AlloyWithdrawal.codec.vec.RoundTrips payload.withdrawals :=
    (Codec.roundTrips_vec lawful_withdrawal (fun _ => by decide) _).mpr
      ⟨fun withdrawal _ => roundTrips_withdrawal withdrawal, nofun⟩
  refine Codec.roundTrips_container_of_length_lt lawful_payloadFields (fun _ => rfl)
    (fun _ => rfl) ?_ ((length_payload payload).trans_lt h)
  simp only [ExecutionPayload.codecFields, Fields.roundTrips_cons, Fields.roundTrips_nil,
    roundTrips_b256, roundTrips_address, roundTrips_bloom, roundTrips_uint64Codec,
    roundTrips_bytes, roundTrips_u256, htransactions, hwithdrawals, true_and]

theorem lawful_fixedBytesList {n : Nat} (hn : 0 < n) : (FixedBytes.codec n).vec.Lawful :=
  Codec.lawful_vec lawful_fixedBytes fun _ => hn

theorem roundTrips_fixedBytesList {n : Nat} (hn : 0 < n) (xs : List (FixedBytes n)) :
    (FixedBytes.codec n).vec.RoundTrips xs :=
  (Codec.roundTrips_vec lawful_fixedBytes (fun _ => hn) xs).mpr
    ⟨fun x _ => roundTrips_fixedBytes x, nofun⟩

theorem lawful_blobsFields : BlobsBundleV1.codecFields.Lawful :=
  .cons (lawful_fixedBytesList (by decide)) <| .cons (lawful_fixedBytesList (by decide)) <|
  .cons (lawful_fixedBytesList (by decide)) .nil

theorem lawful_blobsBundle : BlobsBundleV1.codec.Lawful :=
  Codec.lawful_container lawful_blobsFields fun _ => rfl

/-- The blobs come last, so they may be any number. -/
theorem roundTrips_blobsBundle (bundle : BlobsBundleV1) :
    BlobsBundleV1.codec.RoundTrips bundle ↔
      12 + 48 * (bundle.commitments.length + bundle.proofs.length) < 2 ^ 32 := by
  unfold BlobsBundleV1.codec
  rw [Codec.roundTrips_container lawful_blobsFields (fun _ => rfl) (fun _ => rfl)]
  have hlen : ∀ xs : List Bytes48,
      ((FixedBytes.codec 48).vec.encode.sszAppend xs).length = 48 * xs.length :=
    Codec.length_vec lawful_fixedBytes.toDeclares
  have hoffsets : Lib.OffsetsFit BlobsBundleV1.codecFields.fixedLens
      BlobsBundleV1.codecFields.encodeSlots
      (BlobsBundleV1.codecFields.parts (bundle.commitments, bundle.proofs, bundle.blobs, ())) ↔
      12 < 2 ^ 32 ∧ 12 + ((FixedBytes.codec 48).vec.encode.sszAppend bundle.commitments).length <
          2 ^ 32 ∧
        12 + ((FixedBytes.codec 48).vec.encode.sszAppend bundle.commitments).length +
          ((FixedBytes.codec 48).vec.encode.sszAppend bundle.proofs).length < 2 ^ 32 ∧ True :=
    .rfl
  rw [hoffsets, hlen, hlen]
  simp only [BlobsBundleV1.codecFields, Fields.roundTrips_cons, Fields.roundTrips_nil,
    roundTrips_fixedBytesList (show 0 < 48 by decide),
    roundTrips_fixedBytesList (show 0 < 131072 by decide), and_true]
  omega

theorem lawful_signedBidFields (laws : blst.Inverse ValidKey ValidSig) :
    (SignedBid.codecFields blst).Lawful :=
  .cons (lawful_bidMessage laws) <| .cons lawful_payload <| .cons lawful_blobsBundle <|
  .cons (GenericSignature.lawful_codec laws) .nil

theorem lawful_signedBid (laws : blst.Inverse ValidKey ValidSig) :
    (SignedBid.codec blst).Lawful :=
  Codec.lawful_container (lawful_signedBidFields laws) fun _ => rfl

theorem roundTrips_signedBid (laws : blst.Inverse ValidKey ValidSig)
    (bid : SignedBid (GenericPublicKey Pub) (GenericSignature Sig)) :
    (SignedBid.codec blst).RoundTrips bid ↔
      bid.PointsValid blst ValidKey ValidSig ∧ bid.OffsetsFit := by
  unfold SignedBid.codec
  rw [Codec.roundTrips_container (lawful_signedBidFields laws) (fun _ => rfl) (fun _ => rfl)]
  have hoffsets : Lib.OffsetsFit (SignedBid.codecFields blst).fixedLens
      (SignedBid.codecFields blst).encodeSlots
      ((SignedBid.codecFields blst).parts
        (bid.message, bid.executionPayload, bid.blobsBundle, bid.signature, ())) ↔
      340 < 2 ^ 32 ∧
        340 + (ExecutionPayload.codec.encode.sszAppend bid.executionPayload).length < 2 ^ 32 ∧
        True :=
    .rfl
  rw [hoffsets, length_payload]
  simp only [SignedBid.codecFields, Fields.roundTrips_cons, Fields.roundTrips_nil,
    roundTrips_bidMessage laws, roundTrips_blobsBundle, GenericSignature.roundTrips_codec laws,
    SignedBid.PointsValid, SignedBid.OffsetsFit]
  constructor
  · rintro ⟨⟨_, hpayload, _⟩, ⟨hbuilder, hproposer⟩, _, hblobs, hsignature, _⟩
    exact ⟨⟨hbuilder, hproposer, hsignature⟩, hpayload, hblobs⟩
  · rintro ⟨⟨hbuilder, hproposer, hsignature⟩, hpayload, hblobs⟩
    exact ⟨⟨by decide, hpayload, trivial⟩, ⟨hbuilder, hproposer⟩,
      roundTrips_payload (by omega), hblobs, hsignature, trivial⟩

/-- **A submission comes back from its bytes exactly when its offsets fit**, what is
read is written again as it was, and the hand-written codecs declare their lengths
as they are. -/
theorem submission_comes_back (laws : blst.Inverse ValidKey ValidSig) :
    (∀ bid : SignedBid (GenericPublicKey Pub) (GenericSignature Sig),
        bid.PointsValid blst ValidKey ValidSig →
          ((SignedBid.codec blst).decode.fromSszBytes
              ((SignedBid.codec blst).encode.sszAppend bid) = .ok bid ↔ bid.OffsetsFit)) ∧
      (∀ (bytes : Bytes) (bid : SignedBid (GenericPublicKey Pub) (GenericSignature Sig)),
        (SignedBid.codec blst).decode.fromSszBytes bytes = .ok bid →
          (SignedBid.codec blst).encode.sszAppend bid = bytes) ∧
      Bloom.codec.Declares ∧ B256.codec.Declares ∧ U256.codec.Declares ∧ U64.codec.Declares ∧
      Address.codec.Declares ∧ Bytes.codec.Declares :=
  ⟨fun bid hvalid => (roundTrips_signedBid laws bid).trans (and_iff_right hvalid),
    (lawful_signedBid laws).canonical, lawful_bloom.toDeclares, lawful_b256.toDeclares,
    lawful_u256.toDeclares, lawful_uint64Codec.toDeclares, lawful_address.toDeclares,
    lawful_bytes.toDeclares⟩

end

/-- An unsigned submission by the generator, with a transaction and a withdrawal. -/
def generatorBid (extraData : Bytes) :
    SignedBid (GenericPublicKey Unit) (GenericSignature Unit) where
  message :=
    { slot := 1, parentHash := 2, blockHash := 3, builderPubkey := { point := () },
      proposerPubkey := { point := () }, proposerFeeRecipient := 4, gasLimit := 30000000,
      gasUsed := 21000, value := 5 }
  executionPayload :=
    { parentHash := 2, feeRecipient := 4, stateRoot := 6, receiptsRoot := 7, logsBloom := 0,
      prevRandao := 8, blockNumber := 9, gasLimit := 30000000, gasUsed := 21000, timestamp := 12,
      extraData := extraData, baseFeePerGas := 7, blockHash := 3, transactions := [[2, 1]],
      withdrawals := [{ index := 0, validatorIndex := 1, address := 4, amount := 1 }],
      blobGasUsed := 0, excessBlobGas := 0 }
  blobsBundle := { commitments := [], proofs := [], blobs := [] }
  signature := .empty

theorem generatorBid_pointsValid (extraData : Bytes) :
    (generatorBid extraData).PointsValid Blst.ofGenerators (fun _ => True) (fun _ => True) := by
  have hne : generatorG1.bytes ≠ infinityPublicKey := by decide +kernel
  exact ⟨⟨trivial, hne⟩, ⟨trivial, hne⟩, rfl⟩

theorem submission_comes_back_generator :
    (SignedBid.codec Blst.ofGenerators).decode.fromSszBytes
        ((SignedBid.codec Blst.ofGenerators).encode.sszAppend (generatorBid [1, 2, 3])) =
      .ok (generatorBid [1, 2, 3]) :=
  ((submission_comes_back Blst.inverse_ofGenerators).1 _ (generatorBid_pointsValid _)).mpr
    (by decide)

theorem sszLen_generatorBid (extraData : Bytes) :
    (generatorBid extraData).executionPayload.sszLen = extraData.length + 578 := by
  unfold ExecutionPayload.sszLen
  simp only [generatorBid, List.map_cons, List.map_nil, List.length_cons, List.length_nil,
    List.sum_cons, List.sum_nil]
  omega

/-- Extra data of four gigabytes: every point is valid, and no offset reaches the
blobs bundle. -/
theorem long_submission_does_not_come_back :
    (generatorBid (List.replicate (2 ^ 32) 0)).PointsValid Blst.ofGenerators (fun _ => True)
        (fun _ => True) ∧
      (SignedBid.codec Blst.ofGenerators).decode.fromSszBytes
          ((SignedBid.codec Blst.ofGenerators).encode.sszAppend
            (generatorBid (List.replicate (2 ^ 32) 0))) ≠
        .ok (generatorBid (List.replicate (2 ^ 32) 0)) := by
  refine ⟨generatorBid_pointsValid _, fun h => ?_⟩
  have hfit := ((roundTrips_signedBid Blst.inverse_ofGenerators _).mp h).2.1
  rw [sszLen_generatorBid, List.length_replicate] at hfit
  omega

end BlockBuilder
