import BlockBuilder.Lib.Numerals
import BlockBuilder.Lib.Serde
import BlockBuilder.Primitives.Ssz

/-!
# Submissions and traces as JSON (`crates/primitives/src/bid.rs`, `lib.rs`, `blst/macros.rs`)

The records of `bid.rs` derive their JSON field by field. Their 64-bit numbers are
decimal strings, `value` and `base_fee_per_gas` are written as decimal strings too but
read by the reader of 256-bit numbers, and keys and signatures are hexadecimal strings
of their bytes.

`submission_json` says what comes back from a submission: all of it if its keys and its
signature are valid points, with the members of its objects in any order. Whatever is
accepted has valid keys and a signature that is a point or empty; only the flag of a
signature can differ once it is written and read again, for one that was not compressed.

Mirroring notes:
- `ForeignSerde` is what the types of other crates are written as, and the hexadecimal
  strings of `serde_utils`. `Faithful` is what is relied on: each comes back from its
  own text, and a 256-bit number from its decimal digits. `Plain` is that they are read
  from strings and numbers.
- `from_str_to_u64` reads a borrowed string, `DisplayFromStr` any string.
- A field that is an option is none if it is missing.
-/

namespace BlockBuilder

open Lib (Json Members Reordered Serde beBytes ofBeBytes parseDecimal)

/-! ## Words -/

/-- What the types of other crates are written as. -/
structure ForeignSerde where
  u256 : Serde U256
  fixedBytes : (n : Nat) → Serde (FixedBytes n)
  bytes : Serde Bytes
  hexEncode : Bytes → String
  hexDecode : String → Option Bytes

/-- What is relied on of them. -/
structure ForeignSerde.Faithful (F : ForeignSerde) : Prop where
  u256 : ∀ x, F.u256.RoundTrips x
  u256_decimal : ∀ x : U256, F.u256.deserialize (.string (toString x.toNat) false) = some x
  fixedBytes : ∀ n x, (F.fixedBytes n).RoundTrips x
  bytes : ∀ x, F.bytes.RoundTrips x
  hex : ∀ bytes, F.hexDecode (F.hexEncode bytes) = some bytes

/-- `str::parse::<u64>`. -/
def parseU64 (s : String) : Option UInt64 :=
  match parseDecimal s with
  | some n => if n < 2 ^ 64 then some (UInt64.ofNat n) else none
  | none => none

theorem parseU64_toString (value : UInt64) : parseU64 (toString value.toNat) = some value := by
  unfold parseU64
  rw [Lib.parseDecimal_toString]
  simp only
  rw [if_pos value.toNat_lt, UInt64.ofNat_toNat]

/-- `from_u64_to_str` and `from_str_to_u64`. -/
def fromU64ToStr : Serde UInt64 := .borrowed (fun value => toString value.toNat) parseU64

/-- `DisplayFromStr` of a `u64`. -/
def displayFromStr : Serde UInt64 := .text (fun value => toString value.toNat) parseU64

theorem roundTrips_fromU64ToStr (value : UInt64) : fromU64ToStr.RoundTrips value :=
  parseU64_toString value

theorem roundTrips_displayFromStr (value : UInt64) : displayFromStr.RoundTrips value :=
  parseU64_toString value

namespace ForeignSerde

variable (F : ForeignSerde)

/-- `from_u256_to_str`, with the reader of the type. -/
def fromU256ToStr : Serde U256 where
  serialize value := .string (toString value.toNat) false
  deserialize := F.u256.deserialize

/-- Fixed bytes that a word stands for. -/
def word (n : Nat) : Serde (BitVec (8 * n)) :=
  (F.fixedBytes n).via (fun x => { bytes := beBytes n x.toNat, length_eq := Lib.length_beBytes n _ })
    fun fixed => BitVec.ofNat (8 * n) (ofBeBytes fixed.bytes)

def b256 : Serde B256 := F.word 32
def address : Serde Address := F.word 20
def bloom : Serde Bloom := F.word 256

variable {F}

theorem Faithful.word (h : F.Faithful) (n : Nat) (x : BitVec (8 * n)) : (F.word n).RoundTrips x := by
  refine Serde.roundTrips_via ?_ (h.fixedBytes n _)
  show BitVec.ofNat (8 * n) (ofBeBytes (beBytes n x.toNat)) = x
  rw [Lib.ofBeBytes_beBytes, Nat.mod_eq_of_lt (by rw [pow_256]; exact x.isLt), BitVec.ofNat_toNat,
    BitVec.setWidth_eq]

theorem Faithful.fromU256ToStr (h : F.Faithful) (value : U256) : F.fromU256ToStr.RoundTrips value :=
  h.u256_decimal value

theorem Faithful.b256 (h : F.Faithful) (x : B256) : F.b256.RoundTrips x := h.word 32 x
theorem Faithful.address (h : F.Faithful) (x : Address) : F.address.RoundTrips x := h.word 20 x
theorem Faithful.bloom (h : F.Faithful) (x : Bloom) : F.bloom.RoundTrips x := h.word 256 x

end ForeignSerde

/-! ## The records -/

variable {Pub Sig : Type} (F : ForeignSerde) (blst : Blst Pub Sig)

/-- `impl_serde_serialize`, `impl_serde_deserialize`, `impl_display` and `impl_from_str`. -/
def pointSerde {Point : Type} (serialize : Point → Bytes) (deserialize : Bytes → Except BlstError Point) :
    Serde Point :=
  .text (fun point => F.hexEncode (serialize point)) fun s =>
    match F.hexDecode s with
    | some bytes => (deserialize bytes).toOption
    | none => none

def GenericPublicKey.serde : Serde (GenericPublicKey Pub) :=
  pointSerde F (GenericPublicKey.serialize blst) (GenericPublicKey.deserialize blst)

def GenericSignature.serde : Serde (GenericSignature Sig) :=
  pointSerde F (GenericSignature.serialize blst) (GenericSignature.deserialize blst)

namespace BidMessage

def names : List String :=
  ["slot", "parent_hash", "block_hash", "builder_pubkey", "proposer_pubkey",
    "proposer_fee_recipient", "gas_limit", "gas_used", "value"]

def members : Members names (UInt64 × B256 × B256 × GenericPublicKey Pub × GenericPublicKey Pub ×
    Address × UInt64 × UInt64 × U256 × Unit) :=
  .cons "slot" fromU64ToStr <| .cons "parent_hash" F.b256 <| .cons "block_hash" F.b256 <|
  .cons "builder_pubkey" (GenericPublicKey.serde F blst) <|
  .cons "proposer_pubkey" (GenericPublicKey.serde F blst) <|
  .cons "proposer_fee_recipient" F.address <| .cons "gas_limit" fromU64ToStr <|
  .cons "gas_used" fromU64ToStr <| .cons "value" F.fromU256ToStr .nil

def serde : Serde (BidMessage (GenericPublicKey Pub)) :=
  .record (members F blst)
    (fun bid =>
      (bid.slot, bid.parentHash, bid.blockHash, bid.builderPubkey, bid.proposerPubkey,
        bid.proposerFeeRecipient, bid.gasLimit, bid.gasUsed, bid.value, ()))
    fun (slot, parentHash, blockHash, builderPubkey, proposerPubkey, proposerFeeRecipient,
        gasLimit, gasUsed, value, ()) =>
      { slot, parentHash, blockHash, builderPubkey, proposerPubkey, proposerFeeRecipient,
        gasLimit, gasUsed, value }

end BidMessage

/-- The fields of a withdrawal, its numbers in the form of `number`. The consensus client
names them in the same way. -/
def withdrawalMembers (number : Serde UInt64) :
    Members ["index", "validator_index", "address", "amount"]
      (UInt64 × UInt64 × Address × UInt64 × Unit) :=
  .cons "index" number <| .cons "validator_index" number <| .cons "address" F.address <|
  .cons "amount" number .nil

def AlloyWithdrawal.serde : Serde AlloyWithdrawal :=
  .record (withdrawalMembers F fromU64ToStr)
    (fun withdrawal =>
      (withdrawal.index, withdrawal.validatorIndex, withdrawal.address, withdrawal.amount, ()))
    fun (index, validatorIndex, address, amount, ()) =>
      { index, validatorIndex, address, amount }

namespace ExecutionPayload

def names : List String :=
  ["parent_hash", "fee_recipient", "state_root", "receipts_root", "logs_bloom", "prev_randao",
    "block_number", "gas_limit", "gas_used", "timestamp", "extra_data", "base_fee_per_gas",
    "block_hash", "transactions", "withdrawals", "blob_gas_used", "excess_blob_gas"]

def members : Members names (B256 × Address × B256 × B256 × Bloom × B256 × UInt64 × UInt64 × UInt64 ×
    UInt64 × Bytes × U256 × B256 × List Bytes × List AlloyWithdrawal × UInt64 × UInt64 × Unit) :=
  .cons "parent_hash" F.b256 <| .cons "fee_recipient" F.address <| .cons "state_root" F.b256 <|
  .cons "receipts_root" F.b256 <| .cons "logs_bloom" F.bloom <| .cons "prev_randao" F.b256 <|
  .cons "block_number" fromU64ToStr <| .cons "gas_limit" fromU64ToStr <|
  .cons "gas_used" fromU64ToStr <| .cons "timestamp" fromU64ToStr <| .cons "extra_data" F.bytes <|
  .cons "base_fee_per_gas" F.fromU256ToStr <| .cons "block_hash" F.b256 <|
  .cons "transactions" F.bytes.list <| .cons "withdrawals" (AlloyWithdrawal.serde F).list <|
  .cons "blob_gas_used" fromU64ToStr <| .cons "excess_blob_gas" fromU64ToStr .nil

def serde : Serde ExecutionPayload :=
  .record (members F)
    (fun payload =>
      (payload.parentHash, payload.feeRecipient, payload.stateRoot, payload.receiptsRoot,
        payload.logsBloom, payload.prevRandao, payload.blockNumber, payload.gasLimit,
        payload.gasUsed, payload.timestamp, payload.extraData, payload.baseFeePerGas,
        payload.blockHash, payload.transactions, payload.withdrawals, payload.blobGasUsed,
        payload.excessBlobGas, ()))
    fun (parentHash, feeRecipient, stateRoot, receiptsRoot, logsBloom, prevRandao, blockNumber,
        gasLimit, gasUsed, timestamp, extraData, baseFeePerGas, blockHash, transactions,
        withdrawals, blobGasUsed, excessBlobGas, ()) =>
      { parentHash, feeRecipient, stateRoot, receiptsRoot, logsBloom, prevRandao, blockNumber,
        gasLimit, gasUsed, timestamp, extraData, baseFeePerGas, blockHash, transactions,
        withdrawals, blobGasUsed, excessBlobGas }

end ExecutionPayload

namespace BlobsBundleV1

def names : List String := ["commitments", "proofs", "blobs"]

def members : Members names (List Bytes48 × List Bytes48 × List Blob × Unit) :=
  .cons "commitments" (F.fixedBytes 48).list <| .cons "proofs" (F.fixedBytes 48).list <|
  .cons "blobs" (F.fixedBytes 131072).list .nil

def serde : Serde BlobsBundleV1 :=
  .record (members F) (fun bundle => (bundle.commitments, bundle.proofs, bundle.blobs, ()))
    fun (commitments, proofs, blobs, ()) => { commitments, proofs, blobs }

end BlobsBundleV1

namespace SignedBid

def names : List String := ["message", "execution_payload", "blobs_bundle", "signature"]

def members : Members names (BidMessage (GenericPublicKey Pub) × ExecutionPayload × BlobsBundleV1 ×
    GenericSignature Sig × Unit) :=
  .cons "message" (BidMessage.serde F blst) <|
  .cons "execution_payload" (ExecutionPayload.serde F) <|
  .cons "blobs_bundle" (BlobsBundleV1.serde F) <|
  .cons "signature" (GenericSignature.serde F blst) .nil

/-- The fields in order. -/
def fields (bid : SignedBid (GenericPublicKey Pub) (GenericSignature Sig)) :
    BidMessage (GenericPublicKey Pub) × ExecutionPayload × BlobsBundleV1 × GenericSignature Sig × Unit :=
  (bid.message, bid.executionPayload, bid.blobsBundle, bid.signature, ())

def serde : Serde (SignedBid (GenericPublicKey Pub) (GenericSignature Sig)) :=
  .record (members F blst) fields
    fun (message, executionPayload, blobsBundle, signature, ()) =>
      { message, executionPayload, blobsBundle, signature }

end SignedBid

namespace FullBidTrace

def names : List String :=
  ["slot", "parent_hash", "block_hash", "builder_pubkey", "proposer_pubkey",
    "proposer_fee_recipient", "gas_limit", "gas_used", "value", "num_tx", "block_number",
    "timestamp", "timestamp_ms", "optimistic_submission"]

def members : Members names (UInt64 × B256 × B256 × GenericPublicKey Pub × GenericPublicKey Pub ×
    Address × UInt64 × UInt64 × U256 × UInt64 × UInt64 × UInt64 × UInt64 × Option Bool × Unit) :=
  .cons "slot" displayFromStr <| .cons "parent_hash" F.b256 <| .cons "block_hash" F.b256 <|
  .cons "builder_pubkey" (GenericPublicKey.serde F blst) <|
  .cons "proposer_pubkey" (GenericPublicKey.serde F blst) <|
  .cons "proposer_fee_recipient" F.address <| .cons "gas_limit" displayFromStr <|
  .cons "gas_used" displayFromStr <| .cons "value" F.u256 <| .cons "num_tx" displayFromStr <|
  .cons "block_number" displayFromStr <| .cons "timestamp" displayFromStr <|
  .cons "timestamp_ms" displayFromStr <|
  .cons "optimistic_submission" Serde.bool.option .nil (some none)

def serde : Serde (FullBidTrace (GenericPublicKey Pub)) :=
  .record (members F blst)
    (fun trace =>
      (trace.slot, trace.parentHash, trace.blockHash, trace.builderPubkey, trace.proposerPubkey,
        trace.proposerFeeRecipient, trace.gasLimit, trace.gasUsed, trace.value, trace.numTx,
        trace.blockNumber, trace.timestamp, trace.timestampMs, trace.optimisticSubmission, ()))
    fun (slot, parentHash, blockHash, builderPubkey, proposerPubkey, proposerFeeRecipient,
        gasLimit, gasUsed, value, numTx, blockNumber, timestamp, timestampMs,
        optimisticSubmission, ()) =>
      { slot, parentHash, blockHash, builderPubkey, proposerPubkey, proposerFeeRecipient,
        gasLimit, gasUsed, value, numTx, blockNumber, timestamp, timestampMs,
        optimisticSubmission }

end FullBidTrace

/-! ## What comes back -/

section

variable {F} {blst}

theorem toOption_eq_some {ε α : Type} {x : Except ε α} {a : α} : x.toOption = some a ↔ x = .ok a := by
  cases x with
  | error e => exact iff_of_false nofun nofun
  | ok b => exact (Option.some.injEq ..).to_iff.trans (Except.ok.injEq ..).to_iff.symm

section Points

variable {Point : Type} {serialize : Point → Bytes} {deserialize : Bytes → Except BlstError Point}

/-- A point is read back through its bytes. -/
theorem readsBack_pointSerde (hF : F.Faithful) {point point' : Point} :
    (pointSerde F serialize deserialize).ReadsBack point point' ↔
      deserialize (serialize point) = .ok point' := by
  show (match F.hexDecode (F.hexEncode (serialize point)) with
    | some bytes => (deserialize bytes).toOption
    | none => none) = some point' ↔ _
  rw [hF.hex]
  exact toOption_eq_some

/-- What is read as a point is the text of some bytes. -/
theorem bytes_of_pointSerde {json : Json} {point : Point}
    (h : (pointSerde F serialize deserialize).deserialize json = some point) :
    ∃ bytes, deserialize bytes = .ok point := by
  cases json with
  | string s escaped =>
    replace h : (match F.hexDecode s with
      | some bytes => (deserialize bytes).toOption
      | none => none) = some point := h
    split at h
    next bytes _ => exact ⟨bytes, toOption_eq_some.mp h⟩
    next => cases h
  | _ => cases h

end Points

variable {ValidKey : Pub → Prop} {ValidSig : Sig → Prop}

theorem GenericPublicKey.deserialize_serialize (laws : blst.Inverse ValidKey ValidSig)
    {key : GenericPublicKey Pub} :
    deserialize blst (key.serialize blst) = .ok key ↔ key.Valid blst ValidKey := by
  rw [← roundTrips_codec laws]
  unfold codec
  rw [Lib.Codec.roundTrips_ofFixed length_serialize, mapError_eq_ok]

/-- Whatever bytes a key is read from, it is valid. -/
theorem GenericPublicKey.valid_of_deserialize (laws : blst.Inverse ValidKey ValidSig) {bytes : Bytes}
    {key : GenericPublicKey Pub} (h : deserialize blst bytes = .ok key) : key.Valid blst ValidKey := by
  have hlen : bytes.length = publicKeyBytesLen := by
    by_contra hlen
    unfold deserialize TPublicKey.deserialize at h
    rw [if_pos hlen] at h
    split at h
    next => cases h
    next => cases h
  obtain ⟨hinfinity, hkey⟩ := (deserialize_eq_ok hlen).mp h
  obtain ⟨hvalid, hbytes⟩ := laws.compress_keyValidate bytes key.point hlen hkey
  exact ⟨hvalid, fun heq => hinfinity (hbytes.symm.trans heq)⟩

namespace GenericSignature

/-- A valid point, with any flag, or the empty signature. -/
def Sound (ValidSig : Sig → Prop) (signature : GenericSignature Sig) : Prop :=
  match signature.point with
  | some point => ValidSig point
  | none => signature = .empty

/-- The signature with the flag that its compressed bytes have. -/
def normal (blst : Blst Pub Sig) (signature : GenericSignature Sig) : GenericSignature Sig :=
  { signature with isInfinity := signature.serialize blst = infinitySignature }

theorem deserialize_serialize (laws : blst.Inverse ValidKey ValidSig)
    {signature : GenericSignature Sig} :
    deserialize blst (signature.serialize blst) = .ok signature ↔ signature.Valid blst ValidSig := by
  rw [← roundTrips_codec laws]
  unfold codec
  rw [Lib.Codec.roundTrips_ofFixed length_serialize, mapError_eq_ok]

/-- A sound signature comes back with the flag of its bytes. -/
theorem deserialize_normal (laws : blst.Inverse ValidKey ValidSig) {signature : GenericSignature Sig}
    (h : signature.Sound ValidSig) :
    deserialize blst (signature.serialize blst) = .ok (signature.normal blst) := by
  obtain ⟨_ | point, isInfinity⟩ := signature
  · rw [show (⟨none, isInfinity⟩ : GenericSignature Sig) = .empty from h]
    have hflag : noneSignature ≠ infinitySignature := by decide
    refine deserialize_none.mpr ?_
    show (⟨none, decide (noneSignature = infinitySignature)⟩ : GenericSignature Sig) = _
    rw [decide_eq_false hflag]
    rfl
  · have hfrom : blst.fromBytes (blst.toBytes point).bytes = .ok point :=
      laws.fromBytes_toBytes point h
    have hbytes : (blst.toBytes point).bytes ≠ noneSignature := fun heq =>
      laws.none_invalid point (heq ▸ hfrom)
    exact (deserialize_some hbytes).mpr ⟨point, hfrom, rfl⟩

/-- Whatever bytes a signature is read from, it is sound. -/
theorem sound_of_deserialize (hpoint : ∀ bytes point, blst.fromBytes bytes = .ok point → ValidSig point)
    {bytes : Bytes} {signature : GenericSignature Sig} (h : deserialize blst bytes = .ok signature) :
    signature.Sound ValidSig := by
  by_cases hbytes : bytes = noneSignature
  · subst hbytes
    rw [deserialize_none.mp h]
    rfl
  · obtain ⟨point, hfrom, rfl⟩ := (deserialize_some hbytes).mp h
    exact hpoint bytes point hfrom

end GenericSignature

/-- A key is read back if and only if it is valid. -/
theorem roundTrips_keySerde (hF : F.Faithful) (laws : blst.Inverse ValidKey ValidSig)
    {key : GenericPublicKey Pub} :
    (GenericPublicKey.serde F blst).RoundTrips key ↔ key.Valid blst ValidKey :=
  (readsBack_pointSerde hF).trans (GenericPublicKey.deserialize_serialize laws)

theorem valid_of_keySerde (laws : blst.Inverse ValidKey ValidSig) {json : Json}
    {key : GenericPublicKey Pub} (h : (GenericPublicKey.serde F blst).deserialize json = some key) :
    key.Valid blst ValidKey :=
  have ⟨_, hkey⟩ := bytes_of_pointSerde h
  GenericPublicKey.valid_of_deserialize laws hkey

/-! ## The records come back -/

theorem readsBack_withdrawalMembers (hF : F.Faithful) {number : Serde UInt64}
    (hnumber : ∀ value, number.RoundTrips value) (fields : UInt64 × UInt64 × Address × UInt64 × Unit) :
    (withdrawalMembers F number).ReadsBack fields fields := by
  refine (Members.readsBack_tail (hnumber _)).mpr ?_
  refine (Members.readsBack_tail (hnumber _)).mpr ?_
  refine (Members.readsBack_tail (hF.address _)).mpr ?_
  exact (Members.readsBack_tail (hnumber _)).mpr Members.readsBack_nil

theorem AlloyWithdrawal.roundTrips_serde (hF : F.Faithful) (withdrawal : AlloyWithdrawal) :
    (AlloyWithdrawal.serde F).RoundTrips withdrawal :=
  (Serde.readsBack_record (fun _ => rfl) fun _ => rfl).mpr
    (readsBack_withdrawalMembers hF roundTrips_fromU64ToStr _)

theorem ExecutionPayload.roundTrips_serde (hF : F.Faithful) (payload : ExecutionPayload) :
    (ExecutionPayload.serde F).RoundTrips payload := by
  have htransactions : F.bytes.list.RoundTrips payload.transactions :=
    Serde.roundTrips_list.mpr fun _ _ => hF.bytes _
  have hwithdrawals : (AlloyWithdrawal.serde F).list.RoundTrips payload.withdrawals :=
    Serde.roundTrips_list.mpr fun _ _ => AlloyWithdrawal.roundTrips_serde hF _
  have hu64 := roundTrips_fromU64ToStr
  refine (Serde.readsBack_record (fun _ => rfl) fun _ => rfl).mpr ?_
  refine (Members.readsBack_tail (hF.b256 _)).mpr ?_
  refine (Members.readsBack_tail (hF.address _)).mpr ?_
  refine (Members.readsBack_tail (hF.b256 _)).mpr ?_
  refine (Members.readsBack_tail (hF.b256 _)).mpr ?_
  refine (Members.readsBack_tail (hF.bloom _)).mpr ?_
  refine (Members.readsBack_tail (hF.b256 _)).mpr ?_
  refine (Members.readsBack_tail (hu64 _)).mpr ?_
  refine (Members.readsBack_tail (hu64 _)).mpr ?_
  refine (Members.readsBack_tail (hu64 _)).mpr ?_
  refine (Members.readsBack_tail (hu64 _)).mpr ?_
  refine (Members.readsBack_tail (hF.bytes _)).mpr ?_
  refine (Members.readsBack_tail (hF.fromU256ToStr _)).mpr ?_
  refine (Members.readsBack_tail (hF.b256 _)).mpr ?_
  refine (Members.readsBack_tail htransactions).mpr ?_
  refine (Members.readsBack_tail hwithdrawals).mpr ?_
  refine (Members.readsBack_tail (hu64 _)).mpr ?_
  exact (Members.readsBack_tail (hu64 _)).mpr Members.readsBack_nil

theorem BlobsBundleV1.roundTrips_serde (hF : F.Faithful) (bundle : BlobsBundleV1) :
    (BlobsBundleV1.serde F).RoundTrips bundle := by
  have hlist : ∀ {n : Nat} (xs : List (FixedBytes n)), (F.fixedBytes n).list.RoundTrips xs := by
    intro n xs
    exact Serde.roundTrips_list.mpr fun _ _ => hF.fixedBytes n _
  refine (Serde.readsBack_record (fun _ => rfl) fun _ => rfl).mpr ?_
  refine (Members.readsBack_tail (hlist _)).mpr ?_
  refine (Members.readsBack_tail (hlist _)).mpr ?_
  exact (Members.readsBack_tail (hlist _)).mpr Members.readsBack_nil

/-- A message is read back if and only if its keys are valid. -/
theorem BidMessage.roundTrips_serde (hF : F.Faithful) (laws : blst.Inverse ValidKey ValidSig)
    (message : BidMessage (GenericPublicKey Pub)) :
    (BidMessage.serde F blst).RoundTrips message ↔
      message.builderPubkey.Valid blst ValidKey ∧ message.proposerPubkey.Valid blst ValidKey := by
  have hu64 := roundTrips_fromU64ToStr
  refine (Serde.readsBack_record (fun _ => rfl) fun _ => rfl).trans ?_
  refine (Members.readsBack_tail (hu64 _)).trans ?_
  refine (Members.readsBack_tail (hF.b256 _)).trans ?_
  refine (Members.readsBack_tail (hF.b256 _)).trans ?_
  refine Members.readsBack_cons.trans (and_congr (roundTrips_keySerde hF laws) ?_)
  refine Members.readsBack_cons.trans ((and_iff_left ?_).trans (roundTrips_keySerde hF laws))
  refine (Members.readsBack_tail (hF.address _)).mpr ?_
  refine (Members.readsBack_tail (hu64 _)).mpr ?_
  refine (Members.readsBack_tail (hu64 _)).mpr ?_
  exact (Members.readsBack_tail (hF.fromU256ToStr _)).mpr Members.readsBack_nil

/-- A trace is read back if and only if its keys are valid. -/
theorem FullBidTrace.roundTrips_serde (hF : F.Faithful) (laws : blst.Inverse ValidKey ValidSig)
    (trace : FullBidTrace (GenericPublicKey Pub)) :
    (FullBidTrace.serde F blst).RoundTrips trace ↔
      trace.builderPubkey.Valid blst ValidKey ∧ trace.proposerPubkey.Valid blst ValidKey := by
  have hu64 := roundTrips_displayFromStr
  have hoptimistic : Serde.bool.option.RoundTrips trace.optimisticSubmission :=
    Serde.roundTrips_option (fun b hnull => by cases hnull) fun b _ => rfl
  refine (Serde.readsBack_record (fun _ => rfl) fun _ => rfl).trans ?_
  refine (Members.readsBack_tail (hu64 _)).trans ?_
  refine (Members.readsBack_tail (hF.b256 _)).trans ?_
  refine (Members.readsBack_tail (hF.b256 _)).trans ?_
  refine Members.readsBack_cons.trans (and_congr (roundTrips_keySerde hF laws) ?_)
  refine Members.readsBack_cons.trans ((and_iff_left ?_).trans (roundTrips_keySerde hF laws))
  refine (Members.readsBack_tail (hF.address _)).mpr ?_
  refine (Members.readsBack_tail (hu64 _)).mpr ?_
  refine (Members.readsBack_tail (hu64 _)).mpr ?_
  refine (Members.readsBack_tail (hF.u256 _)).mpr ?_
  refine (Members.readsBack_tail (hu64 _)).mpr ?_
  refine (Members.readsBack_tail (hu64 _)).mpr ?_
  refine (Members.readsBack_tail (hu64 _)).mpr ?_
  refine (Members.readsBack_tail (hu64 _)).mpr ?_
  exact (Members.readsBack_tail hoptimistic).mpr Members.readsBack_nil

/-! ## The order of members -/

/-- What the types of other crates are read from has no members. -/
structure ForeignSerde.Plain (F : ForeignSerde) : Prop where
  u256 : F.u256.Unordered
  fixedBytes : ∀ n, (F.fixedBytes n).Unordered
  bytes : F.bytes.Unordered

theorem ForeignSerde.Plain.word (h : F.Plain) (n : Nat) : (F.word n).Unordered :=
  (h.fixedBytes n).via _ _

theorem BidMessage.unordered_serde (h : F.Plain) : (BidMessage.serde F blst).Unordered := by
  have hu64 : fromU64ToStr.Unordered := .borrowed _ _
  have hb256 : F.b256.Unordered := h.word 32
  have haddress : F.address.Unordered := h.word 20
  have hkey : (GenericPublicKey.serde F blst).Unordered := .text _ _
  have hvalue : F.fromU256ToStr.Unordered := h.u256
  exact .record (.cons hu64 <| .cons hb256 <| .cons hb256 <| .cons hkey <| .cons hkey <|
    .cons haddress <| .cons hu64 <| .cons hu64 <| .cons hvalue .nil) _ _

theorem unordered_withdrawalMembers (h : F.Plain) {number : Serde UInt64} (hnumber : number.Unordered) :
    (withdrawalMembers F number).Unordered :=
  have haddress : F.address.Unordered := h.word 20
  .cons hnumber <| .cons hnumber <| .cons haddress <| .cons hnumber .nil

theorem ExecutionPayload.unordered_serde (h : F.Plain) : (ExecutionPayload.serde F).Unordered := by
  have hu64 : fromU64ToStr.Unordered := .borrowed _ _
  have hb256 : F.b256.Unordered := h.word 32
  have haddress : F.address.Unordered := h.word 20
  have hbloom : F.bloom.Unordered := h.word 256
  have hfee : F.fromU256ToStr.Unordered := h.u256
  have hwithdrawal : (AlloyWithdrawal.serde F).Unordered :=
    .record (unordered_withdrawalMembers h hu64) _ _
  exact .record (.cons hb256 <| .cons haddress <| .cons hb256 <| .cons hb256 <| .cons hbloom <|
    .cons hb256 <| .cons hu64 <| .cons hu64 <| .cons hu64 <| .cons hu64 <| .cons h.bytes <|
    .cons hfee <| .cons hb256 <| .cons h.bytes.list <| .cons hwithdrawal.list <| .cons hu64 <|
    .cons hu64 .nil) _ _

theorem BlobsBundleV1.unordered_serde (h : F.Plain) : (BlobsBundleV1.serde F).Unordered :=
  .record (.cons (h.fixedBytes 48).list <| .cons (h.fixedBytes 48).list <|
    .cons (h.fixedBytes 131072).list .nil) _ _

theorem SignedBid.unordered_serde (h : F.Plain) : (SignedBid.serde F blst).Unordered :=
  .record (.cons (BidMessage.unordered_serde h) <| .cons (ExecutionPayload.unordered_serde h) <|
    .cons (BlobsBundleV1.unordered_serde h) <| .cons (.text _ _) .nil) _ _

/-! ## Submissions -/

/-- A message that is read would be read back, as its keys are valid. -/
theorem BidMessage.stable_serde (hF : F.Faithful) (laws : blst.Inverse ValidKey ValidSig) :
    (BidMessage.serde F blst).Stable id := by
  have hkey : (GenericPublicKey.serde F blst).Stable id := fun json key hread =>
    (roundTrips_keySerde hF laws).mpr (valid_of_keySerde laws hread)
  have hu64 := Serde.Stable.of_roundTrips roundTrips_fromU64ToStr
  have hb256 := Serde.Stable.of_roundTrips hF.b256
  have hvalue := Serde.Stable.of_roundTrips hF.fromU256ToStr
  have hfields : (BidMessage.members F blst).Stable _ :=
    .cons hu64 <| .cons hb256 <| .cons hb256 <| .cons hkey <| .cons hkey <|
    .cons (.of_roundTrips hF.address) <| .cons hu64 <| .cons hu64 <| .cons hvalue .nil
  exact Serde.stable_record hfields (fun _ => rfl) (fun _ => rfl) (fun _ => rfl)

namespace SignedBid

/-- The submission with the flag of its signature that its compressed bytes have. -/
def normal (blst : Blst Pub Sig) (bid : SignedBid (GenericPublicKey Pub) (GenericSignature Sig)) :
    SignedBid (GenericPublicKey Pub) (GenericSignature Sig) :=
  { bid with signature := bid.signature.normal blst }

theorem roundTrips_serde (hF : F.Faithful) (laws : blst.Inverse ValidKey ValidSig)
    (bid : SignedBid (GenericPublicKey Pub) (GenericSignature Sig)) :
    (serde F blst).RoundTrips bid ↔ bid.PointsValid blst ValidKey ValidSig := by
  have hsignature : (GenericSignature.serde F blst).RoundTrips bid.signature ↔
      bid.signature.Valid blst ValidSig :=
    (readsBack_pointSerde hF).trans (GenericSignature.deserialize_serialize laws)
  refine (Serde.readsBack_record (fun _ => rfl) fun _ => rfl).trans ?_
  refine Members.readsBack_cons.trans ?_
  refine (and_congr (BidMessage.roundTrips_serde hF laws bid.message) ?_).trans and_assoc
  refine (Members.readsBack_tail (ExecutionPayload.roundTrips_serde hF _)).trans ?_
  refine (Members.readsBack_tail (BlobsBundleV1.roundTrips_serde hF _)).trans ?_
  exact Members.readsBack_cons.trans ((and_iff_left Members.readsBack_nil).trans hsignature)

/-- **What is read as a submission would be read back in its normal form.** -/
theorem stable_serde (hF : F.Faithful) (laws : blst.Inverse ValidKey ValidSig)
    (hpoint : ∀ bytes point, blst.fromBytes bytes = .ok point → ValidSig point) :
    (serde F blst).Stable (normal blst) := by
  have hsignature : (GenericSignature.serde F blst).Stable (GenericSignature.normal blst) := by
    intro json signature hread
    obtain ⟨bytes, hbytes⟩ := bytes_of_pointSerde hread
    exact (readsBack_pointSerde hF).mpr
      (GenericSignature.deserialize_normal laws (GenericSignature.sound_of_deserialize hpoint hbytes))
  have hfields : (members F blst).Stable _ :=
    .cons (BidMessage.stable_serde hF laws) <|
    .cons (.of_roundTrips (ExecutionPayload.roundTrips_serde hF)) <|
    .cons (.of_roundTrips (BlobsBundleV1.roundTrips_serde hF)) <| .cons hsignature .nil
  exact Serde.stable_record hfields (fun _ => rfl) (fun _ => rfl) (fun _ => rfl)

/-- **Submissions over JSON.** A submission comes back from its own JSON if and only if its
keys and its signature are valid points, and then it does so with its members in any order
at any depth, and with other members among them. Whatever JSON is accepted as a submission,
its normal form has valid points and is what comes back of it. -/
theorem submission_json (hF : F.Faithful) (hplain : F.Plain) (laws : blst.Inverse ValidKey ValidSig)
    (hpoint : ∀ bytes point, blst.fromBytes bytes = .ok point → ValidSig point) :
    (∀ bid, (serde F blst).RoundTrips bid ↔ bid.PointsValid blst ValidKey ValidSig) ∧
    (∀ (bid : SignedBid (GenericPublicKey Pub) (GenericSignature Sig)) others json,
      bid.PointsValid blst ValidKey ValidSig → (∀ m ∈ others, m.1 ∉ names) →
      Reordered (.object ((members F blst).serialize bid.fields ++ others)) json →
      (serde F blst).deserialize json = some bid) ∧
    ∀ json bid, (serde F blst).deserialize json = some bid →
      (bid.normal blst).PointsValid blst ValidKey ValidSig ∧
        (serde F blst).ReadsBack bid (bid.normal blst) := by
  refine ⟨roundTrips_serde hF laws, fun bid others json hvalid hothers hjson => ?_, fun json bid hread => ?_⟩
  · exact Serde.deserialize_of_reordered (unordered_serde hplain)
      ((roundTrips_serde hF laws bid).mpr hvalid) hothers hjson
  · have hback := stable_serde hF laws hpoint json bid hread
    -- the flag is not written
    have hnormal : (serde F blst).RoundTrips (bid.normal blst) := hback
    exact ⟨(roundTrips_serde hF laws _).mp hnormal, hback⟩

end SignedBid

end

/-! ## Hexadecimal strings -/

/-- A string that is read as a number is a quantity, or decimal. -/
def u256OfString (s : String) : Option U256 :=
  match (Lib.ofQuantity s).or (parseDecimal s) with
  | some n => if n < 2 ^ 256 then some (BitVec.ofNat 256 n) else none
  | none => none

/-- The types of other crates as hexadecimal strings. -/
def ForeignSerde.hex : ForeignSerde where
  u256 := .text (fun x => Lib.quantity x.toNat) u256OfString
  fixedBytes n := .text (fun x => Lib.hexEncode x.bytes) fun s =>
    match Lib.hexDecode s with
    | some bytes => if h : bytes.length = n then some ⟨bytes, h⟩ else none
    | none => none
  bytes := .text Lib.hexEncode Lib.hexDecode
  hexEncode := Lib.hexEncode
  hexDecode := Lib.hexDecode

theorem ForeignSerde.faithful_hex : ForeignSerde.hex.Faithful where
  u256 x := by
    show u256OfString (Lib.quantity x.toNat) = some x
    unfold u256OfString
    rw [Lib.ofQuantity_quantity]
    show (if x.toNat < 2 ^ 256 then some (BitVec.ofNat 256 x.toNat) else none) = _
    rw [if_pos x.isLt, BitVec.ofNat_toNat, BitVec.setWidth_eq]
  u256_decimal x := by
    show u256OfString (toString x.toNat) = some x
    unfold u256OfString
    rw [Lib.ofQuantity_toString, Lib.parseDecimal_toString]
    show (if x.toNat < 2 ^ 256 then some (BitVec.ofNat 256 x.toNat) else none) = _
    rw [if_pos x.isLt, BitVec.ofNat_toNat, BitVec.setWidth_eq]
  fixedBytes n x := by
    show (match Lib.hexDecode (Lib.hexEncode x.bytes) with
      | some bytes => if h : bytes.length = n then some (⟨bytes, h⟩ : FixedBytes n) else none
      | none => none) = some x
    rw [Lib.hexDecode_hexEncode]
    exact dif_pos x.length_eq
  bytes x := Lib.hexDecode_hexEncode x
  hex bytes := Lib.hexDecode_hexEncode bytes

theorem ForeignSerde.plain_hex : ForeignSerde.hex.Plain where
  u256 := .text _ _
  fixedBytes _ := .text _ _
  bytes := .text _ _

/-- The members of the generator's submission, in reverse and with one that is not known. -/
theorem submission_json_generator :
    (SignedBid.serde .hex Blst.ofGenerators).deserialize
        (.object (("version", .number 3) ::
          ((SignedBid.members .hex Blst.ofGenerators).serialize (generatorBid [1, 2]).fields).reverse)) =
      some (generatorBid [1, 2]) :=
  (SignedBid.submission_json ForeignSerde.faithful_hex ForeignSerde.plain_hex
    Blst.inverse_ofGenerators fun _ _ _ => trivial).2.1 _ [("version", .number 3)] _
      (generatorBid_pointsValid _) (by decide)
      (.perm (List.perm_append_comm.trans (.append_left _ (List.reverse_perm _).symm)))

end BlockBuilder
