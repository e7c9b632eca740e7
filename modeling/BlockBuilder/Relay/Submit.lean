import BlockBuilder.Relay.InternalRelay

/-!
# Handing a submission to a relay (`crates/relay/src/client/mod.rs`, `crates/grpc/src/gen/mod.rs`)

A relay takes submissions in one of four forms: the bytes of SSZ, these compressed, JSON,
or the message of a gRPC call, which has the same fields as byte strings of its own.

Whatever the form, nothing of a submission is lost: two submissions that are handed over as
the same request are the same (`submit_bid_lossless`). For SSZ this needs offsets that fit,
and for all of them valid points.

Mirroring notes:
- `gzip` is the encoder with its compression, which can be undone.
- A message of gRPC is its fields; how these are laid out is left out.
-/

namespace BlockBuilder

open Lib (Json beBytes)

/-! ## The message of gRPC -/

namespace Grpc

structure BidTrace where
  slot : UInt64
  parentHash : Bytes
  blockHash : Bytes
  builderPubkey : Bytes
  proposerPubkey : Bytes
  proposerFeeRecipient : Bytes
  gasLimit : UInt64
  gasUsed : UInt64
  value : String
  deriving DecidableEq, Repr

structure Withdrawal where
  index : UInt64
  validatorIndex : UInt64
  address : Bytes
  amount : UInt64
  deriving DecidableEq, Repr

structure BlobsBundle where
  commitments : List Bytes
  proofs : List Bytes
  blobs : List Bytes
  deriving DecidableEq, Repr

structure CompressTx where
  rawData : Bytes
  deriving DecidableEq, Repr

structure ExecutionPayload where
  parentHash : Bytes
  stateRoot : Bytes
  receiptsRoot : Bytes
  logsBloom : Bytes
  prevRandao : Bytes
  extraData : Bytes
  baseFeePerGas : Bytes
  feeRecipient : Bytes
  blockHash : Bytes
  transactions : List CompressTx
  withdrawals : List Withdrawal
  blockNumber : UInt64
  gasLimit : UInt64
  timestamp : UInt64
  gasUsed : UInt64
  blobGasUsed : UInt64
  excessBlobGas : UInt64
  deriving DecidableEq, Repr

structure SubmitBlockRequest where
  bidTrace : Option BidTrace
  executionPayload : Option ExecutionPayload
  signature : Bytes
  blobsBundle : Option BlobsBundle
  deriving DecidableEq, Repr

structure SubmitBlockResponse where
  code : Int64
  message : String
  deriving DecidableEq, Repr

end Grpc

variable {Pub Sig : Type} (blst : Blst Pub Sig)

def BidMessage.toGrpc (message : BidMessage (GenericPublicKey Pub)) : Grpc.BidTrace where
  slot := message.slot
  parentHash := beBytes 32 message.parentHash.toNat
  blockHash := beBytes 32 message.blockHash.toNat
  builderPubkey := message.builderPubkey.serialize blst
  proposerPubkey := message.proposerPubkey.serialize blst
  proposerFeeRecipient := beBytes 20 message.proposerFeeRecipient.toNat
  gasLimit := message.gasLimit
  gasUsed := message.gasUsed
  value := toString message.value.toNat

def AlloyWithdrawal.toGrpc (w : AlloyWithdrawal) : Grpc.Withdrawal where
  index := w.index
  validatorIndex := w.validatorIndex
  address := beBytes 20 w.address.toNat
  amount := w.amount

def ExecutionPayload.toGrpc (payload : ExecutionPayload) : Grpc.ExecutionPayload where
  parentHash := beBytes 32 payload.parentHash.toNat
  stateRoot := beBytes 32 payload.stateRoot.toNat
  receiptsRoot := beBytes 32 payload.receiptsRoot.toNat
  logsBloom := beBytes 256 payload.logsBloom.toNat
  prevRandao := beBytes 32 payload.prevRandao.toNat
  extraData := payload.extraData
  baseFeePerGas := beBytes 32 payload.baseFeePerGas.toNat
  feeRecipient := beBytes 20 payload.feeRecipient.toNat
  blockHash := beBytes 32 payload.blockHash.toNat
  transactions := payload.transactions.map fun t => ⟨t⟩
  withdrawals := payload.withdrawals.map AlloyWithdrawal.toGrpc
  blockNumber := payload.blockNumber
  gasLimit := payload.gasLimit
  timestamp := payload.timestamp
  gasUsed := payload.gasUsed
  blobGasUsed := payload.blobGasUsed
  excessBlobGas := payload.excessBlobGas

def BlobsBundleV1.toGrpc (bundle : BlobsBundleV1) : Grpc.BlobsBundle where
  commitments := bundle.commitments.map FixedBytes.bytes
  proofs := bundle.proofs.map FixedBytes.bytes
  blobs := bundle.blobs.map FixedBytes.bytes

/-- `From<SignedBid> for SubmitBlockRequest`. -/
def SignedBid.toGrpc (bid : RelayBid Pub Sig) : Grpc.SubmitBlockRequest where
  bidTrace := some (bid.message.toGrpc blst)
  executionPayload := some bid.executionPayload.toGrpc
  signature := bid.signature.serialize blst
  blobsBundle := some bid.blobsBundle.toGrpc

/-! ## `submit_bid` -/

inductive SubmissionKind where
  | ssz
  | json
  | sszgzip
  /-- With its URL. -/
  | grpc (url : String)
  deriving DecidableEq, Repr

/-- What a relay is handed. -/
inductive SubmitRequest where
  | octets (contentEncoding : Option String) (body : Bytes)
  | http (request : HttpRequest)
  | grpc (request : Grpc.SubmitBlockRequest)

namespace RelayClient

variable (F : ForeignSerde) (gzip : Bytes → Bytes) (toText : Json → String)

/-- The request of `submit_bid`. -/
def submitRequest (bid : RelayBid Pub Sig) : SubmissionKind → SubmitRequest
  | .ssz => .octets none ((SignedBid.codec blst).encode.sszAppend bid)
  | .json => .http (submitBidRequest F blst toText bid)
  | .sszgzip => .octets (some "gzip") (gzip ((SignedBid.codec blst).encode.sszAppend bid))
  | .grpc _ => .grpc (bid.toGrpc blst)

/-- The end of `submit_bid` for gRPC, which has no status of its own. -/
def submitBlock : Except String Grpc.SubmitBlockResponse → Except RelayClientErr SubmitBidResp
  | .ok response => .ok ⟨if response.code = 200 then 200 else 500, response.message⟩
  | .error err => .error (.submit err)

end RelayClient

/-! ## What determines a submission -/

section

variable {blst}

/-- A word is determined by its bytes. -/
theorem beBytes_word_inj {n : Nat} {x y : BitVec (8 * n)} (h : beBytes n x.toNat = beBytes n y.toNat) :
    x = y := by
  have hx : x.toNat < 256 ^ n := by rw [pow_256]; exact x.isLt
  have hy : y.toNat < 256 ^ n := by rw [pow_256]; exact y.isLt
  exact BitVec.eq_of_toNat_eq (Lib.ByteOrder.big.toBytes_inj hx hy h)

theorem toString_word_inj {n : Nat} {x y : BitVec n} (h : toString x.toNat = toString y.toNat) : x = y := by
  have hparsed := congrArg Lib.parseDecimal h
  rw [Lib.parseDecimal_toString, Lib.parseDecimal_toString] at hparsed
  exact BitVec.eq_of_toNat_eq (Option.some.inj hparsed)

variable {ValidKey : Pub → Prop} {ValidSig : Sig → Prop}

theorem GenericPublicKey.serialize_inj (laws : blst.Inverse ValidKey ValidSig)
    {key key' : GenericPublicKey Pub} (hkey : key.Valid blst ValidKey) (hkey' : key'.Valid blst ValidKey)
    (h : key.serialize blst = key'.serialize blst) : key = key' := by
  have hread := (deserialize_serialize laws).mpr hkey
  rw [h, (deserialize_serialize laws).mpr hkey'] at hread
  exact (Except.ok.inj hread).symm

theorem GenericSignature.serialize_inj (laws : blst.Inverse ValidKey ValidSig)
    {signature signature' : GenericSignature Sig} (hvalid : signature.Valid blst ValidSig)
    (hvalid' : signature'.Valid blst ValidSig) (h : signature.serialize blst = signature'.serialize blst) :
    signature = signature' := by
  have hread := (deserialize_serialize laws).mpr hvalid
  rw [h, (deserialize_serialize laws).mpr hvalid'] at hread
  exact (Except.ok.inj hread).symm

theorem BidMessage.toGrpc_inj (laws : blst.Inverse ValidKey ValidSig)
    {message message' : BidMessage (GenericPublicKey Pub)}
    (hbuilder : message.builderPubkey.Valid blst ValidKey)
    (hproposer : message.proposerPubkey.Valid blst ValidKey)
    (hbuilder' : message'.builderPubkey.Valid blst ValidKey)
    (hproposer' : message'.proposerPubkey.Valid blst ValidKey)
    (h : message.toGrpc blst = message'.toGrpc blst) : message = message' := by
  injection h with hslot hparent hblock hkey hkey' hrecipient hlimit hused hvalue
  cases message
  cases message'
  rw [BidMessage.mk.injEq]
  exact ⟨hslot, beBytes_word_inj hparent, beBytes_word_inj hblock,
    GenericPublicKey.serialize_inj laws hbuilder hbuilder' hkey,
    GenericPublicKey.serialize_inj laws hproposer hproposer' hkey',
    beBytes_word_inj hrecipient, hlimit, hused, toString_word_inj hvalue⟩

theorem AlloyWithdrawal.toGrpc_inj : Function.Injective AlloyWithdrawal.toGrpc := by
  rintro ⟨index, validator, address, amount⟩ ⟨index', validator', address', amount'⟩ h
  injection h with hindex hvalidator haddress hamount
  rw [Withdrawal.mk.injEq]
  exact ⟨hindex, hvalidator, beBytes_word_inj haddress, hamount⟩

theorem ExecutionPayload.toGrpc_inj : Function.Injective ExecutionPayload.toGrpc := by
  intro payload payload' h
  injection h with hparent hstate hreceipts hbloom hrandao hextra hfee hrecipient hblock htxs hwithdrawals
    hnumber hlimit htime hused hblob hexcess
  have htransactions : payload.transactions = payload'.transactions :=
    List.map_injective_iff.mpr (fun _ _ heq => congrArg Grpc.CompressTx.rawData heq) htxs
  cases payload
  cases payload'
  rw [ExecutionPayload.mk.injEq]
  exact ⟨beBytes_word_inj hparent, beBytes_word_inj hrecipient, beBytes_word_inj hstate,
    beBytes_word_inj hreceipts, beBytes_word_inj hbloom, beBytes_word_inj hrandao, hnumber, hlimit, hused,
    htime, hextra, beBytes_word_inj hfee, beBytes_word_inj hblock, htransactions,
    List.map_injective_iff.mpr AlloyWithdrawal.toGrpc_inj hwithdrawals, hblob, hexcess⟩

theorem BlobsBundleV1.toGrpc_inj : Function.Injective BlobsBundleV1.toGrpc := by
  intro bundle bundle' h
  injection h with hcommitments hproofs hblobs
  have hbytes : ∀ n, Function.Injective (FixedBytes.bytes : FixedBytes n → Bytes) :=
    fun n x y heq => FixedBytes.ext heq
  cases bundle
  cases bundle'
  rw [BlobsBundleV1.mk.injEq]
  exact ⟨List.map_injective_iff.mpr (hbytes _) hcommitments, List.map_injective_iff.mpr (hbytes _) hproofs,
    List.map_injective_iff.mpr (hbytes _) hblobs⟩

/-- **The message of gRPC has all of a submission.** -/
theorem SignedBid.toGrpc_inj (laws : blst.Inverse ValidKey ValidSig) {bid bid' : RelayBid Pub Sig}
    (hvalid : bid.PointsValid blst ValidKey ValidSig) (hvalid' : bid'.PointsValid blst ValidKey ValidSig)
    (h : bid.toGrpc blst = bid'.toGrpc blst) : bid = bid' := by
  injection h with htrace hpayload hsignature hblobs
  obtain ⟨hbuilder, hproposer, hsigned⟩ := hvalid
  obtain ⟨hbuilder', hproposer', hsigned'⟩ := hvalid'
  have hmessage := BidMessage.toGrpc_inj laws hbuilder hproposer hbuilder' hproposer'
    (Option.some.inj htrace)
  cases bid
  cases bid'
  rw [SignedBid.mk.injEq]
  exact ⟨hmessage, ExecutionPayload.toGrpc_inj (Option.some.inj hpayload),
    BlobsBundleV1.toGrpc_inj (Option.some.inj hblobs),
    GenericSignature.serialize_inj laws hsigned hsigned' hsignature⟩

/-- A submission is determined by its bytes if its offsets fit. -/
theorem SignedBid.sszAppend_inj (laws : blst.Inverse ValidKey ValidSig) {bid bid' : RelayBid Pub Sig}
    (hvalid : bid.PointsValid blst ValidKey ValidSig) (hvalid' : bid'.PointsValid blst ValidKey ValidSig)
    (hfit : bid.OffsetsFit) (hfit' : bid'.OffsetsFit)
    (h : (codec blst).encode.sszAppend bid = (codec blst).encode.sszAppend bid') : bid = bid' := by
  have hread : (codec blst).decode.fromSszBytes ((codec blst).encode.sszAppend bid) = .ok bid :=
    (roundTrips_signedBid laws bid).mpr ⟨hvalid, hfit⟩
  have hread' : (codec blst).decode.fromSszBytes ((codec blst).encode.sszAppend bid') = .ok bid' :=
    (roundTrips_signedBid laws bid').mpr ⟨hvalid', hfit'⟩
  rw [h, hread'] at hread
  exact (Except.ok.inj hread).symm

/-- **Nothing of a submission is lost on the way to a relay.** Whatever way a relay takes
submissions, two of them with valid points that are handed to it as the same request are the
same, for the ways by SSZ if their offsets fit. -/
theorem submit_bid_lossless {F : ForeignSerde} (hF : F.Faithful) (laws : blst.Inverse ValidKey ValidSig)
    {gzip : Bytes → Bytes} (hgzip : Function.Injective gzip) (toText : Json → String)
    (kind : SubmissionKind) (bid bid' : RelayBid Pub Sig)
    (hvalid : bid.PointsValid blst ValidKey ValidSig) (hvalid' : bid'.PointsValid blst ValidKey ValidSig)
    (hfit : kind = .ssz ∨ kind = .sszgzip → bid.OffsetsFit ∧ bid'.OffsetsFit)
    (h : RelayClient.submitRequest blst F gzip toText bid kind =
      RelayClient.submitRequest blst F gzip toText bid' kind) : bid = bid' := by
  cases kind with
  | ssz =>
    injection h with _ hbytes
    exact SignedBid.sszAppend_inj laws hvalid hvalid' (hfit (.inl rfl)).1 (hfit (.inl rfl)).2 hbytes
  | json =>
    injection h with hrequest
    have hbody : (SignedBid.serde F blst).serialize bid = (SignedBid.serde F blst).serialize bid' :=
      Option.some.inj (congrArg HttpRequest.body hrequest)
    have hread : (SignedBid.serde F blst).deserialize ((SignedBid.serde F blst).serialize bid) = some bid :=
      (SignedBid.roundTrips_serde hF laws bid).mpr hvalid
    have hread' : (SignedBid.serde F blst).deserialize ((SignedBid.serde F blst).serialize bid') = some bid' :=
      (SignedBid.roundTrips_serde hF laws bid').mpr hvalid'
    rw [hbody, hread'] at hread
    exact (Option.some.inj hread).symm
  | sszgzip =>
    injection h with _ hbytes
    exact SignedBid.sszAppend_inj laws hvalid hvalid' (hfit (.inr rfl)).1 (hfit (.inr rfl)).2 (hgzip hbytes)
  | grpc url =>
    injection h with hrequest
    exact SignedBid.toGrpc_inj laws hvalid hvalid' hrequest

end

/-- The generator's submission and another with more extra data, as messages of gRPC. -/
theorem submit_bid_lossless_generator :
    RelayClient.submitRequest Blst.ofGenerators .hex id compact (generatorBid [1]) (.grpc "http://0.0.0.0:50051") ≠
      RelayClient.submitRequest Blst.ofGenerators .hex id compact (generatorBid [2])
        (.grpc "http://0.0.0.0:50051") := by
  intro hsame
  have heq := submit_bid_lossless ForeignSerde.faithful_hex Blst.inverse_ofGenerators Function.injective_id
    compact (.grpc "http://0.0.0.0:50051") (generatorBid [1]) (generatorBid [2])
    (generatorBid_pointsValid _) (generatorBid_pointsValid _)
    (fun hkind => by rcases hkind with h | h <;> cases h) hsame
  have hextra : ([1] : Bytes) = [2] := congrArg (fun bid => bid.executionPayload.extraData) heq
  cases hextra

end BlockBuilder
