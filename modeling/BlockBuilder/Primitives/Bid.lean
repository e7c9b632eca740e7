import BlockBuilder.Primitives.Payload

/-!
# Bids as they are submitted (`crates/primitives/src/bid.rs`)

A submission is the message a relay is bid with, the execution payload, the
blobs and a signature of the message. Public keys are points of a curve here
and signatures are whatever the signature library makes them: both are type
variables, as they are generic in the source. `BidMessage.serialized` is the
message with the bytes of its keys, which is the `Bid` that the bidder handles.

Mirroring notes:
- `AlloyWithdrawal` has the fields of a consensus withdrawal and is the same type.
- The time of a trace is read from the system's clock; it is a parameter.
-/

namespace BlockBuilder

/-- `FixedBytes<N>`. -/
structure FixedBytes (n : Nat) where
  bytes : Bytes
  length_eq : bytes.length = n
  deriving DecidableEq, Repr

theorem FixedBytes.ext {n : Nat} {a b : FixedBytes n} (h : a.bytes = b.bytes) : a = b := by
  cases a
  cases b
  cases h
  rfl

abbrev AlloyWithdrawal := Withdrawal
abbrev Bytes48 := FixedBytes 48
abbrev Blob := FixedBytes 131072

/-- The source's `Bid`, its public keys of type `Pub`. -/
structure BidMessage (Pub : Type) where
  slot : UInt64
  parentHash : B256
  blockHash : B256
  builderPubkey : Pub
  proposerPubkey : Pub
  proposerFeeRecipient : Address
  gasLimit : UInt64
  gasUsed : UInt64
  value : U256
  deriving DecidableEq, Repr

structure ExecutionPayload where
  parentHash : B256
  feeRecipient : Address
  stateRoot : B256
  receiptsRoot : B256
  logsBloom : Bloom
  prevRandao : B256
  blockNumber : UInt64
  gasLimit : UInt64
  gasUsed : UInt64
  timestamp : UInt64
  extraData : Bytes
  baseFeePerGas : U256
  blockHash : B256
  transactions : List Bytes
  withdrawals : List AlloyWithdrawal
  blobGasUsed : UInt64
  excessBlobGas : UInt64
  deriving DecidableEq, Repr

structure BlobsBundleV1 where
  commitments : List Bytes48
  proofs : List Bytes48
  blobs : List Blob
  deriving DecidableEq, Repr

structure SignedBid (Pub Sig : Type) where
  message : BidMessage Pub
  executionPayload : ExecutionPayload
  blobsBundle : BlobsBundleV1
  signature : Sig
  deriving DecidableEq, Repr

/-- The source's `BidTrace`, all its fields. -/
structure FullBidTrace (Pub : Type) where
  slot : UInt64
  parentHash : B256
  blockHash : B256
  builderPubkey : Pub
  proposerPubkey : Pub
  proposerFeeRecipient : Address
  gasLimit : UInt64
  gasUsed : UInt64
  value : U256
  numTx : UInt64
  blockNumber : UInt64
  timestamp : UInt64
  timestampMs : UInt64
  optimisticSubmission : Option Bool
  deriving DecidableEq, Repr

variable {Pub Sig : Type}

/-- The message with the bytes of its keys. -/
def BidMessage.serialized (serialize : Pub → BlsPublicKey) (message : BidMessage Pub) : Bid where
  slot := message.slot
  parentHash := message.parentHash
  blockHash := message.blockHash
  builderPubkey := serialize message.builderPubkey
  proposerPubkey := serialize message.proposerPubkey
  proposerFeeRecipient := message.proposerFeeRecipient
  gasLimit := message.gasLimit
  gasUsed := message.gasUsed
  value := message.value

namespace SignedBid

def blockNumber (bid : SignedBid Pub Sig) : UInt64 := bid.executionPayload.blockNumber

def toTrace (bid : SignedBid Pub Sig) (utcNowMs : UInt64) : FullBidTrace Pub where
  slot := bid.message.slot
  parentHash := bid.message.parentHash
  blockHash := bid.message.blockHash
  builderPubkey := bid.message.builderPubkey
  proposerPubkey := bid.message.proposerPubkey
  proposerFeeRecipient := bid.message.proposerFeeRecipient
  gasLimit := bid.message.gasLimit
  gasUsed := bid.message.gasUsed
  value := bid.message.value
  numTx := UInt64.ofNat bid.executionPayload.transactions.length
  blockNumber := bid.executionPayload.blockNumber
  timestamp := bid.executionPayload.timestamp
  timestampMs := utcNowMs
  optimisticSubmission := some true

end SignedBid

end BlockBuilder
