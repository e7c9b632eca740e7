import BlockBuilder.Primitives.Chain

/-!
# Bundles (`crates/bundles/src/bundle.rs`)

A bundle as the pool stores it, with the raw bytes of its transactions, and as
the builder uses it, with the transactions recovered. The time window and the
target block decide when a bundle is eligible and when it is prunable.

`refund_amount` multiplies two `u64`s before widening the product, so the
product wraps; the subtraction and the multiplication after it saturate.
-/

namespace BlockBuilder

/-- Max possible gas limit spent by the payment tx. -/
def MAX_BUILDER_TRANSFER_GAS_LIMIT : UInt64 := 32000

/-- What `eth_sendBundle` receives. -/
structure EthSendBundle where
  txs : List Bytes
  blockNumber : UInt64
  minTimestamp : Option UInt64
  maxTimestamp : Option UInt64
  revertingTxHashes : List B256
  replacementUuid : Option Uuid
  refundPercent : Option UInt64
  refundIndex : Option Nat
  refundRecipient : Option Address
  deriving DecidableEq, Repr

structure BundleRefund where
  percent : UInt64
  index : Option Nat
  recipient : Option Address
  deriving DecidableEq, Repr

namespace BundleRefund

/-- A refund exists if and only if a percentage was given; it is capped at 100. -/
def new (percent : Option UInt64) (index : Option Nat) (recipient : Option Address) :
    Option BundleRefund :=
  percent.map fun percent => ⟨min percent 100, index, recipient⟩

def refundAmount (r : BundleRefund) (fees coinbaseTransfer : U256) (baseFee : UInt64) : U256 :=
  saturatingMul
    (saturatingSub (saturatingAdd fees coinbaseTransfer)
      (U256.ofU64 (MAX_BUILDER_TRANSFER_GAS_LIMIT * baseFee)))
    (U256.ofU64 r.percent) / 100

end BundleRefund

structure Bundle where
  hash : B256
  txs : List Bytes
  blockNumber : UInt64
  minTimestamp : Option UInt64
  maxTimestamp : Option UInt64
  revertingTxHashes : List B256
  replacementUuid : Option Uuid
  refund : Option BundleRefund
  deriving DecidableEq, Repr

/-- `impl From<(&EthSendBundle, B256)> for Bundle`. -/
def Bundle.ofEthSendBundle (bundle : EthSendBundle) (hash : B256) : Bundle where
  hash := hash
  txs := bundle.txs
  blockNumber := bundle.blockNumber
  minTimestamp := bundle.minTimestamp
  maxTimestamp := bundle.maxTimestamp
  revertingTxHashes := bundle.revertingTxHashes
  replacementUuid := bundle.replacementUuid
  refund := BundleRefund.new bundle.refundPercent bundle.refundIndex bundle.refundRecipient

namespace Bundle

/-- No bound means no restriction on that side. -/
def isWithinTimestamp (b : Bundle) (timestamp : UInt64) : Bool :=
  b.minTimestamp.all (fun minTs => minTs ≤ timestamp)
    && b.maxTimestamp.all (fun maxTs => timestamp ≤ maxTs)

def isWithinBlockNumber (b : Bundle) (blockNumber : UInt64) : Bool :=
  blockNumber = b.blockNumber

def isTimestampOutOfBounds (b : Bundle) (timestamp : UInt64) : Bool :=
  b.minTimestamp.any (fun minTs => timestamp < minTs)
    || b.maxTimestamp.any (fun maxTs => maxTs < timestamp)

def isPrunable (b : Bundle) (blockNumber timestamp : UInt64) : Bool :=
  b.isTimestampOutOfBounds timestamp || b.blockNumber < blockNumber

end Bundle

/-- A bundle with its transactions recovered. -/
structure RecoveredBundle where
  recoveredTxs : List TransactionSignedEcRecovered
  revertingTxHashes : List B256
  refund : Option BundleRefund

namespace RecoveredBundle

def new (bundle : Bundle) (txs : List TransactionSignedEcRecovered) : RecoveredBundle :=
  ⟨txs, bundle.revertingTxHashes, bundle.refund⟩

/-- The hashes of the transactions. -/
def txs (b : RecoveredBundle) : List B256 := b.recoveredTxs.map (·.hash)

/-- The index asked for, else the last transaction; none for an empty bundle. -/
def refundIndex (b : RecoveredBundle) : Option Nat :=
  match b.refund.bind (·.index) with
  | some index => some index
  | none => if b.recoveredTxs.length = 0 then none else some (b.recoveredTxs.length - 1)

/-- The recipient asked for, else the signer of the transaction at the refund index. -/
def refundRecipient (b : RecoveredBundle) : Option Address :=
  match b.refund.bind (·.recipient) with
  | some recipient => some recipient
  | none => b.refundIndex.bind fun i => b.recoveredTxs[i]?.map (·.signer)

end RecoveredBundle

/-- Decode and recover every bundle; one undecodable transaction drops its bundle. -/
def Bundle.recoverBundles (R : Reth) (bundles : List Bundle) : List RecoveredBundle :=
  bundles.filterMap fun bundle =>
    (bundle.txs.mapM fun tx => (R.decodeEnveloped tx).bind (·.intoEcrecovered)).map
      (RecoveredBundle.new bundle)

/-- The hash of a bundle: of its transaction hashes, and of nothing else. -/
def Bundle.createHash (R : Reth) (txs : List TransactionSignedEcRecovered) : B256 :=
  R.keccak256 (txs.flatMap fun tx => tx.hash.asSlice)

/-- A window that admits a time is a window that time is not out of. -/
theorem Bundle.isTimestampOutOfBounds_eq_not (b : Bundle) (ts : UInt64) :
    b.isTimestampOutOfBounds ts = !b.isWithinTimestamp ts := by
  unfold isTimestampOutOfBounds isWithinTimestamp
  cases b.minTimestamp <;> cases b.maxTimestamp <;>
    simp [Bool.not_and] <;> grind

end BlockBuilder
