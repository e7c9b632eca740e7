import BlockBuilder.Bundles.Pool

/-!
# The bundle requests (`crates/rpc/src/{utils,send_bundle,cancel_bundle}.rs`)

`eth_sendBundle` checks that there are transactions and a block number, decodes
and recovers every transaction, hashes the transaction hashes into the bundle
hash and adds the bundle to the pool. `eth_cancelBundle` cancels by that hash.
A request that does not get the pool's lock in time answers an internal error.
-/

namespace BlockBuilder

inductive BundlesApiError where
  | emptyBundleTransactions
  | bundleMissingBlockNumber
  deriving DecidableEq, Repr

def BundlesApiError.display : BundlesApiError → String
  | .emptyBundleTransactions => "bundle missing txs"
  | .bundleMissingBlockNumber => "bundle missing blockNumber"

inductive EthApiError where
  | invalidParams (text : String)
  | emptyRawTransactionData
  | failedToDecodeSignedTransaction
  | invalidTransactionSignature
  | internalEthError
  deriving DecidableEq, Repr

/-- `impl From<PoolError> for EthApiError`. -/
def EthApiError.ofPoolError : PoolError → EthApiError
  | .bundleNotFound => .invalidParams "bundle not found"
  | .bundleReplacementFailed => .invalidParams "bundle replacement failed"

def recoverRawTransaction (R : Reth) (data : Bytes) :
    Except EthApiError TransactionSignedEcRecovered :=
  if data.isEmpty then .error .emptyRawTransactionData
  else
    match R.decodePooled data with
    | none => .error .failedToDecodeSignedTransaction
    | some transaction =>
      match transaction.intoEcrecovered with
      | none => .error .invalidTransactionSignature
      | some tx => .ok tx

def recoverTransactions (R : Reth) (txs : List Bytes) (blockNumber : UInt64) :
    Except EthApiError (List TransactionSignedEcRecovered) :=
  if txs.isEmpty then .error (.invalidParams BundlesApiError.emptyBundleTransactions.display)
  else if blockNumber = 0 then
    .error (.invalidParams BundlesApiError.bundleMissingBlockNumber.display)
  else txs.mapM (recoverRawTransaction R)

/-- The bundle a valid request describes. -/
def EthSendBundle.recovered (R : Reth) (bundle : EthSendBundle) : Except EthApiError Bundle :=
  match recoverTransactions R bundle.txs bundle.blockNumber with
  | .error err => .error err
  | .ok txs => .ok (Bundle.ofEthSendBundle bundle (Bundle.createHash R txs))

/-- `EthSendBundle::send`. -/
def EthSendBundle.send (R : Reth) (bundle : EthSendBundle) (pool : BundlePool) (acquired : Bool) :
    Except EthApiError B256 × BundlePool :=
  match bundle.recovered R with
  | .error err => (.error err, pool)
  | .ok b =>
    match pool.addBundle acquired b with
    | (some hash, pool') => (.ok hash, pool')
    | (none, pool') => (.error .internalEthError, pool')

/-- `impl CancelBundle for B256`. -/
def cancelBundleRequest (hash : B256) (pool : BundlePool) (acquired : Bool) :
    Except EthApiError Unit × BundlePool :=
  match pool.cancelBundle acquired hash with
  | (none, pool') => (.error .internalEthError, pool')
  | (some (.error err), pool') => (.error (.ofPoolError err), pool')
  | (some (.ok ()), pool') => (.ok (), pool')

/-- **Acknowledgement.** A submission is answered with a hash exactly when it is
valid and got the lock; the hash is then that of the bundle added. -/
theorem send_eq_ok_iff {R : Reth} {bundle : EthSendBundle} {pool : BundlePool} {acquired : Bool}
    {hash : B256} :
    (bundle.send R pool acquired).1 = .ok hash ↔
      acquired = true ∧ ∃ b, bundle.recovered R = .ok b ∧ b.hash = hash := by
  unfold EthSendBundle.send
  cases hrec : bundle.recovered R with
  | error err => simp
  | ok b =>
    cases acquired with
    | false => simp [BundlePool.addBundle]
    | true => simp [BundlePool.addBundle, BundlePoolInner.addBundle]

/-- A submission that is not acknowledged leaves the pool as it was. -/
theorem send_error_pool {R : Reth} {bundle : EthSendBundle} {pool : BundlePool} {acquired : Bool}
    {err : EthApiError} (h : (bundle.send R pool acquired).1 = .error err) :
    (bundle.send R pool acquired).2 = pool := by
  unfold EthSendBundle.send at h ⊢
  cases hrec : bundle.recovered R with
  | error err => rfl
  | ok b =>
    cases acquired with
    | false => rfl
    | true =>
      rw [hrec] at h
      simp [BundlePool.addBundle] at h

end BlockBuilder
