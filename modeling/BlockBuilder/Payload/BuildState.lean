import BlockBuilder.Payload.Db
import BlockBuilder.Payload.Simulation
import BlockBuilder.Primitives.Payload

/-!
# The build state (`strategy/state/{mod,exec_details}.rs`)

A block under construction: its configuration and what has been executed so
far. A transaction or a bundle is simulated on a throw-away database over the
execution db, checked against the room left, and only then committed, so the
two methods that change the state (`executeTransaction`, `executeBundle`)
either fail and change nothing or return the new state and database.

Mirroring notes:
- The source passes `&mut self` and `&mut db`; here the two are returned. On
  an error nothing has been written, so the caller keeps what it had.
- `env` is the expression `Env::boxed(cfg_env, initialized_block_env, ..)`
  that the pre-block call and both simulations build.
- `expect("fee is always valid; execution succeeded")` reads the tip of a
  transaction revm has just executed; revm rejects a fee cap below the base
  fee, so the default `0` used here is not reached.
- A failed `BuildStateExecutionError` becomes text in `BuilderRefundTx`;
  `display` is the text of its `#[error]` attributes.
-/

namespace BlockBuilder

open Lib (Store Overlay)

inductive BuildStateExecutionError where
  | maxGasExceeded
  | maxBlobGasExceeded
  | payloadBuilder (err : PayloadBuilderError)
  | bundleExection (err : EVMError)
  | bundleReverted (index : Nat)
  | ofacAddressDetected (address : Address)
  | builderRefundTx (text : String)
  deriving DecidableEq, Repr

def BuildStateExecutionError.display (R : Reth) : BuildStateExecutionError → String
  | .maxGasExceeded => "Block max gas exceeded"
  | .maxBlobGasExceeded => "Block max blob gas exceeded"
  | .payloadBuilder err => R.displayPayloadBuilderError err
  | .bundleExection err => R.displayEVMError err
  | .bundleReverted index => "Bundle reverted at tx " ++ toString index
  | .ofacAddressDetected a =>
    "Simulation outcome contains ofac blacklisted address " ++ R.displayAddress a
  | .builderRefundTx text => "Builder refund tx failed: " ++ text

/-- The derived `Debug` text. -/
def BuildStateExecutionError.debug (R : Reth) : BuildStateExecutionError → String
  | .maxGasExceeded => "MaxGasExceeded"
  | .maxBlobGasExceeded => "MaxBlobGasExceeded"
  | .payloadBuilder err => "PayloadBuilder(" ++ R.debugPayloadBuilderError err ++ ")"
  | .bundleExection err => "BundleExection(" ++ R.debugEVMError err ++ ")"
  | .bundleReverted index => "BundleReverted(" ++ toString index ++ ")"
  | .ofacAddressDetected a => "OfacAddressDetected(" ++ R.displayAddress a ++ ")"
  | .builderRefundTx text => "BuilderRefundTx(" ++ text.quote ++ ")"

/-- Summary of executed transactions. -/
structure ExecutionDetails where
  executedTxs : List TransactionSigned
  receipts : List (Option Receipt)
  cumulativeGasUsed : UInt64
  cumulativeBlobGasUsed : UInt64
  sumFees : U256
  sumCoinbaseTransfers : U256
  builderPayment : Option U256
  bundleState : Option BundleState

def ExecutionDetails.default : ExecutionDetails := ⟨[], [], 0, 0, 0, 0, none, none⟩

structure BuildState where
  id : BuildId
  payloadConfig : PayloadConfig
  buildConfig : BuildConfig
  execDetails : ExecutionDetails

namespace BuildState

/-- A fresh state, whose environment pays the builder. -/
def new (buildConfig : BuildConfig) (payloadConfig : PayloadConfig) (id : BuildId) :
    BuildState where
  id := id
  payloadConfig := payloadConfig
  buildConfig := buildConfig.blockEnvWithCoinbase payloadConfig.builderAddress
  execDetails := .default

/-- The environment every execution of this build runs in. -/
def env (bs : BuildState) : Env :=
  ⟨bs.buildConfig.initializedCfg, bs.buildConfig.initializedBlockEnv⟩

def coinbase (bs : BuildState) : Address := bs.buildConfig.initializedBlockEnv.coinbase

/-- Total value of the block to the builder. -/
def blockValue (bs : BuildState) : U256 :=
  bs.execDetails.sumFees + bs.execDetails.sumCoinbaseTransfers

def withPayment (bs : BuildState) (builderPayment : U256) : BuildState :=
  { bs with execDetails := { bs.execDetails with builderPayment := some builderPayment } }

def withBundleState (bs : BuildState) (bundleState : BundleState) : BuildState :=
  { bs with execDetails := { bs.execDetails with bundleState := some bundleState } }

/-! ## The pre-block call -/

/-- The beacon root that is handed to the EIP-4788 contract. -/
def preBlockBeaconRoot (bs : BuildState) : Option B256 :=
  bs.buildConfig.parentBlock.header.parentBeaconBlockRoot

def preBlockBeaconRootContractCall (R : Reth) (bs : BuildState) (db : ExecutionDB) :
    Except PayloadBuilderError ExecutionDB :=
  match R.applyBeaconRootContractCall bs.payloadConfig.chainSpec
      bs.buildConfig.attributes.timestamp bs.buildConfig.blockNumber bs.preBlockBeaconRoot
      bs.env db.view with
  | .error err => .error (.internal err)
  | .ok st => .ok (db.commit st)

/-! ## Builder transactions -/

/-- The body of a builder transfer: it pays no tip and may use 32000 gas. -/
def builderTransfer (bs : BuildState) (nonce : UInt64) (recipient : Address) (payment : U256) :
    Transaction where
  txType := .eip1559
  chainId := some bs.buildConfig.initializedCfg.chainId
  nonce := nonce
  gasLimit := MAX_BUILDER_TRANSFER_GAS_LIMIT
  toAddress := some recipient
  value := payment
  maxFeePerGas := BitVec.ofNat 128 bs.buildConfig.initializedBlockEnv.basefee.toNat
  maxPriorityFeePerGas := some 0
  blobVersionedHashes := []
  input := []

/-- Sign with the builder's key. -/
def signBuilderTransfer (R : Reth) (bs : BuildState) (tx : Transaction) :
    TransactionSignedEcRecovered :=
  let signature := R.signMessage bs.payloadConfig.secretKey (R.signatureHash tx)
  { signedTransaction := ⟨R.transactionHash tx signature, signature, tx⟩
    signer := R.publicAddress bs.payloadConfig.secretKey
    recovered := R.signMessage_recovers _ _ }

/-- The builder's transfer of `payment` to `recipient`, with the nonce the
database has for the builder address. -/
def createBuilderTransferTransaction (R : Reth) (bs : BuildState) (db : ChainState)
    (recipient : Address) (payment : U256) :
    Except PayloadBuilderError TransactionSignedEcRecovered :=
  match db.basic bs.payloadConfig.builderAddress with
  | .error err => .error (.ofProvider err)
  | .ok acct =>
    .ok (bs.signBuilderTransfer R
      (bs.builderTransfer (acct.getD AccountInfo.default).nonce recipient payment))

/-! ## Verification -/

/-- Verify that a transaction can be added to the block. -/
def verifySimulatedTransaction (bs : BuildState) (s : SimulatedTransaction) :
    Except BuildStateExecutionError Unit :=
  if bs.execDetails.cumulativeGasUsed + s.outcome.gasUsed + MAX_BUILDER_TRANSFER_GAS_LIMIT
      > bs.buildConfig.blockGasLimit then
    .error .maxGasExceeded
  else if bs.execDetails.cumulativeBlobGasUsed + s.outcome.blobGasUsed
      > MAX_DATA_GAS_PER_BLOCK then
    .error .maxBlobGasExceeded
  else .ok ()

/-- Verify that a bundle can be added to the block. -/
def verifySimulatedBundle (bs : BuildState) (b : SimulatedBundle) :
    Except BuildStateExecutionError Unit :=
  match b.outcome.reverted with
  | some index => .error (.bundleReverted index)
  | none =>
    if bs.execDetails.cumulativeGasUsed + b.outcome.gasUsed + MAX_BUILDER_TRANSFER_GAS_LIMIT
        > bs.buildConfig.blockGasLimit then
      .error .maxGasExceeded
    else if bs.execDetails.cumulativeBlobGasUsed + b.outcome.blobGasUsed
        > MAX_DATA_GAS_PER_BLOCK then
      .error .maxBlobGasExceeded
    else .ok ()

/-! ## Simulation -/

/-- The coinbase balance in the state an execution returns, `0` when it is not there. -/
def coinbaseBalanceAfter (coinbase : Address) (st : EvmState) : U256 :=
  ((st.get coinbase).map (·.info.balance)).getD 0

/-- The outcome derived from an EVM result: the tip as fees, and what the
coinbase gained beyond it as a transfer. Both differences saturate. -/
def simulationOutcome (R : Reth) (coinbase : Address) (basefee : UInt64)
    (coinbaseBalanceBefore : U256) (tx : TransactionSignedEcRecovered) (r : ResultAndState) :
    TransactionSimulationOutcome :=
  let minerFee := (R.effectiveTipPerGas tx.transaction (some basefee)).getD 0
  let fees := U256.ofU128 minerFee * U256.ofU64 r.result.gasUsed
  let coinbaseDiff :=
    saturatingSub (coinbaseBalanceAfter coinbase r.state) coinbaseBalanceBefore
  { evmResult := r.result
    evmState := r.state
    gasUsed := r.result.gasUsed
    blobGasUsed := R.txBlobGas tx.transaction
    fees := fees
    coinbaseTransfer := saturatingSub coinbaseDiff fees }

/-- Simulate a transaction on a simulation db, without writing to it. -/
def simulateTxOnDb (R : Reth) (bs : BuildState) (db : SimulationDB)
    (tx : TransactionSignedEcRecovered) : Except PayloadBuilderError SimulatedTransaction :=
  match db.view.basic bs.coinbase with
  | .error err => .error (.ofProvider err)
  | .ok acct =>
    match R.transact bs.env db.view tx with
    | .error err => .error (.evmExecutionError err)
    | .ok r =>
      .ok ⟨tx, simulationOutcome R bs.coinbase bs.env.block.basefee
        ((acct.map (·.balance)).getD 0) tx r⟩

/-- Simulate a transaction on the execution db. -/
def simulateTx (R : Reth) (bs : BuildState) (db : ExecutionDB)
    (tx : TransactionSignedEcRecovered) : Except PayloadBuilderError SimulatedTransaction :=
  bs.simulateTxOnDb R (simulationDb db) tx

/-- The loop over a bundle's transactions: each runs on the cache the earlier
ones were committed to, with the coinbase balance they left. -/
def simulateBundleTxs (R : Reth) (bs : BuildState) :
    List TransactionSignedEcRecovered → U256 → SimulationDB →
      Except BuildStateExecutionError (List SimulatedTransaction × SimulationDB)
  | [], _, db => .ok ([], db)
  | tx :: txs, coinbaseBalanceBefore, db =>
    match R.transact bs.env db.view tx with
    | .error err => .error (.payloadBuilder (.evmExecutionError err))
    | .ok r =>
      let outcome :=
        simulationOutcome R bs.coinbase bs.buildConfig.basefee coinbaseBalanceBefore tx r
      match outcome.containsOfacAddresses with
      | some address => .error (.ofacAddressDetected address)
      | none =>
        match simulateBundleTxs R bs txs (coinbaseBalanceAfter bs.coinbase r.state)
            (db.commit r.state) with
        | .error err => .error err
        | .ok (sims, db') => .ok (⟨tx, outcome⟩ :: sims, db')

/-- Simulate the refund of a simulated bundle on the database it left. -/
def simulateRefundTx (R : Reth) (bs : BuildState) (db : SimulationDB) (b : SimulatedBundle) :
    Except BuildStateExecutionError (Option SimulatedTransaction) :=
  if b.outcome.refund = 0 then .ok none
  else
    match b.bundle.refundRecipient with
    | none => .ok none
    | some recipient =>
      match bs.createBuilderTransferTransaction R db.view recipient b.outcome.refund with
      | .error err => .error (.payloadBuilder err)
      | .ok tx =>
        match bs.simulateTxOnDb R db tx with
        | .error err => .error (.payloadBuilder err)
        | .ok s =>
          if s.outcome.evmResult.isSuccess then .ok (some s)
          else .error (.builderRefundTx "Transaction reverted")

/-- Simulate a bundle, with its refund, on the execution db. -/
def simulateBundle (R : Reth) (bs : BuildState) (db : ExecutionDB) (bundle : RecoveredBundle) :
    Except BuildStateExecutionError SimulatedBundle :=
  match (simulationDb db).view.basic bs.coinbase with
  | .error err => .error (.payloadBuilder (.ofProvider err))
  | .ok acct =>
    match bs.simulateBundleTxs R bundle.recoveredTxs ((acct.map (·.balance)).getD 0)
        (simulationDb db) with
    | .error err => .error err
    | .ok (sims, db') =>
      let simulated := SimulatedBundle.new bundle sims bs.buildConfig.basefee
      match bs.simulateRefundTx R db' simulated with
      | .error err => .error (.builderRefundTx (err.display R))
      | .ok (some refundTx) => .ok (simulated.addTx refundTx)
      | .ok none => .ok simulated

/-! ## Commit and execution -/

end BuildState

/-- The bookkeeping of one committed transaction. -/
def ExecutionDetails.commitTx (d : ExecutionDetails) (s : SimulatedTransaction) :
    ExecutionDetails :=
  let cumulativeGasUsed := d.cumulativeGasUsed + s.outcome.gasUsed
  { d with
    cumulativeGasUsed := cumulativeGasUsed
    cumulativeBlobGasUsed := d.cumulativeBlobGasUsed + s.outcome.blobGasUsed
    sumFees := d.sumFees + s.outcome.fees
    sumCoinbaseTransfers := d.sumCoinbaseTransfers + s.outcome.coinbaseTransfer
    receipts := d.receipts ++ [some
      { txType := s.tx.transaction.txType
        success := s.outcome.evmResult.isSuccess
        cumulativeGasUsed := cumulativeGasUsed
        logs := s.outcome.evmResult.intoLogs }]
    executedTxs := d.executedTxs ++ [s.tx.intoSigned] }

namespace BuildState

/-- Commit simulation outcomes, in order. -/
def commit (bs : BuildState) (db : ExecutionDB) :
    List SimulatedTransaction → BuildState × ExecutionDB
  | [] => (bs, db)
  | s :: sims =>
    commit { bs with execDetails := bs.execDetails.commitTx s } (db.commit s.outcome.evmState) sims

def executeTransactionSkipVerify (R : Reth) (bs : BuildState) (db : ExecutionDB)
    (tx : TransactionSignedEcRecovered) (skipVerify : Bool) :
    Except BuildStateExecutionError (BuildState × ExecutionDB) :=
  match bs.simulateTx R db tx with
  | .error err => .error (.payloadBuilder err)
  | .ok s =>
    if skipVerify then .ok (bs.commit db [s])
    else
      match bs.verifySimulatedTransaction s with
      | .error err => .error err
      | .ok () => .ok (bs.commit db [s])

def executeTransaction (R : Reth) (bs : BuildState) (db : ExecutionDB)
    (tx : TransactionSignedEcRecovered) :
    Except BuildStateExecutionError (BuildState × ExecutionDB) :=
  bs.executeTransactionSkipVerify R db tx false

def executeBundle (R : Reth) (bs : BuildState) (db : ExecutionDB) (bundle : RecoveredBundle) :
    Except BuildStateExecutionError (BuildState × ExecutionDB) :=
  match bs.simulateBundle R db bundle with
  | .error err => .error err
  | .ok b =>
    match bs.verifySimulatedBundle b with
    | .error err => .error err
    | .ok () => .ok (bs.commit db b.simulatedTxs)

end BuildState

end BlockBuilder
