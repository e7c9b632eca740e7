import BlockBuilder.Payload.Log
import BlockBuilder.Primitives.Pool
import Mathlib.Data.List.ReduceOption

/-!
# Finishing a build (`BuildState::into_build`, `BuildState::into_empty_build`)

`into_build` opens a new database on the parent's state with the bundle state
of the build, executes the builder's payment there, applies the withdrawals,
and seals a header over the result. `into_empty_build` does the same without
the payment and declares an empty body: it still opens the database on the
stored bundle state and still takes the blob gas and the sidecars from the
executed transactions, as the source does.

The two seal one header that differs in the fields of `BlockContents`; the
fields they share are written once, in `sealBuild`.

Mirroring notes:
- `self` is taken apart and `this` is its clone, which the payment is executed
  on. The configuration is the same in both.
- `expect("Number is in range")` reads the receipts at the block's own index.
- A failed payment becomes an internal error with the `Debug` text of its cause.
-/

namespace BlockBuilder

open Lib (Overlay)

/-- A state provider, with the `?` of the source. -/
def Client.stateAt (client : Client) (hash : B256) : Except PayloadBuilderError ChainState :=
  match client.stateByBlockHash hash with
  | .error err => .error (.ofProvider err)
  | .ok state => .ok state

/-! ## Withdrawals -/

/-- The withdrawals of a block; none before Shanghai. -/
structure WithdrawalsOutcome where
  withdrawals : Option (List Withdrawal)
  withdrawalsRoot : Option B256
  deriving DecidableEq, Repr

def WithdrawalsOutcome.preShanghai : WithdrawalsOutcome := ⟨none, none⟩

def WithdrawalsOutcome.empty : WithdrawalsOutcome := ⟨some [], some EMPTY_WITHDRAWALS⟩

namespace BuildState

/-- Credit the withdrawals in the database. -/
def commitWithdrawals (R : Reth) (db : ExecutionDB) (chainSpec : ChainSpec) (timestamp : UInt64)
    (withdrawals : List Withdrawal) : Except RethError (WithdrawalsOutcome × ExecutionDB) :=
  if !chainSpec.isShanghaiActiveAtTimestamp timestamp then .ok (.preShanghai, db)
  else if withdrawals.isEmpty then .ok (.empty, db)
  else
    match db.incrementBalances
        (R.postBlockWithdrawalsBalanceIncrements chainSpec timestamp withdrawals) with
    | .error err => .error (.provider err)
    | .ok db' => .ok (⟨some withdrawals, some (R.calculateWithdrawalsRoot withdrawals)⟩, db')

/-- The withdrawals of the build's attributes. -/
def commitOwnWithdrawals (R : Reth) (bs : BuildState) (db : ExecutionDB) :
    Except PayloadBuilderError (WithdrawalsOutcome × ExecutionDB) :=
  match commitWithdrawals R db bs.payloadConfig.chainSpec bs.buildConfig.attributes.timestamp
      bs.buildConfig.attributes.withdrawals with
  | .error err => .error (.internal err)
  | .ok out => .ok out

/-! ## Sealing -/

/-- What Cancun adds to a payload; nothing before it. -/
structure CancunFields where
  blobSidecars : List BlobSidecar
  excessBlobGas : Option UInt64
  blobGasUsed : Option UInt64

/-- The blob fields, from the executed transactions and the parent. -/
def cancunFields (bs : BuildState) (R : Reth) (pool : Pool) :
    Except PayloadBuilderError CancunFields :=
  if bs.payloadConfig.chainSpec.isCancunActiveAtTimestamp bs.buildConfig.attributes.timestamp then
    match pool.getAllBlobsExact
        ((bs.execDetails.executedTxs.filter (·.transaction.isEip4844)).map (·.hash)) with
    | .error code => .error (.blobStore code)
    | .ok blobSidecars =>
      let parent := bs.buildConfig.parentBlock.header
      let excessBlobGas :=
        if bs.payloadConfig.chainSpec.isCancunActiveAtTimestamp parent.timestamp then
          R.calculateExcessBlobGas (parent.excessBlobGas.getD 0) (parent.blobGasUsed.getD 0)
        -- the first block of the fork: both are evaluated as 0
        else R.calculateExcessBlobGas 0 0
      .ok ⟨blobSidecars, some excessBlobGas, some bs.execDetails.cumulativeBlobGasUsed⟩
  else .ok ⟨[], none, none⟩

/-- The fields of a block that depend on whether it is empty. -/
structure BlockContents where
  beneficiary : Address
  stateRoot : B256
  body : List TransactionSigned
  transactionsRoot : B256
  receiptsRoot : B256
  logsBloom : Bloom
  gasUsed : UInt64

/-- The build with its block sealed. -/
def sealBuild (R : Reth) (bs : BuildState) (contents : BlockContents)
    (withdrawals : WithdrawalsOutcome) (cancun : CancunFields) (bid : U256) : Build :=
  let header : Header :=
    { parentHash := bs.buildConfig.parentBlock.hash
      ommersHash := EMPTY_OMMER_ROOT_HASH
      beneficiary := contents.beneficiary
      stateRoot := contents.stateRoot
      transactionsRoot := contents.transactionsRoot
      receiptsRoot := contents.receiptsRoot
      withdrawalsRoot := withdrawals.withdrawalsRoot
      logsBloom := contents.logsBloom
      timestamp := bs.buildConfig.attributes.timestamp
      mixHash := bs.buildConfig.attributes.prevRandao
      nonce := BEACON_NONCE
      baseFeePerGas := some bs.buildConfig.basefee
      number := bs.buildConfig.parentBlock.header.number + 1
      gasLimit := bs.buildConfig.blockGasLimit
      difficulty := 0
      gasUsed := contents.gasUsed
      extraData := bs.payloadConfig.extraData
      parentBeaconBlockRoot := bs.buildConfig.attributes.parentBeaconBlockRoot
      blobGasUsed := cancun.blobGasUsed
      excessBlobGas := cancun.excessBlobGas }
  { id := bs.id
    validatorInfo := bs.buildConfig.validatorInfo
    payload :=
      { id := bs.buildConfig.attributes.id
        block := ⟨header, R.hashSlow header, contents.body, withdrawals.withdrawals⟩
        fees := bs.execDetails.sumFees
        sidecars := cancun.blobSidecars }
    bid := bid }

/-! ## Into a build -/

/-- The database the build is finished on: the parent's state with the stored bundle state. -/
def finalDb (bs : BuildState) (state : ChainState) : ExecutionDB :=
  .buildWithPrestate state (bs.execDetails.bundleState.getD .empty)

def payment (bs : BuildState) : U256 := bs.execDetails.builderPayment.getD 0

/-- Execute the builder's payment to the proposer, without verifying that it fits. -/
def executePayment (R : Reth) (bs : BuildState) (db : ExecutionDB) :
    Except PayloadBuilderError (BuildState × ExecutionDB) :=
  match bs.createBuilderTransferTransaction R db.view bs.buildConfig.validatorInfo.feeRecipient
      bs.payment with
  | .error err => .error err
  | .ok tx =>
    match bs.executeTransactionSkipVerify R db tx true with
    | .error err => .error (.internal (.custom ("Builder payment tx failed: " ++ err.debug R)))
    | .ok paid => .ok paid

def intoBuild (R : Reth) (bs : BuildState) (client : Client) (pool : Pool) :
    Except PayloadBuilderError Build :=
  match client.stateAt bs.buildConfig.parentBlock.hash with
  | .error err => .error err
  | .ok state =>
    match bs.executePayment R (bs.finalDb state) with
    | .error err => .error err
    | .ok (this, db) =>
      match bs.commitOwnWithdrawals R db with
      | .error err => .error err
      | .ok (withdrawals, db) =>
        let bundle := db.mergeTransitions.takeBundle
        let receipts := this.execDetails.receipts.reduceOption
        match client.stateAt bs.buildConfig.parentBlock.hash with
        | .error err => .error err
        | .ok state =>
          match R.stateRoot (bundle.onto state) with
          | .error err => .error (.ofProvider err)
          | .ok stateRoot =>
            match this.cancunFields R pool with
            | .error err => .error err
            | .ok cancun =>
              .ok (this.sealBuild R
                { beneficiary := bs.coinbase
                  stateRoot := stateRoot
                  body := this.execDetails.executedTxs
                  transactionsRoot := R.calculateTransactionRoot this.execDetails.executedTxs
                  receiptsRoot := R.receiptsRootSlow receipts
                  logsBloom := R.blockLogsBloom receipts
                  gasUsed := this.execDetails.cumulativeGasUsed }
                withdrawals cancun bs.payment)

def intoEmptyBuild (R : Reth) (bs : BuildState) (client : Client) (pool : Pool) :
    Except PayloadBuilderError Build :=
  match client.stateAt bs.buildConfig.parentBlock.hash with
  | .error err => .error err
  | .ok state =>
    match bs.commitOwnWithdrawals R (bs.finalDb state) with
    | .error err => .error err
    | .ok (withdrawals, db) =>
      let bundle := db.mergeTransitions.takeBundle
      match client.stateAt bs.buildConfig.parentBlock.hash with
      | .error err => .error err
      | .ok state =>
        match R.stateRoot (bundle.onto state) with
        | .error err => .error (.ofProvider err)
        | .ok stateRoot =>
          match bs.cancunFields R pool with
          | .error err => .error err
          | .ok cancun =>
            .ok (bs.sealBuild R
              { beneficiary := bs.buildConfig.validatorInfo.feeRecipient
                stateRoot := stateRoot
                body := []
                transactionsRoot := EMPTY_TRANSACTIONS
                receiptsRoot := EMPTY_RECEIPTS
                logsBloom := 0
                gasUsed := 0 }
              withdrawals cancun 0)

end BuildState

/-! ## The steps of a finished build -/

theorem Client.stateAt_ok {client : Client} {hash : B256} {state : ChainState}
    (h : client.stateAt hash = .ok state) : client.stateByBlockHash hash = .ok state := by
  unfold stateAt at h
  split at h
  next => cases h
  next s hs =>
    cases h
    exact hs

/-- The balance increments a block with these withdrawals owes. -/
def owedIncrements (R : Reth) (chainSpec : ChainSpec) (timestamp : UInt64)
    (withdrawals : List Withdrawal) : List (Address × U128) :=
  if chainSpec.isShanghaiActiveAtTimestamp timestamp && !withdrawals.isEmpty then
    R.postBlockWithdrawalsBalanceIncrements chainSpec timestamp withdrawals
  else []

namespace BuildState

variable {R : Reth} {bs : BuildState}

/-- The chain state after the withdrawals of the build's attributes. -/
def afterWithdrawals (R : Reth) (bs : BuildState) (s : ChainState) :
    Except ProviderError ChainState :=
  s.incrementBalances (owedIncrements R bs.payloadConfig.chainSpec
    bs.buildConfig.attributes.timestamp bs.buildConfig.attributes.withdrawals)

/-- Committing the withdrawals increments the balances owed, and nothing else. -/
theorem commitOwnWithdrawals_ok {db db' : ExecutionDB} {outcome : WithdrawalsOutcome}
    (h : bs.commitOwnWithdrawals R db = .ok (outcome, db')) :
    db'.database = db.database ∧ bs.afterWithdrawals R db.view = .ok db'.view ∧
      outcome.withdrawals =
        (if bs.payloadConfig.chainSpec.isShanghaiActiveAtTimestamp
            bs.buildConfig.attributes.timestamp then
          some bs.buildConfig.attributes.withdrawals else none) := by
  unfold commitOwnWithdrawals at h
  split at h
  next => cases h
  next out hout =>
    cases h
    unfold commitWithdrawals at hout
    unfold afterWithdrawals owedIncrements
    split at hout
    -- Before Shanghai nothing is credited and the body has no withdrawals.
    next hpre =>
      cases hout
      have hfalse : bs.payloadConfig.chainSpec.isShanghaiActiveAtTimestamp
          bs.buildConfig.attributes.timestamp = false := by simpa using hpre
      rw [hfalse]
      exact ⟨rfl, rfl, rfl⟩
    next hpost =>
      have htrue : bs.payloadConfig.chainSpec.isShanghaiActiveAtTimestamp
          bs.buildConfig.attributes.timestamp = true := by simpa using hpost
      rw [htrue]
      split at hout
      -- An empty list takes the early return, which leaves the database alone.
      next hempty =>
        cases hout
        have hnil := List.isEmpty_iff.mp hempty
        rw [hnil]
        exact ⟨rfl, rfl, rfl⟩
      next hne =>
        split at hout
        next => cases hout
        next db'' hdb =>
          cases hout
          have hview := ExecutionDB.view_incrementBalances
            (R.postBlockWithdrawalsBalanceIncrements bs.payloadConfig.chainSpec
              bs.buildConfig.attributes.timestamp bs.buildConfig.attributes.withdrawals) db
          rw [hdb] at hview
          refine ⟨ExecutionDB.database_incrementBalances _ hdb, ?_, rfl⟩
          rw [if_pos (by simpa using hne)]
          exact hview.symm

/-- The payment is the transfer of the bid to the proposer, executed on the
database as it was and committed. -/
theorem executePayment_ok {db : ExecutionDB} {paid : BuildState × ExecutionDB}
    (h : bs.executePayment R db = .ok paid) :
    ∃ sim nonce, paid = bs.commit db [sim] ∧ ExecutedOn R bs.env db.view sim ∧
      bs.createBuilderTransferTransaction R db.view bs.buildConfig.validatorInfo.feeRecipient
        bs.payment = .ok sim.tx ∧
      sim.tx = bs.signBuilderTransfer R
        (bs.builderTransfer nonce bs.buildConfig.validatorInfo.feeRecipient bs.payment) := by
  unfold executePayment at h
  split at h
  next => cases h
  next tx htx =>
    split at h
    next => cases h
    next paid' hpaid =>
      cases h
      unfold executeTransactionSkipVerify at hpaid
      split at hpaid
      next => cases hpaid
      next sim hsim =>
        simp only [if_true] at hpaid
        cases hpaid
        obtain ⟨hsimtx, hexec⟩ := simulateTxOnDb_ok hsim
        obtain ⟨nonce, hnonce⟩ := createBuilderTransferTransaction_ok htx
        rw [SimulationDB.view_simulationDb] at hexec
        refine ⟨sim, nonce, rfl, hexec, ?_, hsimtx.trans hnonce⟩
        rw [hsimtx]
        exact htx

/-- **What `intoBuild` returns**: the block of the build state with the payment
executed, over the state after the payment and the withdrawals. -/
theorem intoBuild_ok {client : Client} {pool : Pool} {build : Build}
    (h : bs.intoBuild R client pool = .ok build) :
    ∃ state this db post outcome stateRoot cancun,
      client.stateByBlockHash bs.buildConfig.parentBlock.hash = .ok state ∧
      bs.executePayment R (bs.finalDb state) = .ok (this, db) ∧
      bs.afterWithdrawals R db.view = .ok post ∧
      outcome.withdrawals =
        (if bs.payloadConfig.chainSpec.isShanghaiActiveAtTimestamp
            bs.buildConfig.attributes.timestamp then
          some bs.buildConfig.attributes.withdrawals else none) ∧
      R.stateRoot post = .ok stateRoot ∧ this.cancunFields R pool = .ok cancun ∧
      build = this.sealBuild R
        { beneficiary := bs.coinbase
          stateRoot := stateRoot
          body := this.execDetails.executedTxs
          transactionsRoot := R.calculateTransactionRoot this.execDetails.executedTxs
          receiptsRoot := R.receiptsRootSlow this.execDetails.receipts.reduceOption
          logsBloom := R.blockLogsBloom this.execDetails.receipts.reduceOption
          gasUsed := this.execDetails.cumulativeGasUsed }
        outcome cancun bs.payment := by
  unfold intoBuild at h
  split at h
  next => cases h
  next state hstate =>
    split at h
    next => cases h
    next this db hpaid =>
      split at h
      next => cases h
      next outcome db' hwithdrawals =>
        simp only at h
        split at h
        next => cases h
        next stateRoot hroot =>
          split at h
          next => cases h
          next cancun hcancun =>
            cases h
            obtain ⟨hdatabase, hpost, houtcome⟩ := commitOwnWithdrawals_ok hwithdrawals
            obtain ⟨sim, _, hcommit, _, _⟩ := executePayment_ok hpaid
            -- The header's root is that of the bundle state over the provider; with the
            -- transitions merged this is what the database answers.
            have hstored : db.database = state := by
              have hdb := database_commit [sim] bs (bs.finalDb state)
              rw [← hcommit] at hdb
              exact hdb
            rw [← hstored, ← hdatabase, ExecutionDB.takeBundle_onto] at hroot
            exact ⟨state, this, db, _, outcome, stateRoot, cancun, Client.stateAt_ok hstate,
              hpaid, hpost, houtcome, hroot, hcancun, rfl⟩

/-- **What `intoEmptyBuild` returns**: a block with an empty body, over the
state the build state carries after the withdrawals. -/
theorem intoEmptyBuild_ok {client : Client} {pool : Pool} {build : Build}
    (h : bs.intoEmptyBuild R client pool = .ok build) :
    ∃ state post outcome stateRoot cancun,
      client.stateByBlockHash bs.buildConfig.parentBlock.hash = .ok state ∧
      bs.afterWithdrawals R (bs.finalDb state).view = .ok post ∧
      R.stateRoot post = .ok stateRoot ∧ bs.cancunFields R pool = .ok cancun ∧
      build = bs.sealBuild R
        { beneficiary := bs.buildConfig.validatorInfo.feeRecipient
          stateRoot := stateRoot
          body := []
          transactionsRoot := EMPTY_TRANSACTIONS
          receiptsRoot := EMPTY_RECEIPTS
          logsBloom := 0
          gasUsed := 0 }
        outcome cancun 0 := by
  unfold intoEmptyBuild at h
  split at h
  next => cases h
  next state hstate =>
    split at h
    next => cases h
    next outcome db hwithdrawals =>
      simp only at h
      split at h
      next => cases h
      next stateRoot hroot =>
        split at h
        next => cases h
        next cancun hcancun =>
          cases h
          obtain ⟨hdatabase, hpost, _⟩ := commitOwnWithdrawals_ok hwithdrawals
          have hstored : db.database = state := hdatabase
          rw [← hstored, ExecutionDB.takeBundle_onto] at hroot
          exact ⟨state, _, outcome, stateRoot, cancun, Client.stateAt_ok hstate, hpost, hroot,
            hcancun, rfl⟩

end BuildState

end BlockBuilder
