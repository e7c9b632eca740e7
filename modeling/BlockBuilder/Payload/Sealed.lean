import BlockBuilder.Payload.Strategy

/-!
# The block of a run

A session that was started and has executed the log `sims` is `Built` from it:
its database shows the parent's state after the pre-block call and the log, and
its execution details are those of the log. Every run of calls keeps this, so
it holds of every build state a strategy returns.

`intoBuild` seals what was executed, with the payment after it.
`intoBuild_sealed` says so for any payment and bundle state stored: the body,
the receipts and the gas of the block are those of the log followed by the
payment. When the bundle state stored is the session's own, the payment was
executed on the state the run left (`Built.view_finalDb`). The results about
blocks are read off from here.
-/

namespace BlockBuilder

open Lib (run Along along_append run_append)
open BuildOp (step)

/-! ## The log of a session -/

/-- The execution details of a log. -/
def ExecutionDetails.ofLog (sims : List SimulatedTransaction) (payment : Option U256)
    (bundleState : Option BundleState) : ExecutionDetails where
  executedTxs := sims.map (·.tx.intoSigned)
  receipts := (receiptsFrom 0 sims).map some
  cumulativeGasUsed := gasSum sims
  cumulativeBlobGasUsed := blobGasSum sims
  sumFees := feeSum sims
  sumCoinbaseTransfers := transferSum sims
  builderPayment := payment
  bundleState := bundleState

theorem BuildState.commit_ofLog {bs : BuildState} {sims : List SimulatedTransaction}
    {payment : Option U256} {bundleState : Option BundleState}
    (h : bs.execDetails = .ofLog sims payment bundleState) (db : ExecutionDB)
    (more : List SimulatedTransaction) :
    (bs.commit db more).1.execDetails = .ofLog (sims ++ more) payment bundleState := by
  rw [execDetails_commit, h]
  simp [ExecutionDetails.ofLog, receiptsFrom_append, gasSum_append, blobGasSum_append,
    feeSum_append, transferSum_append]

/-- `with_payment` and `with_bundle_state` on a build state, or neither. -/
def BuildState.stored (bs : BuildState) (payment : Option U256)
    (bundleState : Option BundleState) : BuildState :=
  { bs with execDetails :=
    { bs.execDetails with builderPayment := payment, bundleState := bundleState } }

/-- A session started on `parent` that has executed `sims` after the pre-block call. -/
structure Built (R : Reth) (client : Client) (s : Session) (parent : ChainState) (st : EvmState)
    (sims : List SimulatedTransaction) : Prop where
  preBlock : PreBlockCall R client s.1 parent st
  executes : Executes R s.1.env (parent.commit st) sims
  details : s.1.execDetails = .ofLog sims none none
  database : s.2.database = parent
  view : s.2.view = (parent.commit st).after sims

/-- Storing a payment and a bundle state leaves the log. -/
theorem Built.stored_log {R : Reth} {client : Client} {s : Session} {parent : ChainState}
    {st : EvmState} {sims : List SimulatedTransaction} (h : Built R client s parent st sims)
    (payment : Option U256) (bundleState : Option BundleState) :
    (s.1.stored payment bundleState).execDetails = .ofLog sims payment bundleState := by
  show ({ s.1.execDetails with builderPayment := payment, bundleState := bundleState } :
    ExecutionDetails) = _
  rw [h.details]
  rfl

/-- Finishing a session stores its bundle state. -/
theorem Built.finish_log {R : Reth} {client : Client} {s : Session} {parent : ChainState}
    {st : EvmState} {sims : List SimulatedTransaction} (h : Built R client s parent st sims) :
    s.finish.execDetails = .ofLog sims none (some s.2.mergeTransitions.takeBundle) := by
  show ({ s.1.execDetails with bundleState := some s.2.mergeTransitions.takeBundle } :
    ExecutionDetails) = _
  rw [h.details]
  rfl

theorem startBuild_built {R : Reth} {config : PayloadConfig} {args : BuildArguments} {s : Session}
    (h : startBuild R config args = .ok s) : ∃ parent st, Built R args.client s parent st [] := by
  obtain ⟨hnew, parent, st, hcall, hdatabase, hview⟩ := startBuild_ok h
  refine ⟨parent, st, hcall, trivial, ?_, hdatabase, hview⟩
  rw [hnew]
  rfl

/-- Committing an executed list extends the log. -/
theorem Built.commit {R : Reth} {client : Client} {s : Session} {parent : ChainState}
    {st : EvmState}
    {sims more : List SimulatedTransaction} (h : Built R client s parent st sims)
    (hmore : Executes R s.1.env s.2.view more) :
    Built R client (s.1.commit s.2 more) parent st (sims ++ more) where
  preBlock := h.preBlock.of_config (BuildState.buildConfig_commit ..)
    (BuildState.payloadConfig_commit ..)
  executes := by
    rw [h.view] at hmore
    rw [BuildState.env_commit]
    exact (along_append _ _ _).mpr ⟨h.executes, hmore⟩
  details := BuildState.commit_ofLog h.details s.2 more
  database := (BuildState.database_commit more s.1 s.2).trans h.database
  view := by
    rw [BuildState.view_commit, h.view]
    exact (run_append _ _ _).symm

/-- **A run of calls extends the log.** -/
theorem Built.run {R : Reth} {client : Client} {s : Session} {parent : ChainState} {st : EvmState}
    {sims : List SimulatedTransaction} (h : Built R client s parent st sims) (ops : List BuildOp) :
    ∃ more, Built R client (run (step R) s ops) parent st (sims ++ more) := by
  obtain ⟨more, hrun, hmore⟩ := BuildOp.run_eq_commit R ops s
  rw [hrun]
  exact ⟨more, h.commit hmore⟩

/-- A bundle state taken from the session and laid over the parent's state shows
what the session's database showed. -/
theorem Built.view_finalDb {R : Reth} {client : Client} {s : Session} {parent : ChainState}
    {st : EvmState} {sims : List SimulatedTransaction} (h : Built R client s parent st sims) :
    (s.finish.finalDb parent).view = (parent.commit st).after sims := by
  show (ExecutionDB.buildWithPrestate parent s.2.mergeTransitions.takeBundle).view = _
  rw [ExecutionDB.view_buildWithPrestate, ← h.database, ExecutionDB.takeBundle_onto, h.database,
    h.view]

/-- **A better build has executed a log**: of transactions that were offered, and
transfers of the builder. -/
theorem Strategy.better_log {R : Reth} {strategy : Strategy} {args : BuildArguments}
    {bs : BuildState} (hexec : strategy.executing = true)
    (h : strategy.tryBuild R args = .ok (.better bs)) :
    ∃ s parent st sims, Built R args.client s parent st sims ∧ bs = Session.finish s ∧
      s.1.payloadConfig = strategy.config ∧
      s.1.buildConfig.parentBlock = args.buildConfig.parentBlock ∧
      ∀ sim ∈ sims, Includable R args s.1 sim.tx := by
  obtain ⟨s, ops, hstart, hbs, _, hoffered⟩ := Strategy.tryBuild_better hexec h
  obtain ⟨parent, st, hbuilt⟩ := startBuild_built hstart
  obtain ⟨hnew, -⟩ := startBuild_ok hstart
  obtain ⟨sims, hrun, hexecutes, hfrom⟩ := BuildOp.run_commits R ops s
  have hbuild := BuildState.buildConfig_commit s.1 s.2 sims
  have hpayload := BuildState.payloadConfig_commit s.1 s.2 sims
  rw [hrun] at hbs
  refine ⟨_, parent, st, sims, hbuilt.commit hexecutes, hbs, ?_, ?_, fun sim hsim => ?_⟩
  · rw [hpayload, hnew]
    rfl
  · rw [hbuild, hnew]
    rfl
  · rcases hfrom sim hsim with ⟨op, hop, htx⟩ | htransfer
    · exact .inl ⟨op, hoffered op hop, htx⟩
    · exact .inr ((BuildState.isBuilderTransfer_congr hbuild hpayload).mpr htransfer)

theorem Strategy.better_built {R : Reth} {strategy : Strategy} {args : BuildArguments}
    {bs : BuildState} (hexec : strategy.executing = true)
    (h : strategy.tryBuild R args = .ok (.better bs)) :
    ∃ s parent st sims, Built R args.client s parent st sims ∧ bs = Session.finish s := by
  obtain ⟨s, parent, st, sims, hbuilt, hbs, -⟩ := Strategy.better_log hexec h
  exact ⟨s, parent, st, sims, hbuilt, hbs⟩

/-! ## The sealed block -/

/-- A block over the transactions `sims`, and after them the payment `pay`
executed on the chain state `before`. -/
structure Sealed (R : Reth) (bs : BuildState) (sims : List SimulatedTransaction)
    (pay : SimulatedTransaction) (before : ChainState) (build : Build) : Prop where
  /-- The header's fields that come from the configuration. -/
  parentHash : build.payload.block.header.parentHash = bs.buildConfig.parentBlock.hash
  beneficiary : build.payload.block.header.beneficiary = bs.coinbase
  timestamp : build.payload.block.header.timestamp = bs.buildConfig.attributes.timestamp
  mixHash : build.payload.block.header.mixHash = bs.buildConfig.attributes.prevRandao
  baseFee : build.payload.block.header.baseFeePerGas = some bs.buildConfig.basefee
  number : build.payload.block.header.number = bs.buildConfig.parentBlock.header.number + 1
  gasLimit : build.payload.block.header.gasLimit = bs.buildConfig.blockGasLimit
  beaconRoot : build.payload.block.header.parentBeaconBlockRoot =
    bs.buildConfig.attributes.parentBeaconBlockRoot
  hash : build.payload.block.hash = R.hashSlow build.payload.block.header
  validatorInfo : build.validatorInfo = bs.buildConfig.validatorInfo
  bid : build.bid = bs.payment
  /-- The payment: the builder's transfer of the bid to the proposer. -/
  paid : ExecutedOn R bs.env before pay
  payTx : ∃ nonce, pay.tx = bs.signBuilderTransfer R
    (bs.builderTransfer nonce bs.buildConfig.validatorInfo.feeRecipient bs.payment)
  /-- The body and what is committed to for it. -/
  body : build.payload.block.body = (sims ++ [pay]).map (·.tx.intoSigned)
  receiptsRoot : build.payload.block.header.receiptsRoot =
    R.receiptsRootSlow (receiptsFrom 0 (sims ++ [pay]))
  logsBloom : build.payload.block.header.logsBloom =
    R.blockLogsBloom (receiptsFrom 0 (sims ++ [pay]))
  gasUsed : build.payload.block.header.gasUsed = gasSum (sims ++ [pay])
  blobGasUsed : build.payload.block.header.blobGasUsed =
    (if bs.payloadConfig.chainSpec.isCancunActiveAtTimestamp bs.buildConfig.attributes.timestamp
      then some (blobGasSum (sims ++ [pay])) else none)
  withdrawals : build.payload.block.withdrawals =
    (if bs.payloadConfig.chainSpec.isShanghaiActiveAtTimestamp bs.buildConfig.attributes.timestamp
      then some bs.buildConfig.attributes.withdrawals else none)
  stateRoot : ∃ post, bs.afterWithdrawals R (before.commitTx pay) = .ok post ∧
    R.stateRoot post = .ok build.payload.block.header.stateRoot

/-- The blob gas used of a Cancun payload is the cumulative blob gas. -/
theorem BuildState.cancunFields_ok {R : Reth} {bs : BuildState} {pool : Pool}
    {cancun : BuildState.CancunFields} (h : bs.cancunFields R pool = .ok cancun) :
    (bs.payloadConfig.chainSpec.isCancunActiveAtTimestamp bs.buildConfig.attributes.timestamp
        = true ∧
      pool.getAllBlobsExact
        ((bs.execDetails.executedTxs.filter (·.transaction.isEip4844)).map (·.hash))
        = .ok cancun.blobSidecars ∧
      cancun.blobGasUsed = some bs.execDetails.cumulativeBlobGasUsed) ∨
    (bs.payloadConfig.chainSpec.isCancunActiveAtTimestamp bs.buildConfig.attributes.timestamp
        = false ∧ cancun = ⟨[], none, none⟩) := by
  unfold cancunFields at h
  split at h
  next hactive =>
    split at h
    next => cases h
    next sidecars hsidecars =>
      cases h
      exact .inl ⟨hactive, hsidecars, rfl⟩
  next hinactive =>
    cases h
    exact .inr ⟨by simpa using hinactive, rfl⟩

/-- **The block of a run**, whatever payment and bundle state are stored. -/
theorem intoBuild_sealed {R : Reth} {bs : BuildState} {sims : List SimulatedTransaction}
    {payment : Option U256} {bundleState : Option BundleState} {client : Client} {pool : Pool}
    {build : Build} (hlog : bs.execDetails = .ofLog sims payment bundleState)
    (h : bs.intoBuild R client pool = .ok build) :
    ∃ parent pay, client.stateByBlockHash bs.buildConfig.parentBlock.hash = .ok parent ∧
      Sealed R bs sims pay (bs.finalDb parent).view build := by
  obtain ⟨parent, this, db, post, outcome, stateRoot, cancun, hparent, hpaid, hpost, houtcome,
    hroot, hcancun, rfl⟩ := BuildState.intoBuild_ok h
  obtain ⟨pay, nonce, hcommit, hexec, _, hpayTx⟩ := BuildState.executePayment_ok hpaid
  have hthis : this = (bs.commit (bs.finalDb parent) [pay]).1 := congrArg Prod.fst hcommit
  have hdb : db = (bs.commit (bs.finalDb parent) [pay]).2 := congrArg Prod.snd hcommit
  have hview : db.view = (bs.finalDb parent).view.commitTx pay := by
    rw [hdb, BuildState.view_commit]
    rfl
  have hconfig : this.buildConfig = bs.buildConfig := by
    rw [hthis, BuildState.buildConfig_commit]
  have hpayload : this.payloadConfig = bs.payloadConfig := by
    rw [hthis, BuildState.payloadConfig_commit]
  have hdetails : this.execDetails = .ofLog (sims ++ [pay]) payment bundleState := by
    rw [hthis]
    exact BuildState.commit_ofLog hlog _ _
  -- Every receipt is there, so dropping the missing ones drops nothing.
  have hreceipts : this.execDetails.receipts.reduceOption = receiptsFrom 0 (sims ++ [pay]) := by
    rw [hdetails]
    show (List.map some _).reduceOption = _
    induction receiptsFrom 0 (sims ++ [pay]) with
    | nil => rfl
    | cons r rs ih => rw [List.map_cons, List.reduceOption_cons_of_some, ih]
  refine ⟨parent, pay, hparent, ?_⟩
  exact
    { parentHash := congrArg (·.parentBlock.hash) hconfig
      beneficiary := rfl
      timestamp := congrArg (·.attributes.timestamp) hconfig
      mixHash := congrArg (·.attributes.prevRandao) hconfig
      baseFee := congrArg (fun c : BuildConfig => some c.basefee) hconfig
      number := congrArg (·.parentBlock.header.number + 1) hconfig
      gasLimit := congrArg (·.blockGasLimit) hconfig
      beaconRoot := congrArg (·.attributes.parentBeaconBlockRoot) hconfig
      hash := rfl
      validatorInfo := congrArg (·.validatorInfo) hconfig
      bid := rfl
      paid := hexec
      payTx := ⟨nonce, hpayTx⟩
      body := congrArg (·.executedTxs) hdetails
      receiptsRoot := congrArg R.receiptsRootSlow hreceipts
      logsBloom := congrArg R.blockLogsBloom hreceipts
      gasUsed := congrArg (·.cumulativeGasUsed) hdetails
      blobGasUsed := by
        show cancun.blobGasUsed = _
        rcases BuildState.cancunFields_ok hcancun with ⟨hactive, _, hblob⟩ | ⟨hinactive, hnone⟩
        · rw [hpayload, hconfig] at hactive
          rw [hblob, hdetails, if_pos hactive]
          rfl
        · rw [hpayload, hconfig] at hinactive
          rw [hnone, if_neg (by simp [hinactive])]
      withdrawals := houtcome
      stateRoot := ⟨post, hview ▸ hpost, hroot⟩ }

/-- **The block of a finished session**: over its log, and the payment executed
on what the log left. -/
theorem Built.sealed {R : Reth} {client : Client} {s : Session} {parent : ChainState}
    {st : EvmState}
    {sims : List SimulatedTransaction} (h : Built R client s parent st sims) {bid : U256}
    {pool : Pool} {build : Build}
    (hbuild : (s.finish.withPayment bid).intoBuild R client pool = .ok build) :
    ∃ pay, Sealed R (s.finish.withPayment bid) sims pay ((parent.commit st).after sims) build := by
  have hlog : (s.finish.withPayment bid).execDetails =
      .ofLog sims (some bid) (some s.2.mergeTransitions.takeBundle) :=
    h.stored_log _ _
  obtain ⟨parent', pay, hparent, hsealed⟩ := intoBuild_sealed hlog hbuild
  have hsame : parent' = parent := by
    have hparent' : client.stateByBlockHash s.1.buildConfig.parentBlock.hash = .ok parent' :=
      hparent
    rw [h.preBlock.parent_eq] at hparent'
    exact (Except.ok.inj hparent').symm
  have hview : ((s.finish.withPayment bid).finalDb parent).view = (parent.commit st).after sims :=
    h.view_finalDb
  rw [hsame, hview] at hsealed
  exact ⟨pay, hsealed⟩

/-- **The block of a better build**: over the log of the build, and the payment
executed on what the log left. -/
theorem Strategy.better_sealed {R : Reth} {strategy : Strategy} {args : BuildArguments}
    {bs : BuildState} {bid : U256} {pool : Pool} {build : Build} (hexec : strategy.executing = true)
    (h : strategy.tryBuild R args = .ok (.better bs))
    (hbuild : (bs.withPayment bid).intoBuild R args.client pool = .ok build) :
    ∃ parent st sims pay, PreBlockCall R args.client bs parent st ∧
      Executes R bs.env (parent.commit st) sims ∧
      Sealed R (bs.withPayment bid) sims pay ((parent.commit st).after sims) build := by
  obtain ⟨s, parent, st, sims, hbuilt, rfl⟩ := Strategy.better_built hexec h
  obtain ⟨pay, hsealed⟩ := hbuilt.sealed hbuild
  exact ⟨parent, st, sims, pay, hbuilt.preBlock.of_config rfl rfl, hbuilt.executes, hsealed⟩

end BlockBuilder
