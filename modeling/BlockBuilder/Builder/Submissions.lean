import BlockBuilder.Builder.Provenance

/-!
# What a submission says, and what its block is made of

A bid is read back to where it came from. `SealedFor` holds what a task of a job
executed and how that was sealed; what a bid says of the announcement it is for
and which transactions are in its block are both read off it.

A block is bundles that were in the pool, each of them whole and in its order with
at most one refund after it, then transactions of the transaction pool, then the
payment to the proposer, and nothing else.
-/

namespace BlockBuilder

open Lib (Reaches run run_concat)
open BuildOp (step)

/-! ## What a build executes -/

/-- A call and what it has included. -/
abbrev Part := BuildOp × List SimulatedTransaction

/-- What the parts have included. -/
def included (parts : List Part) : List SimulatedTransaction := parts.flatMap (·.2)

/-- What a call includes depends on the configuration of the build state only. -/
theorem BuildOp.includes_congr {R : Reth} {bs bs' : BuildState} {op : BuildOp}
    {sims : List SimulatedTransaction} (hbuild : bs'.buildConfig = bs.buildConfig)
    (hpayload : bs'.payloadConfig = bs.payloadConfig) :
    op.Includes R bs' sims ↔ op.Includes R bs sims := by
  cases op with
  | transaction tx => exact Iff.rfl
  | bundle b =>
    unfold BuildOp.Includes
    simp only [BuildState.isBuilderTransfer_congr hbuild hpayload, hbuild]

/-- **A run of calls includes parts**, one for each call that was successful. -/
theorem BuildOp.reaches_parts {R : Reth} {P : BuildOp → Prop} {s s' : Session}
    (h : Reaches (step R) P s s') :
    ∃ parts : List Part, s' = s.1.commit s.2 (included parts) ∧
      ∀ part ∈ parts, P part.1 ∧ part.1.Includes R s.1 part.2 := by
  obtain ⟨ops, rfl, hops⟩ := h
  induction ops generalizing s with
  | nil => exact ⟨[], rfl, fun part hpart => by cases hpart⟩
  | cons op ops ih =>
    obtain ⟨parts, hrun, hparts⟩ := ih (s := BuildOp.step R s op)
      fun later hlater => hops later (List.mem_cons_of_mem _ hlater)
    rw [Lib.run_cons]
    rcases BuildOp.step_cases R s op with hsame | ⟨sims, hstep, hcommitted⟩
    · rw [hsame] at hrun hparts ⊢
      exact ⟨parts, hrun, hparts⟩
    · rw [hstep] at hrun hparts ⊢
      refine ⟨(op, sims) :: parts, ?_, fun part hpart => ?_⟩
      · rw [hrun]
        exact (BuildState.commit_append sims (included parts) s.1 s.2).symm
      · rcases List.mem_cons.mp hpart with rfl | hlater
        · exact ⟨hops op List.mem_cons_self, hcommitted.includes⟩
        · obtain ⟨hP, hincludes⟩ := hparts part hlater
          exact ⟨hP, (BuildOp.includes_congr (BuildState.buildConfig_commit ..)
            (BuildState.payloadConfig_commit ..)).mp hincludes⟩

/-- A bundle the build was eligible for. -/
def FromBundles (R : Reth) (args : BuildArguments) (bs : BuildState) (op : BuildOp) : Prop :=
  ∃ b ∈ Bundle.recoverBundles R (BundlesStrat.eligibleBundles args bs), op = .bundle b

/-- **What a build with bundles has executed**: eligible bundles, and after them what
the iterator over the pool yields. -/
theorem BundlesStrat.tryBuild_parts {R : Reth} {strat : BundlesStrat} {args : BuildArguments}
    {bs : BuildState} (h : strat.tryBuild R args = .ok (.better bs)) :
    ∃ s bundles txs, startBuild R strat.config args = .ok s ∧
      bs = Session.finish (s.1.commit s.2 (included bundles ++ included txs)) ∧
      (∀ part ∈ bundles, FromBundles R args s.1 part.1 ∧ part.1.Includes R s.1 part.2) ∧
      ∀ part ∈ txs, YieldedBy args.bestTransactions part.1 ∧ part.1.Includes R s.1 part.2 := by
  unfold BundlesStrat.tryBuild at h
  split at h
  next => cases h
  next s hs =>
    have hbundles := BundlesStrat.commitSelectedBundles_reaches R
      (BundlesStrat.decodeAndFilterBundles R args s) [] s
    split at h
    next => cases h
    next committed s' hs' =>
      rw [hs'] at hbundles
      have hloop := BundlesStrat.executeMempoolTxs_reaches R args.cancelled args.bestTransactions 0
        committed s'
      split at h
      next => cases h
      next => cases h
      next s'' hs'' =>
        rw [hs''] at hloop
        obtain ⟨bundles, rfl, hfrom⟩ := BuildOp.reaches_parts hbundles
        obtain ⟨txs, rfl, hyielded⟩ := BuildOp.reaches_parts hloop
        obtain ⟨hbs, -⟩ := concludeBuild_better (Except.ok.inj h)
        refine ⟨s, bundles, txs, hs, ?_, fun part hpart => ?_, fun part hpart => ?_⟩
        · rw [BuildState.commit_append]
          exact hbs
        · obtain ⟨⟨b, hb, hop⟩, hincludes⟩ := hfrom part hpart
          exact ⟨⟨b.bundle, BundlesStrat.mem_decodeAndFilterBundles hb, hop⟩, hincludes⟩
        · obtain ⟨hyields, hincludes⟩ := hyielded part hpart
          exact ⟨hyields, (BuildOp.includes_congr (BuildState.buildConfig_commit ..)
            (BuildState.payloadConfig_commit ..)).mp hincludes⟩

/-! ## The block of a bid -/

/-- What a task executed for an announcement, and the block that was sealed from it. -/
structure SealedFor (R : Reth) (payloadConfig : PayloadConfig) (bundlePool : BundlePool)
    (events : List SystemEvent) (a : Announcement) (args : BuildArguments) (bs : BuildState)
    (bundles txs : List Part) (build : Build) : Prop where
  announced : a.In R events
  ran : Ran bundlePool events args
  config : args.buildConfig = a.config R payloadConfig
  buildConfig : bs.buildConfig = args.buildConfig.blockEnvWithCoinbase payloadConfig.builderAddress
  payloadConfig : bs.payloadConfig = payloadConfig
  fromBundles : ∀ part ∈ bundles, FromBundles R args bs part.1 ∧ part.1.Includes R bs part.2
  fromPool : ∀ part ∈ txs, YieldedBy args.bestTransactions part.1 ∧ part.1.Includes R bs part.2
  block : ∃ pay before, Sealed R bs (included bundles ++ included txs) pay before build

/-- **A bid is for the block of such a build.** -/
theorem Bids.sealedFor {R : Reth} {payloadConfig : PayloadConfig} {bundlePool : BundlePool}
    {events : List SystemEvent} {publicKey : BlsPublicKey} {bid : Bid}
    (h : Bids R payloadConfig bundlePool events publicKey bid) :
    ∃ a args bs bundles txs build,
      SealedFor R payloadConfig bundlePool events a args bs bundles txs build ∧
      bid = .new build publicKey := by
  obtain ⟨bs, value, client, pool, build, ⟨args, ⟨a, hin, hargs⟩, hran, hbetter⟩, hsubmission, hbid⟩ := h
  obtain ⟨s, bundles, txs, hstart, hbs, hbundles, htxs⟩ := BundlesStrat.tryBuild_parts hbetter
  obtain ⟨hnew, -⟩ := startBuild_ok hstart
  obtain ⟨parent, st, hbegan⟩ := startBuild_built hstart
  have hconfig : (bs.withPayment value).buildConfig = s.1.buildConfig := by
    show bs.buildConfig = _
    rw [hbs]
    exact BuildState.buildConfig_commit ..
  have hpayload : (bs.withPayment value).payloadConfig = s.1.payloadConfig := by
    show bs.payloadConfig = _
    rw [hbs]
    exact BuildState.payloadConfig_commit ..
  have hlog : (bs.withPayment value).execDetails = .ofLog (included bundles ++ included txs) (some value)
      bs.execDetails.bundleState := by
    have hcommitted := BuildState.commit_ofLog hbegan.details s.2 (included bundles ++ included txs)
    rw [List.nil_append] at hcommitted
    rw [hbs]
    show ({ (s.1.commit s.2 (included bundles ++ included txs)).1.execDetails with
      builderPayment := some value, bundleState := _ } : ExecutionDetails) = _
    rw [hcommitted]
    rfl
  have hbuild : (bs.withPayment value).intoBuild R client pool = .ok build := by
    unfold buildSubmissionWithBuilderPayment at hsubmission
    split at hsubmission
    next => cases hsubmission
    next build' hbuild =>
      cases hsubmission
      exact hbuild
  obtain ⟨parent', pay, -, hsealed⟩ := intoBuild_sealed hlog hbuild
  refine ⟨a, args, bs.withPayment value, bundles, txs, build, ?_, hbid⟩
  exact
    { announced := hin
      ran := hran
      config := hargs
      buildConfig := by
        rw [hconfig, hnew]
        rfl
      payloadConfig := by
        rw [hpayload, hnew]
        rfl
      fromBundles := fun part hpart => by
        obtain ⟨hfrom, hincludes⟩ := hbundles part hpart
        refine ⟨?_, (BuildOp.includes_congr hconfig hpayload).mpr hincludes⟩
        unfold FromBundles BundlesStrat.eligibleBundles
        rw [hconfig]
        exact hfrom
      fromPool := fun part hpart => by
        obtain ⟨hyields, hincludes⟩ := htxs part hpart
        exact ⟨hyields, (BuildOp.includes_congr hconfig hpayload).mpr hincludes⟩
      block := ⟨pay, _, hsealed⟩ }

/-! ## The announcement of a bid -/

/-- A bid with its block, for an announcement. -/
structure BidFor (R : Reth) (payloadConfig : PayloadConfig) (publicKey : BlsPublicKey)
    (a : Announcement) (bid : Bid) (block : SealedBlock) : Prop where
  slot : bid.slot = a.slot
  builder : bid.builderPubkey = publicKey
  proposer : bid.proposerPubkey = a.validatorInfo.proposer
  feeRecipient : bid.proposerFeeRecipient = a.validatorInfo.feeRecipient
  parentHash : bid.parentHash = a.parentBlock.hash ∧ block.header.parentHash = a.parentBlock.hash
  blockHash : bid.blockHash = block.hash ∧ block.hash = R.hashSlow block.header
  gasLimit : bid.gasLimit = a.validatorInfo.suggestGasLimit a.parentBlock.header.gasLimit ∧
    block.header.gasLimit = bid.gasLimit
  number : block.header.number = a.parentBlock.header.number + 1
  timestamp : block.header.timestamp = a.attributes.timestamp
  mixHash : block.header.mixHash = a.attributes.prevRandao
  beaconRoot : block.header.parentBeaconBlockRoot = a.attributes.parentBeaconBlockRoot
  beneficiary : block.header.beneficiary = payloadConfig.builderAddress
  withdrawals : block.withdrawals =
    if payloadConfig.chainSpec.isShanghaiActiveAtTimestamp a.attributes.timestamp
    then some a.attributes.withdrawals else none
  payment : ∃ tx, block.body.getLast? = some tx ∧
    tx.signature.recovers = some (R.publicAddress payloadConfig.secretKey) ∧
    tx.transaction.toAddress = some a.validatorInfo.feeRecipient ∧
    tx.transaction.value = bid.value

/-- **A bid is for the announcement its job was commanded for.** -/
theorem SealedFor.bidFor {R : Reth} {payloadConfig : PayloadConfig} {bundlePool : BundlePool}
    {events : List SystemEvent} {a : Announcement} {args : BuildArguments} {bs : BuildState}
    {bundles txs : List Part} {build : Build}
    (h : SealedFor R payloadConfig bundlePool events a args bs bundles txs build)
    (hschedule : ∀ inputs, .pollBuilder inputs ∈ events →
      ∃ schedule : ValidatorSchedule, inputs.validatorInfo = schedule.getBySlot)
    (publicKey : BlsPublicKey) :
    BidFor R payloadConfig publicKey a (.new build publicKey) build.payload.block := by
  -- the registration is for the slot that was announced
  have hslot : a.validatorInfo.slot = a.slot := by
    obtain ⟨before, after, hsplit, -⟩ := h.announced.announced
    have hpolled : .pollBuilder a.inputs ∈ events := by
      rw [hsplit]
      exact List.mem_append_right _ List.mem_cons_self
    obtain ⟨schedule, hschedule⟩ := hschedule a.inputs hpolled
    have hregistered := h.announced.registered
    rw [hschedule] at hregistered
    exact ValidatorSchedule.getBySlot_slot hregistered
  have hconfig : bs.buildConfig =
      (a.config R payloadConfig).blockEnvWithCoinbase payloadConfig.builderAddress := by
    rw [h.buildConfig, h.config]
  obtain ⟨pay, before, hsealed⟩ := h.block
  obtain ⟨nonce, hpay⟩ := hsealed.payTx
  have hinfo : build.validatorInfo = a.validatorInfo := by
    rw [hsealed.validatorInfo, hconfig]
    rfl
  have hparentHash : build.payload.block.header.parentHash = a.parentBlock.hash := by
    rw [hsealed.parentHash, hconfig]
    rfl
  have hgasLimit : build.payload.block.header.gasLimit =
      a.validatorInfo.suggestGasLimit a.parentBlock.header.gasLimit := by
    rw [hsealed.gasLimit, hconfig]
    rfl
  have hpaid : ∃ tx, build.payload.block.body.getLast? = some tx ∧
      tx.signature.recovers = some (R.publicAddress payloadConfig.secretKey) ∧
      tx.transaction.toAddress = some a.validatorInfo.feeRecipient ∧
      tx.transaction.value = build.bid := by
    refine ⟨pay.tx.intoSigned, ?_, ?_, ?_, ?_⟩
    · rw [hsealed.body, List.map_append]
      exact List.getLast?_concat
    · rw [hpay, ← h.payloadConfig]
      exact R.signMessage_recovers _ _
    · rw [hpay, hconfig]
      rfl
    · rw [hpay, hsealed.bid]
      rfl
  exact
    { slot := (congrArg (·.slot) hinfo).trans hslot
      builder := rfl
      proposer := congrArg (·.proposer) hinfo
      feeRecipient := congrArg (·.feeRecipient) hinfo
      parentHash := ⟨hparentHash, hparentHash⟩
      blockHash := ⟨rfl, hsealed.hash⟩
      gasLimit := ⟨hgasLimit, rfl⟩
      number := by
        rw [hsealed.number, hconfig]
        rfl
      timestamp := by
        rw [hsealed.timestamp, hconfig]
        rfl
      mixHash := by
        rw [hsealed.mixHash, hconfig]
        rfl
      beaconRoot := by
        rw [hsealed.beaconRoot, hconfig]
        rfl
      beneficiary := by
        rw [hsealed.beneficiary, BuildState.coinbase, hconfig]
        rfl
      withdrawals := by
        rw [hsealed.withdrawals, h.payloadConfig, hconfig]
        rfl
      payment := hpaid }

/-! ## The transactions of a block -/

/-- The transactions of a bundle that was in the pool for the block, all of them and in
its order, and a refund at most. -/
def WholeBundle (R : Reth) (payloadConfig : PayloadConfig) (bundlePool : BundlePool)
    (events : List SystemEvent) (a : Announcement) (txs : List TransactionSigned) : Prop :=
  ∃ bundle recovered refund, Pooled bundlePool events bundle ∧
    bundle.blockNumber = (a.config R payloadConfig).blockNumber ∧
    bundle.isWithinTimestamp a.attributes.timestamp = true ∧
    Bundle.recoverBundles R [bundle] = [recovered] ∧
    txs = recovered.recoveredTxs.map (·.intoSigned) ++ refund ∧ refund.length ≤ 1 ∧
    ∀ tx ∈ refund, tx.signature.recovers = some (R.publicAddress payloadConfig.secretKey)

/-- A block over bundles, transactions of the pool and a payment. -/
structure ComposedOf (R : Reth) (payloadConfig : PayloadConfig) (bundlePool : BundlePool)
    (events : List SystemEvent) (a : Announcement) (pool : Pool) (block : SealedBlock)
    (bundles : List (List TransactionSigned)) (txs : List TransactionSignedEcRecovered)
    (payment : TransactionSigned) : Prop where
  body : block.body = bundles.flatten ++ txs.map (·.intoSigned) ++ [payment]
  bundles : ∀ part ∈ bundles, WholeBundle R payloadConfig bundlePool events a part
  pool : ∀ tx ∈ txs, ∃ blobFee,
    (pool.bestTransactionsWithAttributes (a.config R payloadConfig).basefee blobFee).Yields tx
  payment : payment.signature.recovers = some (R.publicAddress payloadConfig.secretKey) ∧
    payment.transaction.toAddress = some a.validatorInfo.feeRecipient

/-- What was recovered, was recovered from one of the bundles. -/
theorem Bundle.mem_recoverBundles {R : Reth} {bundles : List Bundle} {recovered : RecoveredBundle}
    (h : recovered ∈ recoverBundles R bundles) :
    ∃ bundle ∈ bundles, recoverBundles R [bundle] = [recovered] := by
  obtain ⟨bundle, hmem, hrecovered⟩ := List.mem_filterMap.mp h
  exact ⟨bundle, hmem, List.filterMap_cons_some hrecovered⟩

/-- The signed transactions a part has included. -/
def Part.signed (part : Part) : List TransactionSigned := part.2.map (·.tx.intoSigned)

namespace SealedFor

variable {R : Reth} {payloadConfig : PayloadConfig} {bundlePool : BundlePool}
  {events : List SystemEvent} {a : Announcement} {args : BuildArguments} {bs : BuildState}
  {bundles txs : List Part} {build : Build}

/-- A part that a bundle brought. -/
theorem wholeBundle (h : SealedFor R payloadConfig bundlePool events a args bs bundles txs build)
    {before : List SystemEvent}
    (hpooled : ∀ bundle, args.bundlePool.inner.Live bundle → Pooled bundlePool before bundle)
    {part : Part} (hpart : part ∈ bundles) :
    WholeBundle R payloadConfig bundlePool before a part.signed := by
  obtain ⟨⟨recovered, hrecovered, hop⟩, hincludes⟩ := h.fromBundles part hpart
  obtain ⟨bundle, hbundle, hone⟩ := Bundle.mem_recoverBundles hrecovered
  obtain ⟨hlive, hnumber, hwithin⟩ := BundlePool.bundles_spec hbundle
  rw [h.buildConfig, h.config] at hnumber hwithin
  rw [hop] at hincludes
  obtain ⟨user, refunds, hsims, huser, hlength, htransfers, -⟩ := hincludes
  refine ⟨bundle, recovered, refunds.map (·.tx.intoSigned), hpooled bundle hlive, hnumber, hwithin,
    hone, ?_, ?_, fun tx htx => ?_⟩
  · unfold Part.signed
    rw [hsims, ← huser, List.map_append, List.map_map]
    rfl
  · rw [List.length_map]
    exact hlength
  · obtain ⟨sim, hsim, rfl⟩ := List.mem_map.mp htx
    obtain ⟨⟨nonce, recipient, payment, htransfer⟩, -⟩ := htransfers sim hsim
    rw [htransfer, ← h.payloadConfig]
    exact R.signMessage_recovers _ _

/-- A part that the pool brought. -/
theorem yields (h : SealedFor R payloadConfig bundlePool events a args bs bundles txs build) :
    ∃ yielded : List TransactionSignedEcRecovered,
      txs.flatMap Part.signed = yielded.map (·.intoSigned) ∧
      ∀ tx ∈ yielded, args.bestTransactions.Yields tx := by
  have hparts := h.fromPool
  clear h
  induction txs with
  | nil => exact ⟨[], rfl, fun tx htx => by cases htx⟩
  | cons part txs ih =>
    obtain ⟨yielded, hsigned, hyields⟩ := ih fun later hlater => hparts later (List.mem_cons_of_mem _ hlater)
    obtain ⟨⟨tx, hop, htx⟩, hincludes⟩ := hparts part List.mem_cons_self
    rw [hop] at hincludes
    obtain ⟨sim, hsims, hsim⟩ := hincludes
    refine ⟨tx :: yielded, ?_, fun other hother => ?_⟩
    · rw [List.flatMap_cons, hsigned]
      unfold Part.signed
      rw [hsims, ← hsim]
      rfl
    · rcases List.mem_cons.mp hother with rfl | hlater
      · exact htx
      · exact hyields other hlater

/-- **The transactions of a block**, in their order. -/
theorem composedOf (h : SealedFor R payloadConfig bundlePool events a args bs bundles txs build)
    {before : List SystemEvent}
    (hpooled : ∀ bundle, args.bundlePool.inner.Live bundle → Pooled bundlePool before bundle) :
    ∃ parts yielded payment,
      ComposedOf R payloadConfig bundlePool before a args.pool build.payload.block parts yielded payment := by
  obtain ⟨yielded, hsigned, hyields⟩ := h.yields
  obtain ⟨pay, state, hsealed⟩ := h.block
  obtain ⟨nonce, hpay⟩ := hsealed.payTx
  refine ⟨bundles.map Part.signed, yielded, pay.tx.intoSigned, ?_, ?_, ?_, ?_, ?_⟩
  · rw [hsealed.body, ← hsigned, List.map_append, List.map_append]
    unfold included
    rw [List.map_flatMap, List.map_flatMap, ← List.flatMap_def]
    rfl
  · intro part hpart
    obtain ⟨source, hsource, rfl⟩ := List.mem_map.mp hpart
    exact h.wholeBundle hpooled hsource
  · intro tx htx
    have hyield := hyields tx htx
    unfold BuildArguments.bestTransactions at hyield
    rw [h.config] at hyield
    rw [(a.config R payloadConfig).basefee_eq]
    exact ⟨_, hyield⟩
  · rw [hpay, ← h.payloadConfig]
    exact R.signMessage_recovers _ _
  · rw [hpay, h.buildConfig, h.config]
    rfl

end SealedFor

namespace BuilderSystem

variable {P : Type} [BidSelectionPolicy P]

/-- What the main service finds for the transfer slot, with the schedule of its registration. -/
def scheduledInputs : BuilderInputs :=
  { transferInputs with
    validatorInfo := (ValidatorSchedule.new [transferProposer 5 30000000]).getBySlot }

/-- From the announcement of the transfer slot to the post of a bid for it. -/
def submits : List SystemEvent :=
  [.attributes (transferAttributes 4) 1, .pollBuilder scheduledInputs, .announce] ++
    bidderPolls 2 ++ jobBuilds 0 4 ++ bidderPolls 6 ++
    [.bidder (.finalize 0 transferClient (transferPool [])), .bidder .relayPoll,
      .bidder (.post 0 .merkle)]

theorem scheduled_submits (inputs : BuilderInputs) (h : .pollBuilder inputs ∈ submits) :
    ∃ schedule : ValidatorSchedule, inputs.validatorInfo = schedule.getBySlot := by
  simp [submits, bidderPolls, jobBuilds, payloadPolls] at h
  rw [h]
  exact ⟨_, rfl⟩

end BuilderSystem

end BlockBuilder
