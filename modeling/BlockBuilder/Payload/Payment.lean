import BlockBuilder.Payload.TransferSlot

/-!
# Bids (`crates/payload/src/bidder/service.rs`)

A bid is a build state finished with a payment and the message made from the
block. The relay and the proposer believe the message, so `Truthful` asks that
the last transaction of the block is the builder's transfer of the value to the
fee recipient, that it succeeded, and that the message describes this block.

Everything but the success holds of every bid. The payment is executed with
`skip_verify` and its result is not looked at, so a recipient whose code
reverts, or needs more than the 32000 gas, is not paid although the bid says
so. `simulateRefundTx` makes the same kind of transfer and rejects a reverted
one. `bid_truthful_iff` says that the success of this one execution is all that
is missing.
-/

namespace BlockBuilder

inductive BidderServiceError where
  | finalize (text : String)
  deriving DecidableEq, Repr

/-- Finish a build state with a payment. -/
def buildSubmissionWithBuilderPayment (R : Reth) (client : Client) (pool : Pool)
    (buildState : BuildState) (bid : U256) : Except BidderServiceError Build :=
  match (buildState.withPayment bid).intoBuild R client pool with
  | .error err => .error (.finalize (R.displayPayloadBuilderError err))
  | .ok build => .ok build

/-- The message says what the block does: its last transaction is a successful
transfer of the value from the builder to the fee recipient. -/
structure Truthful (R : Reth) (builder : SecretKey) (build : Build) (receipts : List Receipt)
    (message : Bid) : Prop where
  transfer : ∃ tx, build.payload.block.body.getLast? = some tx ∧
    tx.signature.recovers = some (R.publicAddress builder) ∧
    tx.transaction.toAddress = some message.proposerFeeRecipient ∧
    tx.transaction.value = message.value
  succeeded : ∃ receipt, receipts.getLast? = some receipt ∧ receipt.success = true
  blockHash : message.blockHash = build.payload.block.hash ∧
    build.payload.block.hash = R.hashSlow build.payload.block.header
  gasLimit : message.gasLimit = build.payload.block.header.gasLimit
  gasUsed : message.gasUsed = build.payload.block.header.gasUsed
  parentHash : message.parentHash = build.payload.block.header.parentHash

/-- Whether the EVM executes the builder's transfer of `bid` to the proposer
successfully on a chain state. -/
def paymentSucceeds (R : Reth) (bs : BuildState) (s : ChainState) (bid : U256) : Bool :=
  match bs.createBuilderTransferTransaction R s bs.buildConfig.validatorInfo.feeRecipient bid with
  | .error _ => false
  | .ok tx =>
    match R.transact bs.env s tx with
    | .error _ => false
    | .ok r => r.result.isSuccess

/-- The last receipt after a payment is the payment's. -/
theorem getLast?_receipts_commit (bs : BuildState) (db : ExecutionDB) (pay : SimulatedTransaction) :
    ∃ receipt, (bs.commit db [pay]).1.execDetails.receipts.reduceOption.getLast? = some receipt ∧
      receipt.success = pay.outcome.evmResult.isSuccess := by
  refine ⟨⟨pay.tx.transaction.txType, pay.outcome.evmResult.isSuccess,
    bs.execDetails.cumulativeGasUsed + pay.outcome.gasUsed, pay.outcome.evmResult.intoLogs⟩,
    ?_, rfl⟩
  rw [BuildState.execDetails_commit]
  show (bs.execDetails.receipts ++ [some _]).reduceOption.getLast? = _
  rw [List.reduceOption_append, List.reduceOption_cons_of_some, List.reduceOption_nil,
    List.getLast?_concat]

/-- **When a bid is truthful.** A bid made from any build state describes its
own block and ends in the builder's transfer of the value to the recipient; it
is truthful if and only if the EVM executes that transfer successfully on the
state the build left. -/
theorem bid_truthful_iff {R : Reth} {client : Client} {pool : Pool} {bs : BuildState} {bid : U256}
    {build : Build} (h : buildSubmissionWithBuilderPayment R client pool bs bid = .ok build)
    (builderPubkey : BlsPublicKey) :
    ∃ parent paid,
      client.stateByBlockHash build.payload.block.header.parentHash = .ok parent ∧
      (bs.withPayment bid).executePayment R (bs.finalDb parent) = .ok paid ∧
      build.payload.block.body = paid.1.execDetails.executedTxs ∧
      build.payload.block.header.receiptsRoot =
        R.receiptsRootSlow paid.1.execDetails.receipts.reduceOption ∧
      (Truthful R bs.payloadConfig.secretKey build paid.1.execDetails.receipts.reduceOption
          (.new build builderPubkey) ↔
        paymentSucceeds R bs (bs.finalDb parent).view bid = true) := by
  unfold buildSubmissionWithBuilderPayment at h
  split at h
  next => cases h
  next build' hbuild =>
    cases h
    obtain ⟨parent, this, db, post, outcome, stateRoot, cancun, hparent, hpaid, _, _, _, _, rfl⟩ :=
      BuildState.intoBuild_ok hbuild
    obtain ⟨pay, nonce, hcommit, hexec, hcreate, hpayTx⟩ := BuildState.executePayment_ok hpaid
    have hthis : this = ((bs.withPayment bid).commit (bs.finalDb parent) [pay]).1 :=
      congrArg Prod.fst hcommit
    have hconfig : this.buildConfig = bs.buildConfig := by
      rw [hthis, BuildState.buildConfig_commit]
      rfl
    obtain ⟨receipt, hlast, hsuccess⟩ :=
      getLast?_receipts_commit (bs.withPayment bid) (bs.finalDb parent) pay
    rw [← hthis] at hlast
    have hbody : this.execDetails.executedTxs =
        bs.execDetails.executedTxs ++ [pay.tx.intoSigned] := by
      rw [hthis, BuildState.execDetails_commit]
      rfl
    refine ⟨parent, (this, db), ?_, hpaid, rfl, rfl, ?_⟩
    · show client.stateByBlockHash this.buildConfig.parentBlock.hash = .ok parent
      rw [hconfig]
      exact hparent
    -- the transfer asked about is the one executed, and the EVM is deterministic
    have hpays : paymentSucceeds R bs (bs.finalDb parent).view bid =
        pay.outcome.evmResult.isSuccess := by
      have hcreate' : bs.createBuilderTransferTransaction R (bs.finalDb parent).view
          bs.buildConfig.validatorInfo.feeRecipient bid = .ok pay.tx := hcreate
      have htransact : R.transact bs.env (bs.finalDb parent).view pay.tx = .ok _ := hexec.transact
      unfold paymentSucceeds
      rw [hcreate']
      simp only
      rw [htransact]
    rw [hpays]
    constructor
    · intro htruthful
      obtain ⟨receipt', hreceipt', hok⟩ := htruthful.succeeded
      rw [hlast] at hreceipt'
      cases hreceipt'
      rw [← hsuccess]
      exact hok
    · intro hok
      exact
        { transfer := by
            refine ⟨pay.tx.intoSigned, ?_, ?_, ?_, ?_⟩
            · show this.execDetails.executedTxs.getLast? = _
              rw [hbody, List.getLast?_concat]
            · rw [hpayTx]
              exact R.signMessage_recovers _ _
            · rw [hpayTx]
              show some bs.buildConfig.validatorInfo.feeRecipient =
                some this.buildConfig.validatorInfo.feeRecipient
              rw [hconfig]
            · rw [hpayTx]
              rfl
          succeeded := ⟨receipt, hlast, hsuccess.trans hok⟩
          blockHash := ⟨rfl, rfl⟩
          gasLimit := rfl
          gasUsed := rfl
          parentHash := rfl }

/-- A bid to an ordinary account pays it. -/
theorem bid_truthful_transfer :
    ∃ build receipts, buildSubmissionWithBuilderPayment transferChain transferClient
        (transferPool [])
        (.new (transferArguments (transferProposer 5 30000000) 4 [] []).buildConfig
          transferConfig 0)
        1000 = .ok build ∧
      Truthful transferChain 9 build receipts (.new build []) := by
  have hhash : (buildSubmissionWithBuilderPayment transferChain transferClient (transferPool [])
      (.new (transferArguments (transferProposer 5 30000000) 4 [] []).buildConfig transferConfig 0)
      1000).toOption.map (·.payload.block.header.parentHash) = some 77 := by
    decide +kernel
  cases hbuild : buildSubmissionWithBuilderPayment transferChain transferClient (transferPool [])
      (.new (transferArguments (transferProposer 5 30000000) 4 [] []).buildConfig transferConfig 0)
      1000 with
  | error err =>
    rw [hbuild] at hhash
    cases hhash
  | ok build =>
    rw [hbuild] at hhash
    have hparentHash : build.payload.block.header.parentHash = 77 := Option.some.inj hhash
    obtain ⟨parent, paid, hparent, _, _, _, hiff⟩ := bid_truthful_iff hbuild []
    rw [hparentHash] at hparent
    have hstate : transferState = parent := Except.ok.inj hparent
    refine ⟨build, _, rfl, hiff.mpr ?_⟩
    rw [← hstate]
    decide +kernel

/-- The bid to a contract that reverts what it is sent is made all the same. -/
theorem bid_unpaid :
    ∃ bs build paid, (Strategy.mempoolStrat ⟨transferConfig⟩).build transferChain
        (transferArguments (transferProposer 7 30000000) 4 []
          [TransferChain.transfer 1 0 2 5 10 21000]) 1000 = some (bs, build) ∧
      (bs.withPayment 1000).executePayment transferChain (bs.finalDb transferState) = .ok paid ∧
      ¬ Truthful transferChain 9 build paid.1.execDetails.receipts.reduceOption
        (.new build []) := by
  have hreceipt : ((Strategy.mempoolStrat ⟨transferConfig⟩).build transferChain
      (transferArguments (transferProposer 7 30000000) 4 []
        [TransferChain.transfer 1 0 2 5 10 21000]) 1000).map (fun p =>
        ((p.1.withPayment 1000).executePayment transferChain
          (p.1.finalDb transferState)).toOption.map
          fun paid => paid.1.execDetails.receipts.reduceOption.getLast?.map (·.success)) =
      some (some (some false)) := by
    decide +kernel
  obtain ⟨⟨bs, build⟩, hsome, hpaid⟩ := Option.map_eq_some_iff.mp hreceipt
  cases hexecuted : (bs.withPayment 1000).executePayment transferChain
      (bs.finalDb transferState) with
  | error err =>
    simp only [hexecuted] at hpaid
    cases hpaid
  | ok paid =>
    simp only [hexecuted] at hpaid
    have hlast : paid.1.execDetails.receipts.reduceOption.getLast?.map (·.success) = some false :=
      Option.some.inj hpaid
    refine ⟨bs, build, paid, hsome, hexecuted, fun htruthful => ?_⟩
    obtain ⟨receipt, hreceipt, hok⟩ := htruthful.succeeded
    rw [hreceipt, Option.map_some, hok] at hlast
    cases hlast

end BlockBuilder
