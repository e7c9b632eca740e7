import BlockBuilder.Payload.Sealed
import BlockBuilder.Payload.TransferSlot

/-!
# A built block replays

`replay` is what a validator does with a block and its parent's state: the
pre-block call, the body one transaction after the other, each signer recovered
from its signature and each result committed before the next, then the
withdrawals. It knows nothing of simulations, caches, bundle states or
execution details.

The builder reaches the same state by another road: bundles are simulated on a
throw-away cache and their outcomes committed again, transitions are merged
into a bundle state, and the payment and the withdrawals are executed on a new
database over that bundle state. `replay_built` says that the two roads meet,
for every run of `MempoolStrat` and `BundlesStrat`.
-/

namespace BlockBuilder

inductive ReplayError where
  | preBlock (err : RethError)
  | invalidSignature
  | evm (err : EVMError)
  | provider (err : ProviderError)
  deriving DecidableEq, Repr

/-- What the execution of a block leaves: the post state, the receipts and the gas used. -/
structure ReplayOutcome where
  state : ChainState
  receipts : List Receipt
  gasUsed : UInt64

/-- Execute a body one by one, from a cumulative gas. -/
def replayBody (R : Reth) (env : Env) :
    ChainState → UInt64 → List TransactionSigned → Except ReplayError ReplayOutcome
  | s, cumulative, [] => .ok ⟨s, [], cumulative⟩
  | s, cumulative, signed :: body =>
    match signed.intoEcrecovered with
    | none => .error .invalidSignature
    | some tx =>
      match R.transact env s tx with
      | .error err => .error (.evm err)
      | .ok r =>
        let cumulative := cumulative + r.result.gasUsed
        match replayBody R env (s.commit r.state) cumulative body with
        | .error err => .error err
        | .ok out =>
          let receipt : Receipt :=
            { txType := signed.transaction.txType
              success := r.result.isSuccess
              cumulativeGasUsed := cumulative
              logs := r.result.intoLogs }
          .ok { out with receipts := receipt :: out.receipts }

/-- Execute a block on its parent's state, in an environment and with a beacon root. -/
def replay (R : Reth) (chainSpec : ChainSpec) (env : Env) (beaconRoot : Option B256)
    (parent : ChainState) (block : SealedBlock) : Except ReplayError ReplayOutcome :=
  match R.applyBeaconRootContractCall chainSpec block.header.timestamp env.block.number beaconRoot
      env parent with
  | .error err => .error (.preBlock err)
  | .ok st =>
    match replayBody R env (parent.commit st) 0 block.body with
    | .error err => .error err
    | .ok out =>
      match out.state.incrementBalances
          (owedIncrements R chainSpec block.header.timestamp (block.withdrawals.getD [])) with
      | .error err => .error (.provider err)
      | .ok post => .ok { out with state := post }

/-- Replaying an executed log gives its state, its receipts and its gas. -/
theorem replayBody_executes {R : Reth} {env : Env} : ∀ (sims : List SimulatedTransaction)
    {s : ChainState} {cumulative : UInt64}, Executes R env s sims →
    replayBody R env s cumulative (sims.map (·.tx.intoSigned)) =
      .ok ⟨s.after sims, receiptsFrom cumulative sims, cumulative + gasSum sims⟩ := by
  intro sims
  induction sims with
  | nil =>
    intro s cumulative _
    simp [replayBody, receiptsFrom]
  | cons sim sims ih =>
    intro s cumulative h
    obtain ⟨hhead, htail⟩ := h
    have hrest := @ih (s.commitTx sim) (cumulative + sim.outcome.gasUsed) htail
    rw [hhead.gasUsed_eq] at hrest
    unfold replayBody
    rw [List.map_cons]
    simp only [intoEcrecovered_intoSigned, hhead.transact]
    rw [show s.commit sim.outcome.evmState = s.commitTx sim from rfl, hrest]
    simp only [receiptsFrom, gasSum_cons, hhead.gasUsed_eq, UInt64.add_assoc]
    rfl

/-- **A built block replays.** Executing the block from its parent's state, with
the builder's pre-block call and environment, gives the state of its state
root, the receipts of its receipts root and logs bloom, and its gas. -/
theorem replay_built {R : Reth} {strategy : Strategy} {args : BuildArguments} {bs : BuildState}
    {bid : U256} {pool : Pool} {build : Build} (hexec : strategy.executing = true)
    (h : strategy.tryBuild R args = .ok (.better bs))
    (hbuild : (bs.withPayment bid).intoBuild R args.client pool = .ok build) :
    ∃ parent out,
      args.client.stateByBlockHash build.payload.block.header.parentHash = .ok parent ∧
      replay R bs.payloadConfig.chainSpec bs.env bs.preBlockBeaconRoot parent build.payload.block
        = .ok out ∧
      R.stateRoot out.state = .ok build.payload.block.header.stateRoot ∧
      R.receiptsRootSlow out.receipts = build.payload.block.header.receiptsRoot ∧
      R.blockLogsBloom out.receipts = build.payload.block.header.logsBloom ∧
      out.gasUsed = build.payload.block.header.gasUsed := by
  obtain ⟨parent, st, sims, pay, ⟨hparent, hbeacon⟩, hexecutes, hsealed⟩ :=
    Strategy.better_sealed hexec h hbuild
  obtain ⟨post, hpost, hroot⟩ := hsealed.stateRoot
  have hlog : Executes R bs.env (parent.commit st) (sims ++ [pay]) :=
    (Lib.along_append _ _ _).mpr ⟨hexecutes, hsealed.paid, trivial⟩
  have hbody := @replayBody_executes R bs.env (sims ++ [pay]) (parent.commit st) 0 hlog
  have hafter : (parent.commit st).after (sims ++ [pay]) =
      ((parent.commit st).after sims).commitTx pay := Lib.run_concat ..
  -- the withdrawals of the block are those of the attributes, or there are none
  have howed : owedIncrements R bs.payloadConfig.chainSpec bs.buildConfig.attributes.timestamp
      (build.payload.block.withdrawals.getD []) =
      owedIncrements R bs.payloadConfig.chainSpec bs.buildConfig.attributes.timestamp
        bs.buildConfig.attributes.withdrawals := by
    have hw := hsealed.withdrawals
    rw [hw]
    unfold owedIncrements
    cases hshanghai : (bs.withPayment bid).payloadConfig.chainSpec.isShanghaiActiveAtTimestamp
        (bs.withPayment bid).buildConfig.attributes.timestamp with
    | true => rfl
    | false =>
      have hfalse : bs.payloadConfig.chainSpec.isShanghaiActiveAtTimestamp
          bs.buildConfig.attributes.timestamp = false := hshanghai
      simp [hfalse]
  refine ⟨parent, ⟨post, receiptsFrom 0 (sims ++ [pay]), gasSum (sims ++ [pay])⟩, ?_, ?_, hroot,
    hsealed.receiptsRoot.symm, hsealed.logsBloom.symm, hsealed.gasUsed.symm⟩
  · rw [hsealed.parentHash]
    exact hparent
  · have htimestamp : build.payload.block.header.timestamp = bs.buildConfig.attributes.timestamp :=
      hsealed.timestamp
    have hnumber : bs.env.block.number = bs.buildConfig.blockNumber :=
      bs.buildConfig.blockNumber_eq.symm
    unfold replay
    rw [htimestamp, hnumber, hbeacon]
    simp only
    rw [hsealed.body, hbody]
    simp only
    rw [howed, hafter]
    have hpost' : ((parent.commit st).after sims |>.commitTx pay).incrementBalances
        (owedIncrements R bs.payloadConfig.chainSpec bs.buildConfig.attributes.timestamp
          bs.buildConfig.attributes.withdrawals) = .ok post := hpost
    rw [hpost', UInt64.zero_add]

/-- A bundle, a transaction of the pool and a bid of 1000 wei replay. -/
theorem replay_built_transfers :
    ∃ bs build parent out,
      (Strategy.bundlesStrat ⟨transferConfig⟩).build transferChain
        (transferArguments (transferProposer 5 30000000) 4
          [transferBundle 1 [[1, 0, 2, 5, 10]] none] [TransferChain.transfer 2 0 1 8 9 21000]) 1000
        = some (bs, build) ∧
      build.payload.block.body.length = 3 ∧
      replay transferChain bs.payloadConfig.chainSpec bs.env bs.preBlockBeaconRoot parent
        build.payload.block = .ok out ∧
      transferChain.stateRoot out.state = .ok build.payload.block.header.stateRoot := by
  have hbuilt : (((Strategy.bundlesStrat ⟨transferConfig⟩).build transferChain
      (transferArguments (transferProposer 5 30000000) 4
        [transferBundle 1 [[1, 0, 2, 5, 10]] none] [TransferChain.transfer 2 0 1 8 9 21000])
      1000).map (·.2.payload.block.body.length)) = some 3 := by
    decide +kernel
  obtain ⟨⟨bs, build⟩, hsome, hlength⟩ := Option.map_eq_some_iff.mp hbuilt
  obtain ⟨hbetter, hbuild⟩ := Strategy.build_eq_some hsome
  have hexec : (Strategy.bundlesStrat ⟨transferConfig⟩).executing = true := rfl
  obtain ⟨parent, out, _, hreplay, hroot, _⟩ := replay_built hexec hbetter hbuild
  exact ⟨bs, build, parent, out, hsome, hlength, hreplay, hroot⟩

end BlockBuilder
