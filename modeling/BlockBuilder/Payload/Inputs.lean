import BlockBuilder.Payload.TransferSlot
import BlockBuilder.Payload.Sealed

/-!
# The inputs of execution and the header

A validator executes a block in the environment it derives from the header:
its number, beneficiary, timestamp, randao, base fee and gas limit, and the
beacon root for the EIP-4788 call. The builder executes in the environment of
its configuration. `ExecutionInputs` is the record of these seven words, taken
once from the build state and once from the header.

`inputs_agree_iff` compares the two for every build state made from a
`BuildConfig`. Five words always agree. The gas limit of the environment is the
parent's while the header has the suggested one, and the beacon root of the
pre-block call is the one in the parent's header, not the one of the
attributes; the theorem says when that makes no difference.
-/

namespace BlockBuilder

open Lib (run)
open BuildOp (step)

/-- The words a block's execution depends on, beside its body. -/
structure ExecutionInputs where
  number : UInt64
  coinbase : Address
  timestamp : UInt64
  prevrandao : Option B256
  basefee : Option UInt64
  gasLimit : UInt64
  beaconRoot : Option B256
  deriving DecidableEq, Repr

/-- The inputs an environment and a beacon root stand for. -/
def Env.executionInputs (env : Env) (beaconRoot : Option B256) : ExecutionInputs where
  number := env.block.number
  coinbase := env.block.coinbase
  timestamp := env.block.timestamp
  prevrandao := env.block.prevrandao
  basefee := some env.block.basefee
  gasLimit := env.block.gasLimit
  beaconRoot := beaconRoot

/-- What a validator derives from a header. -/
def Header.executionInputs (header : Header) : ExecutionInputs where
  number := header.number
  coinbase := header.beneficiary
  timestamp := header.timestamp
  prevrandao := some header.mixHash
  basefee := header.baseFeePerGas
  gasLimit := header.gasLimit
  beaconRoot := header.parentBeaconBlockRoot

/-- What reth documents of `cfg_and_block_env`. -/
structure Reth.DerivesEnv (R : Reth) : Prop where
  number : ∀ attributes chainSpec parent,
    (R.cfgAndBlockEnv attributes chainSpec parent).2.number = parent.number + 1
  timestamp : ∀ attributes chainSpec parent,
    (R.cfgAndBlockEnv attributes chainSpec parent).2.timestamp = attributes.timestamp
  prevrandao : ∀ attributes chainSpec parent,
    (R.cfgAndBlockEnv attributes chainSpec parent).2.prevrandao = some attributes.prevRandao
  gasLimit : ∀ attributes chainSpec parent,
    (R.cfgAndBlockEnv attributes chainSpec parent).2.gasLimit = parent.gasLimit

/-- A block whose pre-block call and transactions were executed in an
environment, with a beacon root. -/
def ExecutedUnder (R : Reth) (chainSpec : ChainSpec) (env : Env) (beaconRoot : Option B256)
    (parent : ChainState) (block : SealedBlock) : Prop :=
  ∃ st sims pay before,
    R.applyBeaconRootContractCall chainSpec block.header.timestamp env.block.number beaconRoot env
      parent = .ok st ∧
    Executes R env (parent.commit st) sims ∧ ExecutedOn R env before pay ∧
    block.body = (sims ++ [pay]).map (·.tx.intoSigned)

/-- **When the inputs of execution are the header's.** For every build state made
from a `BuildConfig`, by any calls and any stored payment and bundle state: the
block was executed in the environment of the build state, and that environment
is the one a validator derives if and only if the suggested gas limit is the
parent's and the parent's header has the beacon root of the attributes. -/
theorem inputs_agree_iff {R : Reth} (hR : R.DerivesEnv) {chainSpec : ChainSpec}
    {attributes : EthPayloadBuilderAttributes} {parentBlock : SealedBlock} {slot : UInt64}
    {info : ValidatorScheduleSlotInfo} {config : PayloadConfig} {args : BuildArguments}
    (hargs : args.buildConfig = .new R chainSpec attributes parentBlock slot info)
    {s : Session} (hstart : startBuild R config args = .ok s) (ops : List BuildOp)
    (payment : Option U256) (bundleState : Option BundleState) {bs : BuildState}
    (hbs : bs = (run (step R) s ops).1.stored payment bundleState) {client : Client} {pool : Pool}
    {build : Build} (h : bs.intoBuild R client pool = .ok build) :
    (∃ parent, args.client.stateByBlockHash build.payload.block.header.parentHash = .ok parent ∧
      ExecutedUnder R config.chainSpec bs.env bs.preBlockBeaconRoot parent build.payload.block) ∧
    (bs.env.executionInputs bs.preBlockBeaconRoot = build.payload.block.header.executionInputs ↔
      (parentBlock.header.gasLimit = info.desiredLimit ∨ parentBlock.header.gasLimit = 0 ∨
        (1024 ≤ parentBlock.header.gasLimit.toNat ∧ parentBlock.header.gasLimit.toNat < 2048)) ∧
      parentBlock.header.parentBeaconBlockRoot = attributes.parentBeaconBlockRoot) := by
  obtain ⟨hnew, -⟩ := startBuild_ok hstart
  obtain ⟨parent, st, hbegan⟩ := startBuild_built hstart
  obtain ⟨sims, hbuilt⟩ := hbegan.run ops
  have hlog : bs.execDetails = .ofLog sims payment bundleState := by
    rw [hbs]
    exact hbuilt.stored_log payment bundleState
  have hkept : bs.buildConfig = s.1.buildConfig := by
    rw [hbs]
    exact BuildOp.buildConfig_run R ops s
  have hconfig : bs.buildConfig =
      (BuildConfig.new R chainSpec attributes parentBlock slot info).blockEnvWithCoinbase
        config.builderAddress := by
    rw [hkept, hnew, ← hargs]
    rfl
  have hpayload : bs.payloadConfig = config := by
    have hstored : bs.payloadConfig = s.1.payloadConfig := by
      rw [hbs]
      exact BuildOp.payloadConfig_run R ops s
    rw [hstored, hnew]
    rfl
  have hcall : PreBlockCall R args.client bs parent st := by
    rw [hbs]
    exact hbuilt.preBlock.of_config rfl rfl
  have hexecutes : Executes R bs.env (parent.commit st) sims := by
    rw [hbs]
    exact hbuilt.executes
  obtain ⟨parent', pay, _, hsealed⟩ := intoBuild_sealed hlog h
  constructor
  · refine ⟨parent, ?_, st, sims, pay, _, ?_, hexecutes, hsealed.paid, hsealed.body⟩
    · rw [hsealed.parentHash]
      exact hcall.parent_eq
    · have hbeacon := hcall.call
      rw [hpayload, bs.buildConfig.blockNumber_eq] at hbeacon
      rw [hsealed.timestamp]
      exact hbeacon
  · -- the five words that always agree
    have hnumber : bs.env.block.number = build.payload.block.header.number := by
      rw [hsealed.number, BuildState.env, hconfig]
      exact hR.number ..
    have htimestamp : bs.env.block.timestamp = build.payload.block.header.timestamp := by
      rw [hsealed.timestamp, BuildState.env, hconfig]
      exact hR.timestamp ..
    have hrandao : bs.env.block.prevrandao = some build.payload.block.header.mixHash := by
      rw [hsealed.mixHash, BuildState.env, hconfig]
      exact hR.prevrandao ..
    have hbasefee : some bs.env.block.basefee = build.payload.block.header.baseFeePerGas := by
      rw [hsealed.baseFee, bs.buildConfig.basefee_eq]
      rfl
    -- the two that come from elsewhere
    have hgasEnv : bs.env.block.gasLimit = parentBlock.header.gasLimit := by
      rw [BuildState.env, hconfig]
      exact hR.gasLimit ..
    have hgasHeader : build.payload.block.header.gasLimit =
        info.suggestGasLimit parentBlock.header.gasLimit := by
      rw [hsealed.gasLimit, hconfig]
      rfl
    have hrootEnv : bs.preBlockBeaconRoot = parentBlock.header.parentBeaconBlockRoot := by
      rw [BuildState.preBlockBeaconRoot, hconfig]
      rfl
    have hrootHeader : build.payload.block.header.parentBeaconBlockRoot =
        attributes.parentBeaconBlockRoot := by
      rw [hsealed.beaconRoot, hconfig]
      rfl
    rw [← info.suggestGasLimit_eq_self_iff]
    unfold Env.executionInputs Header.executionInputs
    rw [ExecutionInputs.mk.injEq, hgasEnv, hgasHeader, hrootEnv, hrootHeader, hnumber, htimestamp,
      hrandao, hbasefee, hsealed.beneficiary]
    constructor
    · intro heq
      exact ⟨heq.2.2.2.2.2.1.symm, heq.2.2.2.2.2.2⟩
    · intro heq
      exact ⟨rfl, rfl, rfl, rfl, rfl, heq.1.symm, heq.2⟩

theorem TransferChain.derivesEnv : transferChain.DerivesEnv where
  number _ _ _ := rfl
  timestamp _ _ _ := rfl
  prevrandao _ _ _ := rfl
  gasLimit _ _ _ := rfl

/-- A registered limit equal to the parent's and one beacon root for both blocks agree. -/
theorem inputs_agree_transfer :
    ∃ bs build, (Strategy.mempoolStrat ⟨transferConfig⟩).build transferChain
        (transferArguments (transferProposer 5 30000000) 3 []
          [TransferChain.transfer 1 0 2 5 10 21000]) 1000 = some (bs, build) ∧
      bs.env.executionInputs bs.preBlockBeaconRoot =
        build.payload.block.header.executionInputs := by
  have hbuilt : ((Strategy.mempoolStrat ⟨transferConfig⟩).build transferChain
      (transferArguments (transferProposer 5 30000000) 3 []
        [TransferChain.transfer 1 0 2 5 10 21000]) 1000).isSome = true := by
    decide +kernel
  obtain ⟨⟨bs, build⟩, hsome⟩ := Option.isSome_iff_exists.mp hbuilt
  obtain ⟨hbetter, hbuild⟩ := Strategy.build_eq_some hsome
  have hexec : (Strategy.mempoolStrat ⟨transferConfig⟩).executing = true := rfl
  obtain ⟨s, ops, hstart, hbs, _, _⟩ := Strategy.tryBuild_better hexec hbetter
  refine ⟨bs, build, hsome, ?_⟩
  have hstored : bs.withPayment 1000 = (run (step transferChain) s ops).1.stored (some 1000)
      (some (run (step transferChain) s ops).2.mergeTransitions.takeBundle) := by
    rw [hbs]
    rfl
  have hagree := (inputs_agree_iff TransferChain.derivesEnv rfl hstart ops _ _ hstored hbuild).2
  exact hagree.mpr ⟨.inl (by decide), rfl⟩

/-- With another beacon root for the block, and another registered limit, the
pre-block call got the parent's root and the transactions the parent's limit. -/
theorem inputs_disagree_transfer :
    ∃ bs build, (Strategy.mempoolStrat ⟨transferConfig⟩).build transferChain
        (transferArguments (transferProposer 5 36000000) 4 []
          [TransferChain.transfer 1 0 2 5 10 21000]) 1000 = some (bs, build) ∧
      bs.preBlockBeaconRoot = some 3 ∧
      build.payload.block.header.parentBeaconBlockRoot = some 4 ∧
      bs.env.block.gasLimit = 30000000 ∧ build.payload.block.header.gasLimit = 30029295 ∧
      bs.env.executionInputs bs.preBlockBeaconRoot ≠
        build.payload.block.header.executionInputs := by
  have hbuilt : (((Strategy.mempoolStrat ⟨transferConfig⟩).build transferChain
      (transferArguments (transferProposer 5 36000000) 4 []
        [TransferChain.transfer 1 0 2 5 10 21000]) 1000).map fun p =>
        (p.1.preBlockBeaconRoot, p.2.payload.block.header.parentBeaconBlockRoot,
          p.1.env.block.gasLimit, p.2.payload.block.header.gasLimit)) =
      some (some 3, some 4, 30000000, 30029295) := by
    decide +kernel
  obtain ⟨⟨bs, build⟩, hsome, hvalues⟩ := Option.map_eq_some_iff.mp hbuilt
  simp only [Prod.mk.injEq] at hvalues
  obtain ⟨hcall, hheader, hlimit, hheaderLimit⟩ := hvalues
  refine ⟨bs, build, hsome, hcall, hheader, hlimit, hheaderLimit, fun heq => ?_⟩
  have hroots := congrArg ExecutionInputs.beaconRoot heq
  have hroots' : bs.preBlockBeaconRoot = build.payload.block.header.parentBeaconBlockRoot := hroots
  rw [hcall, hheader] at hroots'
  exact absurd hroots' (by decide)

end BlockBuilder
