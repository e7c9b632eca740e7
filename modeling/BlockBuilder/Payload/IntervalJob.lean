import BlockBuilder.Lib.Interval
import BlockBuilder.Lib.Oneshot
import BlockBuilder.Payload.Job

/-!
# Interval jobs (`crates/payload/src/job/{interval_job,build_utils}.rs`)

An `IntervalBuildJob` builds on the ticks of an interval and keeps the best build
to itself. It answers the consensus layer: `bestPayload` and `resolve` turn the
best build into an empty block, and when there is none build an empty one.
`resolve` does not wait for it, and hands out a future instead.

A poll is cut as that of a `StreamBuildJob`: up to the end of the loop over the
ticks, and the look at the pending build.

Mirroring notes:
- Times are milliseconds, `deadline` is when the sleep of the job ends.
- The receiver of a pending build is the number of its task; the receiver of an
  empty payload is what it finds.
- `strat` is the default `EmptyStrat`, as in `buildEmptyPayload`.
- Cached reads, metrics and the guard on the number of tasks are left out.
-/

namespace BlockBuilder

open Lib (Interval Oneshot run)

structure IntervalBuildJob where
  buildConfig : BuildConfig
  /-- The deadline when this job should resolve. -/
  deadline : Nat
  /-- The interval at which the job should build a new payload after the last. -/
  interval : Interval
  bestBuild : Option BuildState
  pendingBuild : Option Nat
  strategy : Strategy

/-- `ResolveBestPayload`. -/
structure ResolveBestPayload where
  bestPayload : Option Build
  /-- The receiver of the empty payload that is being built. -/
  emptyPayload : Option (Oneshot (Except PayloadBuilderError Build))

/-- What the poll of the future of a payload comes to. -/
inductive ResolvePoll where
  | ready (result : Except PayloadBuilderError Build)
  /-- The task is gone without a result, a `RecvError`. -/
  | channelClosed
  | pending
  /-- `expect("polled after completion")`. -/
  | panicked

/-- An answer, after which the future is not to be polled. -/
def ResolvePoll.isFinal : ResolvePoll → Bool
  | ready _ | channelClosed => true
  | pending | panicked => false

namespace ResolveBestPayload

def poll (fut : ResolveBestPayload) : ResolveBestPayload × ResolvePoll :=
  match fut.bestPayload with
  | some best => ({ fut with bestPayload := none }, .ready (.ok best))
  | none =>
    match fut.emptyPayload with
    | none => (fut, .panicked)
    | some (.sent res) => ({ fut with emptyPayload := none }, .ready res)
    | some .closed => ({ fut with emptyPayload := none }, .channelClosed)
    | some .pending => (fut, .pending)

end ResolveBestPayload

namespace IntervalBuildJob

/-- A tick starts a new build if there is none pending. -/
def spawnBuild (job : IntervalBuildJob) (builds : List BuildTask) :
    IntervalBuildJob × List BuildTask :=
  match job.pendingBuild with
  | none =>
    ({ job with pendingBuild := some builds.length },
      builds ++ [⟨job.strategy, job.buildConfig, job.bestBuild, .pending⟩])
  | some _ => (job, builds)

/-- Poll the pending build. An outcome resets the interval, an error does not. -/
def pollPending (job : IntervalBuildJob) (builds : List BuildTask) (now : Nat) :
    IntervalBuildJob × Option BuildState :=
  match (job.pendingBuild.bind (builds[·]?)).map BuildTask.result with
  | some (.sent (.ok outcome)) =>
    let job := { job with pendingBuild := none, interval := job.interval.reset now }
    match outcome with
    | .better buildState => ({ job with bestBuild := some buildState }, some buildState)
    | .aborted _ => (job, none)
    -- `unreachable!("the cancel signal never fired")`
    | .cancelled => (job, none)
  -- job failed, but we simply try again next interval
  | some (.sent (.error _)) | some .closed => ({ job with pendingBuild := none }, none)
  | some .pending | none => (job, none)

/-- The arguments of an empty payload. -/
def emptyArgs (job : IntervalBuildJob) (inputs : BuildInputs) : BuildArguments where
  client := inputs.client
  pool := inputs.pool
  bundlePool := inputs.bundlePool
  acquired := inputs.acquired
  buildId := inputs.buildId
  buildConfig := job.buildConfig
  cancelled _ := false
  bestBuild := none

def bestPayload (R : Reth) (job : IntervalBuildJob) (strat : EmptyStrat) (inputs : BuildInputs) :
    Except PayloadBuilderError Build :=
  match job.bestBuild with
  | some bestBuild => bestBuild.intoEmptyBuild R inputs.client inputs.pool
  | none => buildEmptyPayload R strat (job.emptyArgs inputs)

def payloadAttributes (job : IntervalBuildJob) :
    Except PayloadBuilderError EthPayloadBuilderAttributes :=
  .ok job.buildConfig.attributes

/-- The best build is taken; without one an empty payload is being built. -/
def resolve (R : Reth) (job : IntervalBuildJob) (client : Client) (pool : Pool) :
    IntervalBuildJob × ResolveBestPayload :=
  let bestBuild : Option Build :=
    match job.bestBuild with
    | some bestBuild => (bestBuild.intoEmptyBuild R client pool).toOption
    | none => none
  ({ job with bestBuild := none },
    { bestPayload := bestBuild
      emptyPayload := if bestBuild.isNone then some .pending else none })

/-- A future has the best build in an empty block, or waits for an empty payload. -/
theorem resolve_cases (R : Reth) (job : IntervalBuildJob) (client : Client) (pool : Pool) :
    (∃ bs build, job.bestBuild = some bs ∧ bs.intoEmptyBuild R client pool = .ok build ∧
      (job.resolve R client pool).2 = ⟨some build, none⟩) ∨
    (job.resolve R client pool).2 = ⟨none, some .pending⟩ := by
  unfold resolve
  cases hbest : job.bestBuild with
  | none => exact .inr rfl
  | some bs =>
    cases hbuild : bs.intoEmptyBuild R client pool with
    | error err =>
      refine .inr ?_
      simp only [hbuild]
      rfl
    | ok build =>
      refine .inl ⟨bs, build, rfl, hbuild, ?_⟩
      simp only [hbuild]
      rfl

end IntervalBuildJob

/-! ## What a build keeps of its arguments -/

/-- A better build has the configurations of its arguments and its strategy. -/
theorem Strategy.tryBuild_configs {R : Reth} (strategy : Strategy) {args : BuildArguments}
    {bs : BuildState} (h : strategy.tryBuild R args = .ok (.better bs)) :
    bs.payloadConfig = strategy.config ∧
      bs.buildConfig = args.buildConfig.blockEnvWithCoinbase strategy.config.builderAddress := by
  by_cases hexec : strategy.executing = true
  · obtain ⟨s, ops, hstart, rfl, -, -⟩ := Strategy.tryBuild_better hexec h
    obtain ⟨hnew, -⟩ := startBuild_ok hstart
    constructor
    · show (run (BuildOp.step R) s ops).1.payloadConfig = _
      rw [BuildOp.payloadConfig_run, hnew]
      rfl
    · show (run (BuildOp.step R) s ops).1.buildConfig = _
      rw [BuildOp.buildConfig_run, hnew]
      rfl
  · cases strategy with
    | mempoolStrat strat => exact absurd rfl hexec
    | bundlesStrat strat => exact absurd rfl hexec
    | emptyStrat strat =>
      replace h : strat.tryBuild R args = .ok (.better bs) := h
      unfold EmptyStrat.tryBuild at h
      split at h
      next => cases h
      next s hstart =>
        cases h
        rw [(startBuild_ok hstart).1]
        exact ⟨rfl, rfl⟩

/-- An empty block for a configuration: nothing is executed and nothing is bid. -/
structure EmptyFor (R : Reth) (config : BuildConfig) (build : Build) : Prop where
  id : build.payload.id = config.attributes.id
  body : build.payload.block.body = []
  gasUsed : build.payload.block.header.gasUsed = 0
  bid : build.bid = 0
  validatorInfo : build.validatorInfo = config.validatorInfo
  parentHash : build.payload.block.header.parentHash = config.parentBlock.hash
  number : build.payload.block.header.number = config.parentBlock.header.number + 1
  beneficiary : build.payload.block.header.beneficiary = config.validatorInfo.feeRecipient
  timestamp : build.payload.block.header.timestamp = config.attributes.timestamp
  mixHash : build.payload.block.header.mixHash = config.attributes.prevRandao
  beaconRoot : build.payload.block.header.parentBeaconBlockRoot =
    config.attributes.parentBeaconBlockRoot
  gasLimit : build.payload.block.header.gasLimit = config.blockGasLimit
  baseFee : build.payload.block.header.baseFeePerGas = some config.basefee
  hash : build.payload.block.hash = R.hashSlow build.payload.block.header

/-- **An empty block is for the configuration of its build state.** -/
theorem BuildState.intoEmptyBuild_emptyFor {R : Reth} {bs : BuildState} {config : BuildConfig}
    {coinbase : Address} (hconfig : bs.buildConfig = config.blockEnvWithCoinbase coinbase)
    {client : Client} {pool : Pool} {build : Build}
    (h : bs.intoEmptyBuild R client pool = .ok build) : EmptyFor R config build := by
  obtain ⟨_, _, _, _, _, _, _, _, _, rfl⟩ := BuildState.intoEmptyBuild_ok h
  unfold BuildState.sealBuild
  rw [hconfig]
  exact ⟨rfl, rfl, rfl, rfl, rfl, rfl, rfl, rfl, rfl, rfl, rfl, rfl, rfl, rfl⟩

theorem buildEmptyPayload_emptyFor {R : Reth} {strat : EmptyStrat} {args : BuildArguments}
    {build : Build} (h : buildEmptyPayload R strat args = .ok build) :
    EmptyFor R args.buildConfig build := by
  unfold buildEmptyPayload at h
  split at h
  next => cases h
  next bs hbs =>
    obtain ⟨-, hconfig⟩ := Strategy.tryBuild_configs (.emptyStrat strat) hbs
    exact BuildState.intoEmptyBuild_emptyFor hconfig h
  next => cases h

end BlockBuilder
