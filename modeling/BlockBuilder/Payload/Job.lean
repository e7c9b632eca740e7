import BlockBuilder.Lib.Grows
import BlockBuilder.Payload.Sealed

/-!
# Build jobs (`crates/payload/src/job/stream_job.rs`, `crates/payload/src/generator`)

A `StreamBuildJob` builds for one slot over and over. It spawns a task with the
best build so far, waits for the outcome, keeps and sends a better build state,
and spawns the next task.

A poll of a job is cut in two: up to the task it spawns (`spawnBuild`), and the
poll of the pending build (`pollPending`). In between, and at any other time, the
tasks run.

Mirroring notes:
- The receiver of a pending build is the number of its task.
- What a task reads besides its arguments comes in when it runs: the state, the
  pools, and whether the lock of the bundle pool is got.
- `Cancelled` has no destructor, so the marker of a task never fires.
- The deadline of a job is a parameter of its poll.
- The guard that limits how many tasks run at once is part of the order in which
  they run. Cached reads and metrics are left out.
-/

namespace BlockBuilder

open Lib (Grows)

/-! ## Tasks -/

/-- What the receiver of a task finds. -/
inductive TaskResult where
  | pending
  | sent (result : Except PayloadBuilderError BuildOutcome)
  /-- The task is gone without a result, a `RecvError`. -/
  | closed

/-- A spawned build. -/
structure BuildTask where
  strategy : Strategy
  buildConfig : BuildConfig
  bestBuild : Option BuildState
  result : TaskResult

/-- What a task finds when it runs. -/
structure BuildInputs where
  client : Client
  pool : Pool
  bundlePool : BundlePool
  acquired : Bool
  buildId : BuildId

namespace BuildTask

def args (task : BuildTask) (inputs : BuildInputs) : BuildArguments where
  client := inputs.client
  pool := inputs.pool
  bundlePool := inputs.bundlePool
  acquired := inputs.acquired
  buildId := inputs.buildId
  buildConfig := task.buildConfig
  cancelled _ := false
  bestBuild := task.bestBuild

/-- A task runs once. -/
def run (R : Reth) (task : BuildTask) (inputs : BuildInputs) : BuildTask :=
  match task.result with
  | .pending => { task with result := .sent (task.strategy.tryBuild R (task.args inputs)) }
  | _ => task

/-- A task that panics drops its sender. -/
def drop (task : BuildTask) : BuildTask :=
  match task.result with
  | .pending => { task with result := .closed }
  | _ => task

end BuildTask

/-! ## Jobs -/

structure StreamBuildJob where
  buildConfig : BuildConfig
  /-- The best build so far. -/
  bestBuild : Option BuildState
  /-- The task that is being waited for. -/
  pendingBuild : Option Nat
  strategy : Strategy

namespace StreamBuildJob

/-- Start a new build if there is none pending. -/
def spawnBuild (job : StreamBuildJob) (builds : List BuildTask) :
    StreamBuildJob × List BuildTask :=
  match job.pendingBuild with
  | none =>
    ({ job with pendingBuild := some builds.length },
      builds ++ [⟨job.strategy, job.buildConfig, job.bestBuild, .pending⟩])
  | some _ => (job, builds)

/-- Poll the pending build; the build state is the one `make_bid` is called with. -/
def pollPending (job : StreamBuildJob) (builds : List BuildTask) :
    StreamBuildJob × Option BuildState :=
  match (job.pendingBuild.bind (builds[·]?)).map BuildTask.result with
  | some (.sent (.ok (.better buildState))) =>
    ({ job with bestBuild := some buildState, pendingBuild := none }, some buildState)
  | some (.sent (.ok (.aborted _))) => ({ job with pendingBuild := none }, none)
  -- `unreachable!("the cancel signal never fired")`
  | some (.sent (.ok .cancelled)) => ({ job with pendingBuild := none }, none)
  -- job failed, but we simply try again
  | some (.sent (.error _)) | some .closed => ({ job with pendingBuild := none }, none)
  | some .pending | none => (job, none)

end StreamBuildJob

/-- `StreamJobGenerator`: the configuration its jobs build with. -/
structure StreamJobGenerator where
  payloadConfig : PayloadConfig

def StreamJobGenerator.newPayloadJob (generator : StreamJobGenerator) (buildConfig : BuildConfig) :
    Except PayloadBuilderError StreamBuildJob :=
  .ok
    { buildConfig := buildConfig
      bestBuild := none
      pendingBuild := none
      strategy := .bundlesStrat ⟨generator.payloadConfig⟩ }

/-! ## The slot of a build -/

/-- **A better build is for the slot of its arguments.** -/
theorem Strategy.tryBuild_slot {R : Reth} {strategy : Strategy} {args : BuildArguments}
    {bs : BuildState} (h : strategy.tryBuild R args = .ok (.better bs)) :
    bs.buildConfig.slot = args.buildConfig.slot := by
  cases hexec : strategy.executing with
  | true =>
    obtain ⟨s, ops, hstart, rfl, -, -⟩ := Strategy.tryBuild_better hexec h
    obtain ⟨hnew, -⟩ := startBuild_ok hstart
    show (Lib.run (BuildOp.step R) s ops).1.buildConfig.slot = args.buildConfig.slot
    rw [BuildOp.buildConfig_run, hnew]
    rfl
  | false =>
    cases strategy with
    | mempoolStrat strat => cases hexec
    | bundlesStrat strat => cases hexec
    | emptyStrat strat =>
      replace h : strat.tryBuild R args = .ok (.better bs) := h
      unfold EmptyStrat.tryBuild at h
      split at h
      next => cases h
      next s hstart =>
        cases h
        rw [(startBuild_ok hstart).1]
        rfl

/-- What a task sends is for its own slot. -/
def BuildTask.OwnSlot (task : BuildTask) : Prop :=
  ∀ bs, task.result = .sent (.ok (.better bs)) → bs.buildConfig.slot = task.buildConfig.slot

theorem BuildTask.run_ownSlot (R : Reth) {task : BuildTask} (inputs : BuildInputs)
    (h : task.OwnSlot) : (task.run R inputs).OwnSlot := by
  unfold run
  split
  next =>
    intro bs hbs
    exact Strategy.tryBuild_slot (TaskResult.sent.inj hbs)
  next => exact h

theorem BuildTask.drop_ownSlot {task : BuildTask} (h : task.OwnSlot) : task.drop.OwnSlot := by
  unfold drop
  split
  next =>
    intro bs hbs
    cases hbs
  next => exact h

/-! ## What a job waits for -/

/-- A task keeps its configuration. -/
def BuildTask.Onward (task task' : BuildTask) : Prop := task'.buildConfig = task.buildConfig

theorem BuildTask.onward_refl (task : BuildTask) : task.Onward task := rfl

theorem BuildTask.run_buildConfig (R : Reth) (task : BuildTask) (inputs : BuildInputs) :
    (task.run R inputs).buildConfig = task.buildConfig := by
  unfold run
  split
  next => rfl
  next => rfl

theorem BuildTask.drop_buildConfig (task : BuildTask) :
    task.drop.buildConfig = task.buildConfig := by
  unfold drop
  split
  next => rfl
  next => rfl

namespace StreamBuildJob

/-- A job waits for a task of its own. -/
def WaitsIn (builds : List BuildTask) (job : StreamBuildJob) : Prop :=
  ∀ index, job.pendingBuild = some index →
    ∃ task, builds[index]? = some task ∧ task.buildConfig = job.buildConfig

theorem WaitsIn.grows {builds builds' : List BuildTask} {job : StreamBuildJob}
    (h : job.WaitsIn builds) (hgrows : Grows BuildTask.Onward builds builds') : job.WaitsIn builds' := by
  intro index hpending
  obtain ⟨task, htask, hconfig⟩ := h index hpending
  obtain ⟨task', htask', hconfig'⟩ := hgrows index task htask
  exact ⟨task', htask', hconfig'.trans hconfig⟩

theorem spawnBuild_grows (job : StreamBuildJob) (builds : List BuildTask) :
    Grows BuildTask.Onward builds (job.spawnBuild builds).2 := by
  unfold spawnBuild
  split
  next => exact Grows.append BuildTask.onward_refl builds _
  next => exact Grows.refl BuildTask.onward_refl builds

/-- A task that was just spawned has sent nothing. -/
theorem spawnBuild_ownSlot (job : StreamBuildJob) {builds : List BuildTask}
    (h : ∀ task ∈ builds, task.OwnSlot) : ∀ task ∈ (job.spawnBuild builds).2, task.OwnSlot := by
  unfold spawnBuild
  split
  next =>
    intro task htask
    rcases List.mem_append.mp htask with hold | hnew
    · exact h task hold
    · rw [List.mem_singleton.mp hnew]
      intro bs hbs
      cases hbs
  next => exact h

theorem WaitsIn.spawnBuild {builds : List BuildTask} {job : StreamBuildJob}
    (h : job.WaitsIn builds) :
    (job.spawnBuild builds).1.WaitsIn (job.spawnBuild builds).2 := by
  unfold StreamBuildJob.spawnBuild
  split
  next =>
    intro index hpending
    cases hpending
    exact ⟨_, List.getElem?_concat_length, rfl⟩
  next => exact h

/-- **The poll of a pending build.** What is sent is the outcome of the task. -/
theorem pollPending_spec (job : StreamBuildJob) (builds : List BuildTask) :
    (job.pollPending builds).1.buildConfig = job.buildConfig ∧
    (job.WaitsIn builds → (job.pollPending builds).1.WaitsIn builds) ∧
    ∀ bs, (job.pollPending builds).2 = some bs → ∃ index task, job.pendingBuild = some index ∧
      builds[index]? = some task ∧ task.result = .sent (.ok (.better bs)) := by
  have hdone : ∀ best, WaitsIn builds ⟨job.buildConfig, best, none, job.strategy⟩ := by
    intro best index hpending
    cases hpending
  unfold pollPending
  split
  next buildState hresult =>
    refine ⟨rfl, fun _ => hdone _, fun bs hbs => ?_⟩
    cases hbs
    obtain ⟨task, hpending, hbetter⟩ := Option.map_eq_some_iff.mp hresult
    obtain ⟨index, hindex, htask⟩ := Option.bind_eq_some_iff.mp hpending
    exact ⟨index, task, hindex, htask, hbetter⟩
  next => exact ⟨rfl, fun _ => hdone _, fun bs hbs => by cases hbs⟩
  next => exact ⟨rfl, fun _ => hdone _, fun bs hbs => by cases hbs⟩
  next => exact ⟨rfl, fun _ => hdone _, fun bs hbs => by cases hbs⟩
  next => exact ⟨rfl, fun _ => hdone _, fun bs hbs => by cases hbs⟩
  next => exact ⟨rfl, id, fun bs hbs => by cases hbs⟩
  next => exact ⟨rfl, id, fun bs hbs => by cases hbs⟩

end StreamBuildJob

end BlockBuilder
