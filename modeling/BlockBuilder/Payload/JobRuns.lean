import BlockBuilder.Lib.Run
import BlockBuilder.Payload.Job
import BlockBuilder.Payload.TransferSlot

/-!
# Only better builds (`crates/payload/src/job/stream_job.rs`)

A job on its own: it is polled over and over, its tasks run or panic between the
polls and within them, and the build states it calls `make_bid` with are kept in
`sent`.

The best build a task has to beat is captured when the task is spawned, and the
comparison is made when it ends. In between the job waits for this task and no
other, so that its best build is still the one the task was given (`Improves`).
-/

namespace BlockBuilder

open Lib (run run_invariant)

namespace BuildTask

/-- The task has neither sent a result nor gone. -/
def outstanding (task : BuildTask) : Bool :=
  match task.result with
  | .pending => true
  | _ => false

/-- The better build state the task has sent. -/
def better (task : BuildTask) : Option BuildState :=
  match task.result with
  | .sent (.ok (.better buildState)) => some buildState
  | _ => none

theorem run_of_not_outstanding (R : Reth) {task : BuildTask} (inputs : BuildInputs)
    (h : task.outstanding = false) : task.run R inputs = task := by
  unfold outstanding at h
  unfold run
  split
  next hresult =>
    rw [hresult] at h
    cases h
  next => rfl

theorem drop_of_not_outstanding {task : BuildTask} (h : task.outstanding = false) :
    task.drop = task := by
  unfold outstanding at h
  unfold drop
  split
  next hresult =>
    rw [hresult] at h
    cases h
  next => rfl

/-- The task builds with transactions, and what it sends beats the build it was given. -/
structure Beats (best : Option BuildState) (task : BuildTask) : Prop where
  executing : task.strategy.executing = true
  bestBuild : task.bestBuild = best
  better : ∀ buildState, task.better = some buildState →
    ∀ old, best = some old → old.blockValue < buildState.blockValue

/-- **What a task sends beats its baseline.** -/
theorem Beats.run (R : Reth) {best : Option BuildState} {task : BuildTask} (inputs : BuildInputs)
    (h : Beats best task) : Beats best (task.run R inputs) := by
  unfold BuildTask.run
  split
  next =>
    refine ⟨h.executing, h.bestBuild, fun buildState hbetter old hold => ?_⟩
    unfold BuildTask.better at hbetter
    split at hbetter
    next buildState' hresult =>
      cases hbetter
      obtain ⟨-, -, -, -, hvalue, -⟩ :=
        Strategy.tryBuild_better h.executing (TaskResult.sent.inj hresult)
      have hbaseline : (task.args inputs).bestBlockValue = old.blockValue := by
        unfold BuildArguments.bestBlockValue BuildTask.args
        rw [h.bestBuild, hold]
        rfl
      rw [hbaseline] at hvalue
      exact hvalue
    next => cases hbetter
  next => exact h

theorem Beats.drop {best : Option BuildState} {task : BuildTask} (h : Beats best task) :
    Beats best task.drop := by
  unfold BuildTask.drop
  split
  next =>
    refine ⟨h.executing, h.bestBuild, fun buildState hbetter => ?_⟩
    cases hbetter
  next => exact h

end BuildTask

namespace StreamBuildJob

theorem pollPending_of_none {job : StreamBuildJob} (builds : List BuildTask)
    (h : job.pendingBuild = none) : job.pollPending builds = (job, none) := by
  unfold pollPending
  rw [h]
  rfl

/-- The poll of a pending build takes its outcome, if there is one. -/
theorem pollPending_of_some {job : StreamBuildJob} {builds : List BuildTask} {task : BuildTask}
    (h : job.pendingBuild.bind (builds[·]?) = some task) :
    job.pollPending builds =
      if task.outstanding then (job, none)
      else (⟨job.buildConfig, task.better.or job.bestBuild, none, job.strategy⟩, task.better) := by
  obtain ⟨strategy, buildConfig, bestBuild, result⟩ := task
  unfold pollPending
  rw [h]
  cases result with
  | pending => rfl
  | closed => rfl
  | sent result =>
    cases result with
    | error err => rfl
    | ok outcome =>
      cases outcome with
      | better buildState => rfl
      | aborted blockValue => rfl
      | cancelled => rfl

end StreamBuildJob

/-- Where a job is in `poll`. -/
inductive JobPhase where
  | idle
  /-- It has made sure that a build is pending, and is about to poll it. -/
  | polling
  /-- Its deadline is reached. -/
  | done

structure JobSystem where
  job : StreamBuildJob
  builds : List BuildTask
  sent : List BuildState
  phase : JobPhase

inductive JobEvent where
  /-- The job is polled, up to the task it spawns. -/
  | poll (deadlineReached : Bool)
  /-- The job goes on to poll its pending build. -/
  | pollPending
  /-- A task runs. -/
  | build (task : Nat) (inputs : BuildInputs)
  /-- A task panics. -/
  | buildPanics (task : Nat)

namespace JobSystem

def new (buildConfig : BuildConfig) (strategy : Strategy) : JobSystem where
  job := ⟨buildConfig, none, none, strategy⟩
  builds := []
  sent := []
  phase := .idle

def poll (sys : JobSystem) (deadlineReached : Bool) : JobSystem :=
  match sys.phase with
  | .idle =>
    if deadlineReached then { sys with phase := .done }
    else
      let (job, builds) := sys.job.spawnBuild sys.builds
      { sys with job := job, builds := builds, phase := .polling }
  | _ => sys

def pollPending (sys : JobSystem) : JobSystem :=
  match sys.phase with
  | .polling =>
    let (job, buildState) := sys.job.pollPending sys.builds
    { sys with job := job, sent := sys.sent ++ buildState.toList, phase := .idle }
  | _ => sys

/-- One event. -/
def step (R : Reth) (sys : JobSystem) : JobEvent → JobSystem
  | .poll deadlineReached => sys.poll deadlineReached
  | .pollPending => sys.pollPending
  | .build task inputs => { sys with builds := sys.builds.modify task (·.run R inputs) }
  | .buildPanics task => { sys with builds := sys.builds.modify task BuildTask.drop }

/-! ## One build at a time -/

/-- `taken` are the tasks whose outcome the job has taken, `waiting` is the one it
waits for, and there are no others. -/
structure Improves (taken : List BuildTask) (waiting : Option BuildTask) (sys : JobSystem) :
    Prop where
  builds : sys.builds = taken ++ waiting.toList
  pendingBuild : sys.job.pendingBuild = waiting.map fun _ => taken.length
  settled : ∀ task ∈ taken, task.outstanding = false
  sent : sys.sent = taken.filterMap BuildTask.better
  bestBuild : sys.job.bestBuild = sys.sent.getLast?
  increasing : sys.sent.Pairwise fun bs bs' => bs.blockValue < bs'.blockValue
  executing : sys.job.strategy.executing = true
  waiting : ∀ task, waiting = some task → task.Beats sys.job.bestBuild

/-- A change of one entry, where all entries but the last stay as they are. -/
theorem modify_append_toList {change : BuildTask → BuildTask} :
    ∀ {taken : List BuildTask} {waiting : Option BuildTask} (index : Nat),
      (∀ task ∈ taken, change task = task) →
      (taken ++ waiting.toList).modify index change = taken ++
        (waiting.map fun task => if index = taken.length then change task else task).toList
  | [], none, _, _ => by simp
  | [], some _, 0, _ => rfl
  | [], some _, _ + 1, _ => by simp
  | task :: taken, waiting, 0, h => by
    have htask := h task List.mem_cons_self
    cases waiting with
    | none => simp [htask]
    | some last => simp [htask]
  | task :: taken, waiting, index + 1, h => by
    have htaken : (taken ++ waiting.toList).modify index change = _ :=
      modify_append_toList index fun other hother => h other (List.mem_cons_of_mem task hother)
    simpa using htaken

/-- The last of a list that increases is the largest. -/
theorem le_getLast {l : List BuildState} {best : BuildState}
    (hincreasing : l.Pairwise fun bs bs' => bs.blockValue < bs'.blockValue)
    (hlast : l.getLast? = some best) : ∀ bs ∈ l, bs.blockValue ≤ best.blockValue := by
  intro bs hmem
  obtain ⟨init, rfl⟩ := List.getLast?_eq_some_iff.mp hlast
  rcases List.mem_append.mp hmem with hinit | hbest
  · exact BitVec.le_of_lt ((List.pairwise_append.mp hincreasing).2.2 bs hinit best List.mem_cons_self)
  · rw [List.mem_singleton.mp hbest]
    exact BitVec.le_refl _

namespace Improves

variable {taken : List BuildTask} {waiting : Option BuildTask} {sys : JobSystem}

theorem poll (h : Improves taken waiting sys) (deadlineReached : Bool) :
    ∃ waiting', Improves taken waiting' (sys.poll deadlineReached) := by
  unfold JobSystem.poll
  split
  next =>
    split
    next =>
      exact ⟨waiting, h.builds, h.pendingBuild, h.settled, h.sent, h.bestBuild, h.increasing,
        h.executing, h.waiting⟩
    next =>
      unfold StreamBuildJob.spawnBuild
      cases waiting with
      | none =>
        -- the job waits for nothing, and spawns a task with its best build
        have hbuilds : sys.builds = taken := by simpa using h.builds
        rw [h.pendingBuild]
        refine ⟨some ⟨sys.job.strategy, sys.job.buildConfig, sys.job.bestBuild, .pending⟩, ?_, ?_,
          h.settled, h.sent, h.bestBuild, h.increasing, h.executing, ?_⟩
        · simp [hbuilds]
        · simp [hbuilds]
        · intro task htask
          cases htask
          refine ⟨h.executing, rfl, fun buildState hbetter => ?_⟩
          cases hbetter
      | some task =>
        rw [h.pendingBuild]
        exact ⟨some task, h.builds, h.pendingBuild, h.settled, h.sent, h.bestBuild, h.increasing,
          h.executing, h.waiting⟩
  next => exact ⟨waiting, h⟩

/-- **The outcome of a build is taken.** A better build state exceeds all that were
sent before. -/
theorem take {task : BuildTask} (h : Improves taken (some task) sys)
    (hsettled : task.outstanding = false) :
    Improves (taken ++ [task]) none
      ⟨⟨sys.job.buildConfig, task.better.or sys.job.bestBuild, none, sys.job.strategy⟩, sys.builds,
        sys.sent ++ task.better.toList, .idle⟩ := by
  refine ⟨?_, rfl, fun other hother => ?_, ?_, ?_, ?_, h.executing, fun other hother => ?_⟩
  · simp [h.builds]
  · rcases List.mem_append.mp hother with hold | hnew
    · exact h.settled other hold
    · rw [List.mem_singleton.mp hnew]
      exact hsettled
  · cases hbetter : task.better with
    | none => simp [h.sent, hbetter]
    | some bs => simp [h.sent, hbetter]
  · rw [h.bestBuild, List.getLast?_append]
    cases task.better with
    | none => rfl
    | some bs => rfl
  · refine List.pairwise_append.mpr ⟨h.increasing, ?_, fun sent hsent bs hbs => ?_⟩
    · cases task.better with
      | none => exact .nil
      | some bs => exact List.pairwise_singleton _ bs
    · have hbetter := Option.mem_toList.mp hbs
      cases hbest : sys.sent.getLast? with
      | none =>
        rw [List.getLast?_eq_none_iff.mp hbest] at hsent
        cases hsent
      | some best =>
        have hbeats := (h.waiting task rfl).better bs hbetter best (h.bestBuild.trans hbest)
        exact Nat.lt_of_le_of_lt (le_getLast h.increasing hbest sent hsent) hbeats
  · cases hother

theorem pollPending (h : Improves taken waiting sys) :
    ∃ taken' waiting', Improves taken' waiting' sys.pollPending := by
  unfold JobSystem.pollPending
  split
  next =>
    cases waiting with
    | none =>
      rw [StreamBuildJob.pollPending_of_none sys.builds h.pendingBuild]
      refine ⟨taken, none, h.builds, h.pendingBuild, h.settled, ?_, ?_, ?_, h.executing, h.waiting⟩
      · simpa using h.sent
      · simpa using h.bestBuild
      · simpa using h.increasing
    | some task =>
      have hpending : sys.job.pendingBuild.bind (sys.builds[·]?) = some task := by
        rw [h.pendingBuild, h.builds]
        simp
      rw [StreamBuildJob.pollPending_of_some hpending]
      cases houtstanding : task.outstanding with
      | true =>
        refine ⟨taken, some task, h.builds, h.pendingBuild, h.settled, ?_, ?_, ?_, h.executing,
          h.waiting⟩
        · simpa using h.sent
        · simpa using h.bestBuild
        · simpa using h.increasing
      | false => exact ⟨taken ++ [task], none, h.take houtstanding⟩
  next => exact ⟨taken, waiting, h⟩

/-- A task that was taken does not change any more, and the one that is waited for
may, as long as it still beats its baseline. -/
theorem modify (h : Improves taken waiting sys) (index : Nat) {change : BuildTask → BuildTask}
    (hsettled : ∀ task, task.outstanding = false → change task = task)
    (hbeats : ∀ best task, BuildTask.Beats best task → BuildTask.Beats best (change task)) :
    ∃ waiting', Improves taken waiting' { sys with builds := sys.builds.modify index change } := by
  refine ⟨waiting.map fun task => if index = taken.length then change task else task, ?_, ?_,
    h.settled, h.sent, h.bestBuild, h.increasing, h.executing, fun task htask => ?_⟩
  · simp only
    rw [h.builds, modify_append_toList index fun task htask => hsettled task (h.settled task htask)]
  · simp [h.pendingBuild, Function.comp_def]
  · obtain ⟨task, hwaiting, rfl⟩ := Option.map_eq_some_iff.mp htask
    split
    next => exact hbeats _ _ (h.waiting task hwaiting)
    next => exact h.waiting task hwaiting

/-- **Every event keeps it.** -/
theorem step (R : Reth) (h : Improves taken waiting sys) (event : JobEvent) :
    ∃ taken' waiting', Improves taken' waiting' (sys.step R event) := by
  cases event with
  | poll deadlineReached => exact ⟨taken, h.poll deadlineReached⟩
  | pollPending => exact h.pollPending
  | build task inputs =>
    exact ⟨taken, h.modify task (fun _ hsettled => BuildTask.run_of_not_outstanding R inputs hsettled)
      fun _ _ hbeats => hbeats.run R inputs⟩
  | buildPanics task =>
    exact ⟨taken, h.modify task (fun _ hsettled => BuildTask.drop_of_not_outstanding hsettled)
      fun _ _ hbeats => hbeats.drop⟩

theorem countP_outstanding (h : Improves taken waiting sys) :
    sys.builds.countP BuildTask.outstanding ≤ 1 := by
  have htaken : taken.countP BuildTask.outstanding = 0 := by
    refine List.countP_eq_zero.mpr fun task htask houtstanding => ?_
    rw [h.settled task htask] at houtstanding
    cases houtstanding
  rw [h.builds, List.countP_append, htaken, Nat.zero_add]
  refine Nat.le_trans List.countP_le_length ?_
  cases waiting with
  | none => exact Nat.zero_le 1
  | some task => exact Nat.le_refl 1

end Improves

/-- **Only better builds are emitted.** However the polls of a job and the ends of
its tasks follow each other, at most one task is outstanding, the values of the
build states it sends increase, its best build is the last one it sent, and it has
sent every better build of the tasks it no longer waits for. -/
theorem builds_improve (R : Reth) (buildConfig : BuildConfig) {strategy : Strategy}
    (hexec : strategy.executing = true) (events : List JobEvent) :
    let sys := run (step R) (new buildConfig strategy) events
    sys.builds.countP BuildTask.outstanding ≤ 1 ∧
    (sys.sent.Pairwise fun bs bs' => bs.blockValue < bs'.blockValue) ∧
    sys.job.bestBuild = sys.sent.getLast? ∧
    sys.sent = (sys.builds.take (sys.job.pendingBuild.getD sys.builds.length)).filterMap
      BuildTask.better := by
  intro sys
  have hnew : Improves [] none (new buildConfig strategy) := by
    refine ⟨rfl, rfl, fun task htask => ?_, rfl, rfl, .nil, hexec, fun task htask => ?_⟩
    · cases htask
    · cases htask
  obtain ⟨taken, waiting, h⟩ := run_invariant
    (I := fun sys => ∃ taken waiting, Improves taken waiting sys)
    (fun _ event ⟨_, _, h⟩ => h.step R event) events ⟨[], none, hnew⟩
  refine ⟨h.countP_outstanding, h.increasing, h.bestBuild, h.sent.trans ?_⟩
  rw [h.pendingBuild, h.builds]
  cases waiting with
  | none => simp
  | some task => simp

/-- A job that is given one transaction first and then two sends twice, and a third
build that is no better is not sent. -/
theorem builds_improve_transfer :
    let first := TransferChain.transfer 1 0 2 5 10 21000
    let second := TransferChain.transfer 1 1 2 5 10 21000
    let inputs := fun txs => BuildInputs.mk transferClient (transferPool txs) .new true 0
    let round := fun task txs => [JobEvent.poll false, .build task (inputs txs), .pollPending]
    let events := round 0 [first] ++ round 1 [first, second] ++ round 2 [first, second]
    let sys := run (step transferChain) (new (transferArguments (transferProposer 5 30000000) 4 [] []).buildConfig
      (.bundlesStrat ⟨transferConfig⟩)) events
    sys.builds.length = 3 ∧ sys.sent.length = 2 ∧
    sys.builds.countP BuildTask.outstanding ≤ 1 ∧
    (sys.sent.Pairwise fun bs bs' => bs.blockValue < bs'.blockValue) ∧
    sys.job.bestBuild = sys.sent.getLast? ∧
    sys.sent = (sys.builds.take (sys.job.pendingBuild.getD sys.builds.length)).filterMap
      BuildTask.better :=
  ⟨by decide +kernel, by decide +kernel, builds_improve transferChain _ rfl _⟩

end JobSystem

end BlockBuilder
