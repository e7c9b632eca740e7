import BlockBuilder.Lib.Simulation
import BlockBuilder.Payload.IntervalJob
import BlockBuilder.Payload.JobRuns

/-!
# Interval jobs over a run (`crates/payload/src/job/{interval_job,build_utils}.rs`)

An interval job on its own, with its tasks and the future it hands out when it is
resolved. It is polled at any times until it is resolved or its deadline is
reached, tasks run or panic in between, and the future is polled over and over.

In what it spawns and what it takes, an interval job is a stream job that is
polled on its ticks only (`simulates_stream`). So the builds it takes get better
(`interval_builds_improve`). What it adds is the pace of its builds
(`builds_paced`) and its answers (`resolved_for_job`).

Mirroring notes:
- `taken`, `log` and `clock` are history, and so are the `answers`, what the polls
  of the future came to.
- The service drops a job that is resolved (`KeepPayloadJobAlive::No`).
-/

namespace BlockBuilder

open Lib (Along Interval Oneshot Simulates run run_invariant run_induct)

/-- What an observer writes down of the builds of a job. -/
inductive BuildNote where
  | spawned (time : Nat)
  /-- An outcome was taken, better or not. -/
  | succeeded (time : Nat)
  deriving DecidableEq, Repr

structure IntervalSystem where
  job : IntervalBuildJob
  builds : List BuildTask
  phase : JobPhase
  /-- The future of the job, once it is resolved. -/
  future : Option ResolveBestPayload
  taken : List BuildState
  log : List BuildNote
  answers : List ResolvePoll
  /-- The latest time of a poll. -/
  clock : Nat

inductive IntervalEvent where
  /-- The job is polled, up to the end of the loop over the ticks. -/
  | poll (now : Nat)
  /-- The job goes on to poll its pending build. -/
  | pollPending (now : Nat)
  /-- A task runs. -/
  | build (task : Nat) (inputs : BuildInputs)
  /-- A task panics. -/
  | buildPanics (task : Nat)
  /-- The job is resolved. -/
  | resolve (client : Client) (pool : Pool)
  /-- The empty payload is built. -/
  | buildEmpty (strat : EmptyStrat) (inputs : BuildInputs)
  /-- The task of the empty payload panics. -/
  | emptyPanics
  /-- The future is polled. -/
  | pollFuture

/-- The time of a step of the job. -/
def IntervalEvent.time : IntervalEvent → Option Nat
  | poll now | pollPending now => some now
  | _ => none

/-- A new stream job has no tasks. -/
theorem JobSystem.Improves.of_new (buildConfig : BuildConfig) {strategy : Strategy}
    (hexec : strategy.executing = true) :
    JobSystem.Improves [] none (JobSystem.new buildConfig strategy) := by
  refine ⟨rfl, rfl, fun task htask => ?_, rfl, rfl, .nil, hexec, fun task htask => ?_⟩
  · cases htask
  · cases htask

namespace IntervalSystem

def new (buildConfig : BuildConfig) (strategy : Strategy) (start deadline period : Nat)
    (h : 0 < period) : IntervalSystem where
  job :=
    { buildConfig := buildConfig
      deadline := deadline
      interval := .new start period h
      bestBuild := none
      pendingBuild := none
      strategy := strategy }
  builds := []
  phase := .idle
  future := none
  taken := []
  log := []
  answers := []
  clock := start

/-- What one tick does. -/
def onTick (now : Nat) (sys : IntervalSystem) : IntervalSystem :=
  let (job, builds) := sys.job.spawnBuild sys.builds
  { sys with
    job := job
    builds := builds
    log := if sys.job.pendingBuild.isNone then sys.log ++ [.spawned now] else sys.log }

def poll (sys : IntervalSystem) (now : Nat) : IntervalSystem :=
  match sys.phase with
  | .idle =>
    if sys.job.deadline ≤ now then { sys with phase := .done, clock := now }
    else
      let (interval, sys) := sys.job.interval.drain now (onTick now) sys
      { sys with
        job := { sys.job with interval := interval }
        phase := .polling
        clock := now }
  | _ => sys

/-- Whether the poll of the pending build finds an outcome. -/
def hasOutcome (sys : IntervalSystem) : Bool :=
  match (sys.job.pendingBuild.bind (sys.builds[·]?)).map BuildTask.result with
  | some (.sent (.ok _)) => true
  | _ => false

def pollPending (sys : IntervalSystem) (now : Nat) : IntervalSystem :=
  match sys.phase with
  | .polling =>
    let (job, buildState) := sys.job.pollPending sys.builds now
    { sys with
      job := job
      taken := sys.taken ++ buildState.toList
      log := if sys.hasOutcome then sys.log ++ [.succeeded now] else sys.log
      phase := .idle
      clock := now }
  | _ => sys

def resolve (R : Reth) (sys : IntervalSystem) (client : Client) (pool : Pool) : IntervalSystem :=
  match sys.phase, sys.future with
  | .polling, _ => sys
  | _, some _ => sys
  | _, none =>
    let (job, future) := sys.job.resolve R client pool
    { sys with job := job, future := some future, phase := .done }

/-- The empty payload changes what its receiver finds. -/
def onEmptyPayload (sys : IntervalSystem)
    (change : Oneshot (Except PayloadBuilderError Build) →
      Oneshot (Except PayloadBuilderError Build)) : IntervalSystem :=
  { sys with
    future := sys.future.map fun fut => { fut with emptyPayload := fut.emptyPayload.map change } }

def pollFuture (sys : IntervalSystem) : IntervalSystem :=
  match sys.future with
  | some future =>
    let (future, answer) := future.poll
    { sys with future := some future, answers := sys.answers ++ [answer] }
  | none => sys

/-- One event. -/
def step (R : Reth) (sys : IntervalSystem) : IntervalEvent → IntervalSystem
  | .poll now => sys.poll now
  | .pollPending now => sys.pollPending now
  | .build task inputs => { sys with builds := sys.builds.modify task (·.run R inputs) }
  | .buildPanics task => { sys with builds := sys.builds.modify task BuildTask.drop }
  | .resolve client pool => sys.resolve R client pool
  | .buildEmpty strat inputs =>
    sys.onEmptyPayload (·.send (buildEmptyPayload R strat (sys.job.emptyArgs inputs)))
  | .emptyPanics => sys.onEmptyPayload Oneshot.drop
  | .pollFuture => sys.pollFuture

/-! ## An interval job is a stream job -/

/-- The job without its times. -/
def stream (job : IntervalBuildJob) : StreamBuildJob where
  buildConfig := job.buildConfig
  bestBuild := job.bestBuild
  pendingBuild := job.pendingBuild
  strategy := job.strategy

/-- A stream job in the same state. It may be idle while the interval job goes on to
look for a pending build, as long as there is none. -/
structure Matches (sys : IntervalSystem) (sys' : JobSystem) : Prop where
  builds : sys'.builds = sys.builds
  sent : sys'.sent = sys.taken
  live : sys.future = none → sys'.job = stream sys.job
  resolved : sys.future ≠ none → sys.phase = .done
  idle : sys.phase = .idle → sys'.phase = .idle
  polling : sys.phase = .polling →
    sys'.phase = .polling ∨ sys'.phase = .idle ∧ sys.job.pendingBuild = none

theorem onTick_eq (now : Nat) (sys : IntervalSystem) :
    sys.onTick now =
      { sys with
        job := (sys.job.spawnBuild sys.builds).1
        builds := (sys.job.spawnBuild sys.builds).2
        log := if sys.job.pendingBuild.isNone then sys.log ++ [.spawned now] else sys.log } := rfl

/-- A tick does nothing while a build is pending. -/
theorem onTick_of_pending {now : Nat} {sys : IntervalSystem} {index : Nat}
    (h : sys.job.pendingBuild = some index) : sys.onTick now = sys := by
  unfold onTick IntervalBuildJob.spawnBuild
  rw [h]
  rfl

theorem onTick_pending (now : Nat) (sys : IntervalSystem) :
    ∃ index, (sys.onTick now).job.pendingBuild = some index := by
  cases hpending : sys.job.pendingBuild with
  | none =>
    refine ⟨sys.builds.length, ?_⟩
    unfold onTick IntervalBuildJob.spawnBuild
    rw [hpending]
  | some index => exact ⟨index, (onTick_of_pending hpending).symm ▸ hpending⟩

/-- **However many ticks are due, one build is spawned.** -/
theorem drain_onTick (now : Nat) (sys : IntervalSystem) :
    (sys.job.interval.drain now (onTick now) sys).2 =
      if sys.job.interval.deadline ≤ now then sys.onTick now else sys := by
  by_cases hdue : sys.job.interval.deadline ≤ now
  · obtain ⟨n, hn⟩ := Interval.drain_of_le hdue (onTick now) sys
    rw [if_pos hdue, hn]
    clear hn
    induction n with
    | zero => rfl
    | succ n ih =>
      obtain ⟨index, hpending⟩ := sys.onTick_pending now
      rw [Function.iterate_succ_apply', ih, onTick_of_pending hpending]
  · rw [if_neg hdue, Interval.drain_of_lt (Nat.lt_of_not_le hdue)]

theorem stream_spawnBuild (job : IntervalBuildJob) (builds : List BuildTask) :
    (stream job).spawnBuild builds = (stream (job.spawnBuild builds).1, (job.spawnBuild builds).2) := by
  obtain ⟨buildConfig, deadline, interval, bestBuild, pendingBuild, strategy⟩ := job
  cases pendingBuild with
  | none => rfl
  | some index => rfl

theorem stream_pollPending (job : IntervalBuildJob) (builds : List BuildTask) (now : Nat) :
    (stream job).pollPending builds =
      (stream (job.pollPending builds now).1, (job.pollPending builds now).2) := by
  unfold StreamBuildJob.pollPending IntervalBuildJob.pollPending
  simp only [stream]
  generalize (job.pendingBuild.bind (builds[·]?)).map BuildTask.result = result
  cases result with
  | none => rfl
  | some result =>
    cases result with
    | pending => rfl
    | closed => rfl
    | sent result =>
      cases result with
      | error err => rfl
      | ok outcome =>
        cases outcome with
        | better buildState => rfl
        | aborted blockValue => rfl
        | cancelled => rfl

/-- The poll of a stream job that is idle. -/
theorem poll_stream {sys : IntervalSystem} {sys' : JobSystem} (hjob : sys'.job = stream sys.job)
    (hbuilds : sys'.builds = sys.builds) (hidle : sys'.phase = .idle) :
    sys'.poll false = ⟨stream (sys.job.spawnBuild sys.builds).1, (sys.job.spawnBuild sys.builds).2,
      sys'.sent, .polling⟩ := by
  unfold JobSystem.poll
  rw [hidle, hjob, hbuilds, stream_spawnBuild]
  rfl

namespace Matches

variable {sys : IntervalSystem} {sys' : JobSystem}

theorem no_future (h : Matches sys sys') (hphase : sys.phase ≠ .done) : sys.future = none := by
  cases hfuture : sys.future with
  | none => rfl
  | some future =>
    have hdone := h.resolved (by rw [hfuture]; exact Option.some_ne_none future)
    exact absurd hdone hphase

theorem poll (R : Reth) (h : Matches sys sys') (now : Nat) :
    ∃ events, Matches (sys.poll now) (run (JobSystem.step R) sys' events) := by
  unfold IntervalSystem.poll
  split
  next hphase =>
    have hfuture := h.no_future (by rw [hphase]; exact JobPhase.noConfusion)
    have hidle := h.idle hphase
    split
    next =>
      refine ⟨[], h.builds, h.sent, h.live, fun _ => rfl, ?_, ?_⟩
      · intro hdone
        cases hdone
      · intro hdone
        cases hdone
    next =>
      have hdrained := drain_onTick now sys
      generalize sys.job.interval.drain now (onTick now) sys = drained at hdrained
      obtain ⟨interval, ticked⟩ := drained
      simp only at hdrained ⊢
      rw [hdrained]
      by_cases hdue : sys.job.interval.deadline ≤ now
      · -- a tick was due, and the stream job is polled
        rw [if_pos hdue, onTick_eq]
        refine ⟨[.poll false], ?_⟩
        show Matches _ (sys'.poll false)
        rw [poll_stream (h.live hfuture) h.builds hidle]
        refine ⟨rfl, h.sent, fun _ => rfl, fun hsome => absurd hfuture hsome, ?_, fun _ => .inl rfl⟩
        intro hpolling
        cases hpolling
      · rw [if_neg hdue]
        by_cases hpending : sys.job.pendingBuild = none
        · -- there is nothing to look for either
          refine ⟨[], h.builds, h.sent, h.live, fun hsome => absurd hfuture hsome, ?_,
            fun _ => .inr ⟨hidle, hpending⟩⟩
          intro hpolling
          cases hpolling
        · obtain ⟨index, hindex⟩ := Option.ne_none_iff_exists'.mp hpending
          have hspawn : sys.job.spawnBuild sys.builds = (sys.job, sys.builds) := by
            unfold IntervalBuildJob.spawnBuild
            rw [hindex]
          refine ⟨[.poll false], ?_⟩
          show Matches _ (sys'.poll false)
          rw [poll_stream (h.live hfuture) h.builds hidle, hspawn]
          refine ⟨rfl, h.sent, fun _ => rfl, fun hsome => absurd hfuture hsome, ?_, fun _ => .inl rfl⟩
          intro hpolling
          cases hpolling
  next => exact ⟨[], h⟩

theorem pollPending (R : Reth) (h : Matches sys sys') (now : Nat) :
    ∃ events, Matches (sys.pollPending now) (run (JobSystem.step R) sys' events) := by
  unfold IntervalSystem.pollPending
  split
  next hphase =>
    have hfuture := h.no_future (by rw [hphase]; exact JobPhase.noConfusion)
    have hjob := h.live hfuture
    have hpoll := stream_pollPending sys.job sys.builds now
    simp only
    rcases h.polling hphase with hpolling | ⟨hidle, hnone⟩
    · refine ⟨[.pollPending], ?_⟩
      show Matches _ sys'.pollPending
      unfold JobSystem.pollPending
      rw [hpolling, hjob, h.builds, hpoll, h.sent]
      refine ⟨rfl, rfl, fun _ => rfl, fun hsome => absurd hfuture hsome, fun _ => rfl, ?_⟩
      intro hpolling
      cases hpolling
    · -- there is nothing to look for
      have hsame : sys.job.pollPending sys.builds now = (sys.job, none) := by
        unfold IntervalBuildJob.pollPending
        rw [hnone]
        rfl
      rw [hsame]
      refine ⟨[], h.builds, ?_, h.live, fun hsome => absurd hfuture hsome, fun _ => hidle, ?_⟩
      · simpa using h.sent
      · intro hpolling
        cases hpolling
  next => exact ⟨[], h⟩

/-- The tasks are the same, and change in the same way. -/
theorem modify (h : Matches sys sys') (task : Nat) (change : BuildTask → BuildTask) :
    Matches { sys with builds := sys.builds.modify task change }
      { sys' with builds := sys'.builds.modify task change } := by
  refine ⟨?_, h.sent, h.live, h.resolved, h.idle, h.polling⟩
  simp only
  rw [h.builds]

/-- The job is resolved and done, or it was resolved before. -/
theorem resolve (R : Reth) (h : Matches sys sys') (client : Client) (pool : Pool) :
    Matches (sys.resolve R client pool) sys' := by
  unfold IntervalSystem.resolve
  split
  next => exact h
  next => exact h
  next =>
    refine ⟨h.builds, h.sent, fun hnone => ?_, fun _ => rfl, ?_, ?_⟩
    · cases hnone
    · intro hdone
      cases hdone
    · intro hdone
      cases hdone

/-- What happens to the future is no matter of the builds. -/
theorem of_future (h : Matches sys sys') {future : Option ResolveBestPayload}
    (hfuture : future = none ↔ sys.future = none) (answers : List ResolvePoll) :
    Matches { sys with future := future, answers := answers } sys' :=
  ⟨h.builds, h.sent, fun hnone => h.live (hfuture.mp hnone), fun hsome => h.resolved (hsome ∘ hfuture.mpr),
    h.idle, h.polling⟩

end Matches

/-- **An interval job is a stream job that is polled on its ticks.** -/
theorem simulates_stream (R : Reth) : Simulates (step R) (JobSystem.step R) Matches := by
  intro sys sys' event h
  cases event with
  | poll now => exact h.poll R now
  | pollPending now => exact h.pollPending R now
  | build task inputs => exact ⟨[.build task inputs], h.modify task (·.run R inputs)⟩
  | buildPanics task => exact ⟨[.buildPanics task], h.modify task BuildTask.drop⟩
  | resolve client pool => exact ⟨[], h.resolve R client pool⟩
  | buildEmpty strat inputs => exact ⟨[], h.of_future Option.map_eq_none_iff sys.answers⟩
  | emptyPanics => exact ⟨[], h.of_future Option.map_eq_none_iff sys.answers⟩
  | pollFuture =>
    refine ⟨[], ?_⟩
    show Matches sys.pollFuture sys'
    unfold pollFuture
    split
    next future hfuture =>
      refine h.of_future ?_ _
      rw [hfuture]
      exact ⟨fun hnone => (by cases hnone), fun hnone => (by cases hnone)⟩
    next => exact h

/-- Two rounds of an interval job on the transfer slot, each with one transaction
more, and a poll before the tick of the second. -/
def tickedRounds : List IntervalEvent :=
  let first := TransferChain.transfer 1 0 2 5 10 21000
  let second := TransferChain.transfer 1 1 2 5 10 21000
  let inputs := fun txs => BuildInputs.mk transferClient (transferPool txs) .new true 0
  [.poll 0, .build 0 (inputs [first]), .pollPending 5, .poll 900, .pollPending 900, .poll 1005,
    .build 1 (inputs [first, second]), .pollPending 1010]

/-- Time does not go back. -/
def Onwards (sys : IntervalSystem) (event : IntervalEvent) : Prop :=
  ∀ now, event.time = some now → sys.clock ≤ now

instance (sys : IntervalSystem) (event : IntervalEvent) : Decidable (sys.Onwards event) :=
  match h : event.time with
  | some now => decidable_of_iff (sys.clock ≤ now) (by simp [Onwards, h])
  | none => .isTrue fun _ htime => by
    rw [h] at htime
    cases htime

/-- An outcome comes a period before the next build. -/
def Apart (period : Nat) (before after : BuildNote) : Prop :=
  ∀ t u, before = .succeeded t → after = .spawned u → t + period ≤ u

/-- The next tick is due within a period, and a period after each outcome. -/
structure Paced (period : Nat) (sys : IntervalSystem) : Prop where
  interval : sys.job.interval.period = period
  soon : sys.job.interval.deadline ≤ sys.clock + period
  after : ∀ t, .succeeded t ∈ sys.log → t ≤ sys.clock ∧ t + period ≤ sys.job.interval.deadline
  log : sys.log.Pairwise (Apart period)

theorem pollPending_interval (sys : IntervalSystem) (now : Nat) :
    (sys.job.pollPending sys.builds now).1.interval =
      if sys.hasOutcome then sys.job.interval.reset now else sys.job.interval := by
  unfold IntervalBuildJob.pollPending hasOutcome
  generalize (sys.job.pendingBuild.bind (sys.builds[·]?)).map BuildTask.result = result
  cases result with
  | none => rfl
  | some result =>
    cases result with
    | pending => rfl
    | closed => rfl
    | sent result =>
      cases result with
      | error err => rfl
      | ok outcome =>
        cases outcome with
        | better buildState => rfl
        | aborted blockValue => rfl
        | cancelled => rfl

namespace Paced

variable {period : Nat} {sys : IntervalSystem}

/-- A build is spawned on a tick that was due. -/
theorem onTick (h : Paced period sys) {now : Nat} (hdue : sys.job.interval.deadline ≤ now) :
    (sys.onTick now).log.Pairwise (Apart period) ∧
      ∀ t, .succeeded t ∈ (sys.onTick now).log → .succeeded t ∈ sys.log := by
  rw [onTick_eq]
  simp only
  split
  next =>
    refine ⟨List.pairwise_append.mpr ⟨h.log, List.pairwise_singleton _ _, ?_⟩, fun t ht => ?_⟩
    · intro before hbefore after hafter t u hsucceeded hspawned
      rw [hsucceeded] at hbefore
      rw [List.mem_singleton.mp hafter] at hspawned
      cases hspawned
      have hdeadline := (h.after t hbefore).2
      omega
    · rcases List.mem_append.mp ht with hold | hnew
      · exact hold
      · cases List.mem_singleton.mp hnew
  next => exact ⟨h.log, fun _ => id⟩

theorem poll (h : Paced period sys) {now : Nat} (hnow : sys.clock ≤ now) :
    Paced period (sys.poll now) := by
  have hsoon := h.soon
  unfold IntervalSystem.poll
  split
  next =>
    split
    next =>
      refine ⟨h.interval, ?_, fun t ht => ?_, h.log⟩
      · show sys.job.interval.deadline ≤ now + period
        omega
      · obtain ⟨hclock, hdeadline⟩ := h.after t ht
        exact ⟨Nat.le_trans hclock hnow, hdeadline⟩
    next =>
      obtain ⟨hlt, hperiod, hdeadline⟩ :=
        sys.job.interval.drain_deadline now (IntervalSystem.onTick now) sys
      have hdrained := drain_onTick now sys
      rw [h.interval] at hdeadline
      by_cases hdue : sys.job.interval.deadline ≤ now
      · rw [if_pos hdue] at hdrained
        obtain ⟨hlog, hsucceeded⟩ := h.onTick hdue
        refine ⟨hperiod.trans h.interval, ?_, fun t ht => ?_, ?_⟩
        · show (Interval.drain ..).1.deadline ≤ now + period
          omega
        · simp only at ht
          rw [hdrained] at ht
          obtain ⟨hclock, hafter⟩ := h.after t (hsucceeded t ht)
          refine ⟨Nat.le_trans hclock hnow, ?_⟩
          show t + period ≤ (Interval.drain ..).1.deadline
          omega
        · simp only
          rw [hdrained]
          exact hlog
      · rw [Interval.drain_of_lt (Nat.lt_of_not_le hdue)]
        refine ⟨h.interval, ?_, fun t ht => ?_, h.log⟩
        · show sys.job.interval.deadline ≤ now + period
          omega
        · obtain ⟨hclock, hafter⟩ := h.after t ht
          exact ⟨Nat.le_trans hclock hnow, hafter⟩
  next => exact h

theorem pollPending (h : Paced period sys) {now : Nat} (hnow : sys.clock ≤ now) :
    Paced period (sys.pollPending now) := by
  have hsoon := h.soon
  unfold IntervalSystem.pollPending
  split
  next =>
    have hinterval := sys.pollPending_interval now
    cases houtcome : sys.hasOutcome with
    | true =>
      rw [houtcome, if_pos rfl] at hinterval
      refine ⟨?_, ?_, fun t ht => ?_, ?_⟩
      · simp only
        rw [hinterval]
        exact h.interval
      · simp only
        rw [hinterval]
        show now + sys.job.interval.period ≤ now + period
        rw [h.interval]
      · simp only
        rw [hinterval]
        show t ≤ now ∧ t + period ≤ now + sys.job.interval.period
        rw [h.interval]
        rcases List.mem_append.mp ht with hold | hnew
        · have hclock := (h.after t hold).1
          omega
        · cases List.mem_singleton.mp hnew
          omega
      · refine List.pairwise_append.mpr ⟨h.log, List.pairwise_singleton _ _, ?_⟩
        intro before _ after hafter t u _ hspawned
        rw [List.mem_singleton.mp hafter] at hspawned
        cases hspawned
    | false =>
      rw [houtcome, if_neg Bool.false_ne_true] at hinterval
      refine ⟨?_, ?_, fun t ht => ?_, h.log⟩
      · simp only
        rw [hinterval]
        exact h.interval
      · simp only
        rw [hinterval]
        omega
      · simp only
        rw [hinterval]
        obtain ⟨hclock, hafter⟩ := h.after t ht
        exact ⟨Nat.le_trans hclock hnow, hafter⟩
  next => exact h

theorem step (R : Reth) (h : Paced period sys) {event : IntervalEvent} (honwards : sys.Onwards event) :
    Paced period (sys.step R event) := by
  cases event with
  | poll now => exact h.poll (honwards now rfl)
  | pollPending now => exact h.pollPending (honwards now rfl)
  | build task inputs => exact ⟨h.interval, h.soon, h.after, h.log⟩
  | buildPanics task => exact ⟨h.interval, h.soon, h.after, h.log⟩
  | buildEmpty strat inputs => exact ⟨h.interval, h.soon, h.after, h.log⟩
  | emptyPanics => exact ⟨h.interval, h.soon, h.after, h.log⟩
  | resolve client pool =>
    show Paced period (sys.resolve R client pool)
    unfold IntervalSystem.resolve
    split
    next => exact h
    next => exact h
    next => exact ⟨h.interval, h.soon, h.after, h.log⟩
  | pollFuture =>
    show Paced period sys.pollFuture
    unfold pollFuture
    split
    next => exact ⟨h.interval, h.soon, h.after, h.log⟩
    next => exact h

end Paced

/-- A build state for a configuration. -/
def BuiltFor (config : BuildConfig) (bs : BuildState) : Prop :=
  ∃ coinbase, bs.buildConfig = config.blockEnvWithCoinbase coinbase

/-- A task for a configuration, and what it has sent. -/
structure TaskBuilds (config : BuildConfig) (task : BuildTask) : Prop where
  buildConfig : task.buildConfig = config
  better : ∀ bs, task.result = .sent (.ok (.better bs)) → BuiltFor config bs

theorem TaskBuilds.run (R : Reth) {config : BuildConfig} {task : BuildTask}
    (h : TaskBuilds config task) (inputs : BuildInputs) : TaskBuilds config (task.run R inputs) := by
  unfold BuildTask.run
  split
  next =>
    refine ⟨h.buildConfig, fun bs hbs => ?_⟩
    obtain ⟨-, hconfig⟩ := Strategy.tryBuild_configs _ (TaskResult.sent.inj hbs)
    refine ⟨task.strategy.config.builderAddress, ?_⟩
    rw [← h.buildConfig]
    exact hconfig
  next => exact h

theorem TaskBuilds.drop {config : BuildConfig} {task : BuildTask} (h : TaskBuilds config task) :
    TaskBuilds config task.drop := by
  unfold BuildTask.drop
  split
  next => exact ⟨h.buildConfig, fun bs hbs => by cases hbs⟩
  next => exact h

/-- What a future holds is an empty block for the configuration. -/
structure FutureFor (R : Reth) (config : BuildConfig) (fut : ResolveBestPayload) : Prop where
  best : ∀ build, fut.bestPayload = some build → EmptyFor R config build
  empty : ∀ build, fut.emptyPayload = some (.sent (.ok build)) → EmptyFor R config build

theorem FutureFor.poll {R : Reth} {config : BuildConfig} {fut : ResolveBestPayload}
    (h : FutureFor R config fut) : FutureFor R config fut.poll.1 ∧
      ∀ build, fut.poll.2 = .ready (.ok build) → EmptyFor R config build := by
  unfold ResolveBestPayload.poll
  split
  next best hbest =>
    refine ⟨⟨fun build hnone => (by cases hnone), h.empty⟩, fun build hready => ?_⟩
    cases hready
    exact h.best best hbest
  next =>
    split
    next => exact ⟨h, fun build hready => by cases hready⟩
    next res hsent =>
      refine ⟨⟨h.best, fun build hnone => (by cases hnone)⟩, fun build hready => ?_⟩
      cases hready
      exact h.empty build hsent
    next => exact ⟨⟨h.best, fun build hnone => (by cases hnone)⟩, fun build hready => by cases hready⟩
    next => exact ⟨h, fun build hready => by cases hready⟩

/-- Everything the job holds and has answered is for its configuration. -/
structure AnswersFor (R : Reth) (config : BuildConfig) (sys : IntervalSystem) : Prop where
  buildConfig : sys.job.buildConfig = config
  tasks : ∀ task ∈ sys.builds, TaskBuilds config task
  best : ∀ bs, sys.job.bestBuild = some bs → BuiltFor config bs
  future : ∀ fut, sys.future = some fut → FutureFor R config fut
  answers : ∀ build, .ready (.ok build) ∈ sys.answers → EmptyFor R config build

namespace AnswersFor

variable {R : Reth} {config : BuildConfig} {sys : IntervalSystem}

theorem onTick (h : AnswersFor R config sys) (now : Nat) : AnswersFor R config (sys.onTick now) := by
  rw [onTick_eq]
  unfold IntervalBuildJob.spawnBuild
  split
  next =>
    refine ⟨h.buildConfig, fun task htask => ?_, h.best, h.future, h.answers⟩
    rcases List.mem_append.mp htask with hold | hnew
    · exact h.tasks task hold
    · rw [List.mem_singleton.mp hnew]
      exact ⟨h.buildConfig, fun bs hbs => by cases hbs⟩
  next => exact ⟨h.buildConfig, h.tasks, h.best, h.future, h.answers⟩

theorem poll (h : AnswersFor R config sys) (now : Nat) : AnswersFor R config (sys.poll now) := by
  unfold IntervalSystem.poll
  split
  next =>
    split
    next => exact ⟨h.buildConfig, h.tasks, h.best, h.future, h.answers⟩
    next =>
      have hdrained : AnswersFor R config
          (sys.job.interval.drain now (IntervalSystem.onTick now) sys).2 :=
        Interval.drain_keeps (fun _ hsys => hsys.onTick now) sys.job.interval now h
      exact ⟨hdrained.buildConfig, hdrained.tasks, hdrained.best, hdrained.future, hdrained.answers⟩
  next => exact h

theorem pollPending (h : AnswersFor R config sys) (now : Nat) :
    AnswersFor R config (sys.pollPending now) := by
  have hpoll : (sys.job.pollPending sys.builds now).1.buildConfig = config ∧
      ∀ bs, (sys.job.pollPending sys.builds now).1.bestBuild = some bs → BuiltFor config bs := by
    unfold IntervalBuildJob.pollPending
    split
    next outcome hresult =>
      simp only
      split
      next buildState =>
        refine ⟨h.buildConfig, fun bs hbs => ?_⟩
        cases hbs
        obtain ⟨task, htask, hsent⟩ := Option.map_eq_some_iff.mp hresult
        obtain ⟨index, -, hindex⟩ := Option.bind_eq_some_iff.mp htask
        exact (h.tasks task (List.mem_of_getElem? hindex)).better buildState hsent
      next => exact ⟨h.buildConfig, h.best⟩
      next => exact ⟨h.buildConfig, h.best⟩
    next => exact ⟨h.buildConfig, h.best⟩
    next => exact ⟨h.buildConfig, h.best⟩
    next => exact ⟨h.buildConfig, h.best⟩
    next => exact ⟨h.buildConfig, h.best⟩
  unfold IntervalSystem.pollPending
  split
  next => exact ⟨hpoll.1, h.tasks, hpoll.2, h.future, h.answers⟩
  next => exact h

/-- A task changes. -/
theorem modify (h : AnswersFor R config sys) (index : Nat) {change : BuildTask → BuildTask}
    (hchange : ∀ task, TaskBuilds config task → TaskBuilds config (change task)) :
    AnswersFor R config { sys with builds := sys.builds.modify index change } := by
  refine ⟨h.buildConfig, fun task htask => ?_, h.best, h.future, h.answers⟩
  obtain ⟨i, hi⟩ := List.mem_iff_getElem?.mp htask
  rw [List.getElem?_modify] at hi
  obtain ⟨before, hbefore, hafter⟩ := Option.map_eq_some_iff.mp hi
  have hbuilds := h.tasks before (List.mem_of_getElem? hbefore)
  split at hafter
  next => exact hafter ▸ hchange before hbuilds
  next => exact hafter ▸ hbuilds

/-- **The best build is answered with an empty block of it.** -/
theorem resolve (h : AnswersFor R config sys) (client : Client) (pool : Pool) :
    AnswersFor R config (sys.resolve R client pool) := by
  unfold IntervalSystem.resolve
  split
  next => exact h
  next => exact h
  next =>
    refine ⟨h.buildConfig, h.tasks, fun bs hnone => (by cases hnone), fun fut hfut => ?_, h.answers⟩
    have hresolved : (sys.job.resolve R client pool).2 = fut := Option.some.inj hfut
    rw [← hresolved]
    rcases sys.job.resolve_cases R client pool with ⟨bs, build, hbest, hbuild, hfuture⟩ | hfuture
    · rw [hfuture]
      refine ⟨fun build' hbuild' => ?_, fun build' hnone => by cases hnone⟩
      cases hbuild'
      obtain ⟨coinbase, hconfig⟩ := h.best bs hbest
      exact BuildState.intoEmptyBuild_emptyFor hconfig hbuild
    · rw [hfuture]
      exact ⟨fun build hnone => (by cases hnone), fun build hpending => by cases hpending⟩

/-- The empty payload is built, or its task panics. -/
theorem onEmptyPayload (h : AnswersFor R config sys)
    {change : Oneshot (Except PayloadBuilderError Build) → Oneshot (Except PayloadBuilderError Build)}
    (hchange : ∀ o build, change o = .sent (.ok build) →
      o = .sent (.ok build) ∨ EmptyFor R config build) :
    AnswersFor R config (sys.onEmptyPayload change) := by
  refine ⟨h.buildConfig, h.tasks, h.best, fun fut hfut => ?_, h.answers⟩
  obtain ⟨before, hbefore, rfl⟩ := Option.map_eq_some_iff.mp hfut
  have hfuture := h.future before hbefore
  refine ⟨hfuture.best, fun build hsent => ?_⟩
  obtain ⟨o, ho, hchanged⟩ := Option.map_eq_some_iff.mp hsent
  rcases hchange o build hchanged with hsame | hempty
  · exact hfuture.empty build (ho.trans (congrArg some hsame))
  · exact hempty

theorem pollFuture (h : AnswersFor R config sys) : AnswersFor R config sys.pollFuture := by
  unfold IntervalSystem.pollFuture
  split
  next future hfuture =>
    obtain ⟨hpolled, hready⟩ := (h.future future hfuture).poll
    refine ⟨h.buildConfig, h.tasks, h.best, fun fut hfut => ?_, fun build hbuild => ?_⟩
    · cases hfut
      exact hpolled
    · rcases List.mem_append.mp hbuild with hold | hnew
      · exact h.answers build hold
      · exact hready build (List.mem_singleton.mp hnew).symm
  next => exact h

theorem step (h : AnswersFor R config sys) (event : IntervalEvent) :
    AnswersFor R config (sys.step R event) := by
  cases event with
  | poll now => exact h.poll now
  | pollPending now => exact h.pollPending now
  | build task inputs => exact h.modify task fun _ hbuilds => hbuilds.run R inputs
  | buildPanics task => exact h.modify task fun _ hbuilds => hbuilds.drop
  | resolve client pool => exact h.resolve client pool
  | buildEmpty strat inputs =>
    refine h.onEmptyPayload fun o build hsent => ?_
    cases o with
    | pending =>
      have hempty := buildEmptyPayload_emptyFor (Oneshot.sent.inj hsent)
      exact .inr (h.buildConfig ▸ hempty)
    | sent result => exact .inl hsent
    | closed => exact .inl hsent
  | emptyPanics =>
    refine h.onEmptyPayload fun o build hsent => ?_
    cases o with
    | pending => cases hsent
    | sent result => exact .inl hsent
    | closed => exact .inl hsent
  | pollFuture => exact h.pollFuture

end AnswersFor

/-- How far a future has been polled. -/
inductive Polled : ResolveBestPayload → List ResolvePoll → Prop where
  | best (build : Build) : Polled ⟨some build, none⟩ []
  | waiting (o : Oneshot (Except PayloadBuilderError Build)) (n : Nat) :
      Polled ⟨none, some o⟩ (.replicate n .pending)
  | done (n : Nat) (answer : ResolvePoll) (m : Nat) (final : answer.isFinal = true) :
      Polled ⟨none, none⟩ (.replicate n .pending ++ answer :: .replicate m .panicked)

theorem Polled.poll {fut : ResolveBestPayload} {answers : List ResolvePoll}
    (h : Polled fut answers) : Polled fut.poll.1 (answers ++ [fut.poll.2]) := by
  cases h with
  | best build => exact .done 0 (.ready (.ok build)) 0 rfl
  | waiting o n =>
    cases o with
    | pending =>
      show Polled _ (List.replicate n .pending ++ [ResolvePoll.pending])
      rw [← List.replicate_succ']
      exact .waiting .pending (n + 1)
    | sent result => exact .done n (.ready result) 0 rfl
    | closed => exact .done n .channelClosed 0 rfl
  | done n answer m hfinal =>
    show Polled _ ((List.replicate n .pending ++ answer :: List.replicate m .panicked) ++
      [ResolvePoll.panicked])
    rw [List.append_assoc, List.cons_append, ← List.replicate_succ']
    exact .done n answer (m + 1) hfinal

/-- The answers are those of the future, if there is one. -/
def Asked (sys : IntervalSystem) : Prop :=
  sys.future = none ∧ sys.answers = [] ∨ ∃ fut, sys.future = some fut ∧ Polled fut sys.answers

namespace Asked

variable {sys : IntervalSystem}

theorem of_eq (h : sys.Asked) {sys' : IntervalSystem} (hfuture : sys'.future = sys.future)
    (hanswers : sys'.answers = sys.answers) : sys'.Asked := by
  unfold Asked
  rw [hfuture, hanswers]
  exact h

theorem onEmptyPayload (h : sys.Asked)
    (change : Oneshot (Except PayloadBuilderError Build) → Oneshot (Except PayloadBuilderError Build)) :
    (sys.onEmptyPayload change).Asked := by
  rcases h with ⟨hnone, hanswers⟩ | ⟨fut, hfuture, hpolled⟩
  · refine .inl ⟨?_, hanswers⟩
    unfold IntervalSystem.onEmptyPayload
    rw [hnone]
    rfl
  · refine .inr ⟨{ fut with emptyPayload := fut.emptyPayload.map change }, ?_, ?_⟩
    · unfold IntervalSystem.onEmptyPayload
      rw [hfuture]
      rfl
    · show Polled _ sys.answers
      generalize sys.answers = answers at hpolled
      cases hpolled with
      | best build => exact .best build
      | waiting o n => exact .waiting (change o) n
      | done n answer m hfinal => exact .done n answer m hfinal

theorem step (R : Reth) (h : sys.Asked) (event : IntervalEvent) : (sys.step R event).Asked := by
  cases event with
  | poll now =>
    show (sys.poll now).Asked
    unfold IntervalSystem.poll
    split
    next =>
      split
      next => exact h.of_eq rfl rfl
      next =>
        have hdrained := drain_onTick now sys
        refine h.of_eq ?_ ?_
        · show (sys.job.interval.drain now (onTick now) sys).2.future = _
          rw [hdrained]
          split
          next => rfl
          next => rfl
        · show (sys.job.interval.drain now (onTick now) sys).2.answers = _
          rw [hdrained]
          split
          next => rfl
          next => rfl
    next => exact h
  | pollPending now =>
    show (sys.pollPending now).Asked
    unfold IntervalSystem.pollPending
    split
    next => exact h.of_eq rfl rfl
    next => exact h
  | build task inputs => exact h.of_eq rfl rfl
  | buildPanics task => exact h.of_eq rfl rfl
  | resolve client pool =>
    show (sys.resolve R client pool).Asked
    unfold IntervalSystem.resolve
    split
    next => exact h
    next => exact h
    next hfuture _ =>
      rcases h with ⟨-, hanswers⟩ | ⟨fut, hsome, -⟩
      · refine .inr ⟨(sys.job.resolve R client pool).2, rfl, ?_⟩
        show Polled _ sys.answers
        rw [hanswers]
        rcases sys.job.resolve_cases R client pool with ⟨bs, build, -, -, hbest⟩ | hwaiting
        · rw [hbest]
          exact .best build
        · rw [hwaiting]
          exact .waiting .pending 0
      · rw [hsome] at hfuture
        cases hfuture
  | buildEmpty strat inputs => exact h.onEmptyPayload _
  | emptyPanics => exact h.onEmptyPayload _
  | pollFuture =>
    show sys.pollFuture.Asked
    unfold IntervalSystem.pollFuture
    split
    next future hfuture =>
      rcases h with ⟨hnone, -⟩ | ⟨fut, hsome, hpolled⟩
      · rw [hnone] at hfuture
        cases hfuture
      · cases hfuture.symm.trans hsome
        exact .inr ⟨future.poll.1, rfl, hpolled.poll⟩
    next => exact h

end Asked

end IntervalSystem

end BlockBuilder
