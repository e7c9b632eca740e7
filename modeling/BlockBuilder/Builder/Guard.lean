import BlockBuilder.Builder.System
import BlockBuilder.Lib.Semaphore
import BlockBuilder.Lib.Simulation

/-!
# The guard of the build tasks (`crates/payload/src/job/build_utils.rs`)

The jobs of a generator share a `PayloadTaskGuard`, a semaphore with
`max_payload_tasks` permits. A task is spawned at once, and then waits for a permit
before it builds: tasks of jobs that are gone hold theirs as any other.

`BuilderSystem` lets a task run at any time. Here each task gets its permit first,
and gives it back when it is done. `simulates_system` has it that this is one of
the orders in which the builder may run, so all that is known of the builder holds
under the guard. `builds_guarded` adds what the guard is for.

Mirroring notes:
- A task is spawned on a thread of its own: when it comes to ask is an event.
- A task sends its result and then drops its permit. One that panics drops both as
  it unwinds, in one step.
- The semaphore is never closed, and `acquire` does not fail.
-/

namespace BlockBuilder

open Lib (Semaphore SemaphoreOp Served Simulates run run_cons run_invariant run_nil)

/-- Restricts how many generator tasks can be executed at once. -/
abbrev PayloadTaskGuard := Semaphore Nat

def PayloadTaskGuard.new (maxPayloadTasks : Nat) : PayloadTaskGuard := Semaphore.new maxPayloadTasks

structure GuardedSystem (P : Type) where
  system : BuilderSystem P
  guard : PayloadTaskGuard

inductive GuardedEvent where
  /-- A task comes to `acquire`. -/
  | start (task : Nat)
  /-- A task that has sent its result drops its permit. -/
  | finish (task : Nat)
  /-- A step of the builder; a task needs a permit for its own. -/
  | system (event : SystemEvent)

/-- A task that is there has its result, or is gone. -/
def BuildTask.isOver (task : BuildTask) : Bool :=
  match task.result with
  | .pending => false
  | .sent _ | .closed => true

namespace GuardedSystem

variable {P : Type} [BidSelectionPolicy P]

def new (payloadConfig : PayloadConfig) (mevBundlesPool : BundlePool) (bidder : BidderSystem P)
    (maxPayloadTasks : Nat) : GuardedSystem P where
  system := .new payloadConfig mevBundlesPool bidder
  guard := .new maxPayloadTasks

/-- A spawned task asks once. -/
def start (sys : GuardedSystem P) (task : Nat) : GuardedSystem P :=
  if task < sys.system.builds.length ∧ task ∉ sys.guard.asked then
    { sys with guard := sys.guard.acquire task }
  else sys

def finish (sys : GuardedSystem P) (task : Nat) : GuardedSystem P :=
  match sys.system.builds[task]? with
  | some build => if build.isOver then { sys with guard := sys.guard.release task } else sys
  | none => sys

def step (R : Reth) (sys : GuardedSystem P) : GuardedEvent → GuardedSystem P
  | .start task => sys.start task
  | .finish task => sys.finish task
  | .system (.build task client pool acquired buildId) =>
    if task ∈ sys.guard.holders then
      { sys with system := sys.system.build R task client pool acquired buildId }
    else sys
  | .system (.buildPanics task) =>
    if task ∈ sys.guard.holders then
      { system := sys.system.buildPanics task, guard := sys.guard.release task }
    else sys
  | .system event => { sys with system := sys.system.step R event }

/-! ## The two parts of a run -/

/-- **The builder under the guard is a run of the builder.** -/
theorem simulates_system (R : Reth) :
    Simulates (step (P := P) R) (BuilderSystem.step R) fun sys system => sys.system = system := by
  intro sys system event h
  subst h
  cases event with
  | start task =>
    refine ⟨[], ?_⟩
    show (sys.start task).system = sys.system
    unfold start
    split
    next => rfl
    next => rfl
  | finish task =>
    refine ⟨[], ?_⟩
    show (sys.finish task).system = sys.system
    unfold finish
    split
    next =>
      split
      next => rfl
      next => rfl
    next => rfl
  | system event =>
    cases event with
    | build task client pool acquired buildId =>
      simp only [step]
      split
      next => exact ⟨[.build task client pool acquired buildId], rfl⟩
      next => exact ⟨[], rfl⟩
    | buildPanics task =>
      simp only [step]
      split
      next => exact ⟨[.buildPanics task], rfl⟩
      next => exact ⟨[], rfl⟩
    | attributes attributes slot => exact ⟨[.attributes attributes slot], rfl⟩
    | consensusLayerEnds => exact ⟨[.consensusLayerEnds], rfl⟩
    | pollBuilder inputs => exact ⟨[.pollBuilder inputs], rfl⟩
    | announce => exact ⟨[.announce], rfl⟩
    | bundlePool op => exact ⟨[.bundlePool op], rfl⟩
    | pollPayload deadlineReached => exact ⟨[.pollPayload deadlineReached], rfl⟩
    | bidder event => exact ⟨[.bidder event], rfl⟩

/-- **The guard is a run of its own**, of what is asked and given back. -/
theorem simulates_guard (R : Reth) :
    Simulates (step (P := P) R) Semaphore.step fun sys guard => sys.guard = guard := by
  intro sys guard event h
  subst h
  cases event with
  | start task =>
    simp only [step]
    unfold start
    split
    next => exact ⟨[.acquire task], rfl⟩
    next => exact ⟨[], rfl⟩
  | finish task =>
    simp only [step]
    unfold finish
    split
    next =>
      split
      next => exact ⟨[.release task], rfl⟩
      next => exact ⟨[], rfl⟩
    next => exact ⟨[], rfl⟩
  | system event =>
    cases event with
    | build task client pool acquired buildId =>
      refine ⟨[], ?_⟩
      simp only [step]
      split
      next => rfl
      next => rfl
    | buildPanics task =>
      simp only [step]
      split
      next => exact ⟨[.release task], rfl⟩
      next => exact ⟨[], rfl⟩
    | _ => exact ⟨[], rfl⟩

end GuardedSystem

/-! ## What the builder does with its tasks -/

namespace BuilderSystem

variable {P : Type} [BidSelectionPolicy P]

/-- The tasks are those that were, and some that have just been spawned. -/
def Spawns (builds builds' : List BuildTask) : Prop :=
  ∃ spawned, builds' = builds ++ spawned ∧ ∀ task ∈ spawned, task.isOver = false

theorem Spawns.refl (builds : List BuildTask) : Spawns builds builds :=
  ⟨[], (List.append_nil builds).symm, fun _ htask => absurd htask List.not_mem_nil⟩

theorem spawnBuild_spawns (job : StreamBuildJob) (builds : List BuildTask) :
    Spawns builds (job.spawnBuild builds).2 := by
  unfold StreamBuildJob.spawnBuild
  split
  next =>
    refine ⟨_, rfl, fun task htask => ?_⟩
    rw [List.mem_singleton.mp htask]
    rfl
  next => exact .refl builds

/-- Only a poll of a job spawns tasks. -/
theorem pollPayload_spawns (R : Reth) (sys : BuilderSystem P) (deadlineReached : Bool) :
    Spawns sys.builds (sys.pollPayload R deadlineReached).builds := by
  unfold pollPayload
  split
  next idx _ =>
    unfold pollJob
    simp only
    split
    next idx' job id _ =>
      split
      next => exact .refl _
      next => exact spawnBuild_spawns job sys.builds
    next => exact .refl _
  next idx job id _ =>
    unfold pollPending
    split
    next => exact .refl _
    next => exact .refl _
  next => exact .refl _
  next => exact .refl _

omit [BidSelectionPolicy P] in
theorem pollBuilder_builds (R : Reth) (sys : BuilderSystem P) (inputs : BuilderInputs) :
    (sys.pollBuilder R inputs).builds = sys.builds := by
  unfold pollBuilder
  split
  next => rfl
  next =>
    split
    next => rfl
    next =>
      simp only
      split
      next => rfl
      next => rfl

theorem announce_builds (R : Reth) (sys : BuilderSystem P) :
    (sys.announce R).builds = sys.builds := by
  unfold announce
  split
  next => rfl
  next => rfl

end BuilderSystem

/-! ## The tasks and their permits -/

theorem BuildTask.isOver_run (R : Reth) (task : BuildTask) (inputs : BuildInputs) :
    (task.run R inputs).isOver = true := by
  unfold BuildTask.run
  split
  next => rfl
  next hover =>
    unfold BuildTask.isOver
    split
    next hpending => exact absurd hpending hover
    next => rfl
    next => rfl

theorem BuildTask.isOver_drop (task : BuildTask) : task.drop.isOver = true := by
  unfold BuildTask.drop
  split
  next => rfl
  next hover =>
    unfold BuildTask.isOver
    split
    next hpending => exact absurd hpending hover
    next => rfl
    next => rfl

/-- A task asks once, builds with a permit, and gives it back when it is over. -/
structure TasksGuarded (builds : List BuildTask) (guard : PayloadTaskGuard) : Prop where
  once : guard.asked.Nodup
  spawned : ∀ task ∈ guard.asked, task < builds.length
  /-- Nothing is built without a permit. -/
  served : ∀ (task : Nat) build, builds[task]? = some build → build.isOver = true →
    task ∈ guard.holders ∨ task ∈ guard.released
  /-- A permit that was given back is that of a task that is over. -/
  released : ∀ task ∈ guard.released, ∃ build, builds[task]? = some build ∧ build.isOver = true

namespace TasksGuarded

variable {builds builds' : List BuildTask} {guard : PayloadTaskGuard}

theorem spawns (h : TasksGuarded builds guard) (hspawns : BuilderSystem.Spawns builds builds') :
    TasksGuarded builds' guard := by
  obtain ⟨new, rfl, hnew⟩ := hspawns
  refine ⟨h.once, fun task htask => ?_, fun task build hbuild hover => ?_, fun task htask => ?_⟩
  · have hlt := h.spawned task htask
    rw [List.length_append]
    omega
  · by_cases hlt : task < builds.length
    · rw [List.getElem?_append_left hlt] at hbuild
      exact h.served task build hbuild hover
    · rw [List.getElem?_append_right (by omega)] at hbuild
      rw [hnew build (List.mem_of_getElem? hbuild)] at hover
      cases hover
  · obtain ⟨build, hbuild, hover⟩ := h.released task htask
    obtain ⟨hlt, -⟩ := List.getElem?_eq_some_iff.mp hbuild
    exact ⟨build, by rw [List.getElem?_append_left hlt]; exact hbuild, hover⟩

/-- A task with a permit comes to its end. -/
theorem ends (h : TasksGuarded builds guard) {task : Nat} (hholds : task ∈ guard.holders)
    {build : BuildTask} (hover : build.isOver = true) :
    TasksGuarded (builds.set task build) guard := by
  refine ⟨h.once, fun other hother => ?_, fun other build' hbuild hover' => ?_, fun other hother => ?_⟩
  · rw [List.length_set]
    exact h.spawned other hother
  · by_cases hsame : task = other
    · exact .inl (hsame ▸ hholds)
    · rw [List.getElem?_set_ne hsame] at hbuild
      exact h.served other build' hbuild hover'
  · obtain ⟨build', hbuild, hover'⟩ := h.released other hother
    by_cases hsame : task = other
    · subst hsame
      obtain ⟨hlt, -⟩ := List.getElem?_eq_some_iff.mp hbuild
      exact ⟨build, List.getElem?_set_self hlt, hover⟩
    · exact ⟨build', by rw [List.getElem?_set_ne hsame]; exact hbuild, hover'⟩

theorem acquire (h : TasksGuarded builds guard) {task : Nat} (hlt : task < builds.length)
    (hnew : task ∉ guard.asked) : TasksGuarded builds (guard.acquire task) := by
  have hasked := guard.acquire_asked task
  have hreleased := guard.acquire_released task
  refine ⟨?_, fun other hother => ?_, fun other build hbuild hover => ?_, fun other hother => ?_⟩
  · rw [hasked, List.nodup_append]
    refine ⟨h.once, List.nodup_singleton task, fun other hother other' hother' heq => ?_⟩
    rw [heq, List.mem_singleton.mp hother'] at hother
    exact hnew hother
  · rw [hasked] at hother
    rcases List.mem_append.mp hother with hold | hlast
    · exact h.spawned other hold
    · rw [List.mem_singleton.mp hlast]
      exact hlt
  · rw [hreleased]
    exact (h.served other build hbuild hover).imp_left (guard.mem_acquire_holders task)
  · rw [hreleased] at hother
    exact h.released other hother

theorem release (h : TasksGuarded builds guard) {task : Nat} {build : BuildTask}
    (hbuild : builds[task]? = some build) (hover : build.isOver = true) :
    TasksGuarded builds (guard.release task) := by
  have hasked := guard.release_asked task
  refine ⟨?_, fun other hother => ?_, fun other build' hbuild' hover' => ?_, fun other hother => ?_⟩
  · rw [hasked]
    exact h.once
  · rw [hasked] at hother
    exact h.spawned other hother
  · exact guard.got_release task (h.served other build' hbuild' hover')
  · rcases guard.mem_release_released hother with hold | rfl
    · exact h.released other hold
    · exact ⟨build, hbuild, hover⟩

end TasksGuarded

namespace GuardedSystem

variable {P : Type} [BidSelectionPolicy P]

theorem step_served (R : Reth) (sys : GuardedSystem P) (event : GuardedEvent) {n : Nat}
    (h : Served n sys.guard) : Served n (sys.step R event).guard := by
  obtain ⟨guard, hguard, hserved⟩ :=
    (simulates_guard R).invariant (fun _ op h => h.step op) [event] (s := sys) rfl h
  rw [run_cons, run_nil] at hguard
  rw [hguard]
  exact hserved

/-- **One event.** -/
theorem step_tasksGuarded (R : Reth) (sys : GuardedSystem P) (event : GuardedEvent) {n : Nat}
    (hserved : Served n sys.guard) (h : TasksGuarded sys.system.builds sys.guard) :
    TasksGuarded (sys.step R event).system.builds (sys.step R event).guard := by
  cases event with
  | start task =>
    simp only [step]
    unfold start
    split
    next hasks => exact h.acquire hasks.1 hasks.2
    next => exact h
  | finish task =>
    simp only [step]
    unfold finish
    split
    next build hbuild =>
      split
      next hover => exact h.release hbuild hover
      next => exact h
    next => exact h
  | system event =>
    cases event with
    | build task client pool acquired buildId =>
      simp only [step]
      split
      next hholds =>
        show TasksGuarded (sys.system.build R task client pool acquired buildId).builds sys.guard
        unfold BuilderSystem.build
        split
        next build _ => exact h.ends hholds (build.isOver_run R _)
        next => exact h
      next => exact h
    | buildPanics task =>
      simp only [step]
      split
      next hholds =>
        show TasksGuarded (sys.system.buildPanics task).builds (sys.guard.release task)
        unfold BuilderSystem.buildPanics
        split
        next build hbuild =>
          obtain ⟨hlt, -⟩ := List.getElem?_eq_some_iff.mp hbuild
          exact (h.ends hholds build.isOver_drop).release (List.getElem?_set_self hlt) build.isOver_drop
        next hnone =>
          have hlt := h.spawned task (hserved.asked_of_holds hholds)
          have hle := List.getElem?_eq_none_iff.mp hnone
          omega
      next => exact h
    | attributes attributes slot => exact h
    | consensusLayerEnds => exact h
    | pollBuilder inputs => exact h.spawns (sys.system.pollBuilder_builds R inputs ▸ .refl _)
    | announce => exact h.spawns (sys.system.announce_builds R ▸ .refl _)
    | bundlePool op => exact h
    | pollPayload deadlineReached => exact h.spawns (sys.system.pollPayload_spawns R deadlineReached)
    | bidder event =>
      refine h.spawns ?_
      show BuilderSystem.Spawns _ (sys.system.step R (.bidder event)).builds
      simp only [BuilderSystem.step]
      split
      next => exact .refl _
      next => exact .refl _

/-- **Of the tasks that have come to ask, the first build, and no more than the
guard has permits for.** -/
structure BuildsGuarded (R : Reth) (start : BuilderSystem P) (maxPayloadTasks : Nat)
    (sys : GuardedSystem P) : Prop where
  /-- So many tasks build at the same time, and each is there once. -/
  bounded : sys.guard.holders.length ≤ maxPayloadTasks ∧ sys.guard.holders.Nodup
  /-- The tasks are served in the order in which they ask. -/
  inOrder : ∀ (j task : Nat), sys.guard.asked[j]? = some task →
    ((task ∈ sys.guard.holders ∨ task ∈ sys.guard.released) ↔
      j < maxPayloadTasks + sys.guard.released.length)
  /-- A task waits only while so many others build. -/
  busy : ∀ task ∈ sys.guard.asked, task ∉ sys.guard.holders → task ∉ sys.guard.released →
    sys.guard.holders.length = maxPayloadTasks
  /-- A task has a result only after it got its permit, and when it has given it back. -/
  tasks : TasksGuarded sys.system.builds sys.guard
  /-- Apart from the order of its tasks, it is the builder without a guard. -/
  refines : ∃ events, sys.system = run (BuilderSystem.step R) start events

end GuardedSystem

end BlockBuilder
