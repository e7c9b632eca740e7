import BlockBuilder.Payload.Job

/-!
# The cancel signal never fires

A job that takes the outcome of its task does not expect it to be cancelled
(`unreachable!("the cancel signal never fired")`). The loops over the pool give up
as cancelled only where the marker says so, and the marker of a task never does.
-/

namespace BlockBuilder

/-- A loop that is never told to stop does not end as cancelled. -/
theorem MempoolStrat.executeTxs_uncancelled (R : Reth) {cancelled : Nat → Bool}
    (h : ∀ i, cancelled i = false) (best : BestTransactions) : ∀ (i : Nat) (s : Session),
    (executeTxs R cancelled best i s).1 ≠ .error .jobCancelled := by
  induction best with
  | done =>
    intro i s hdone
    cases hdone
  | next tx rest ih =>
    intro i s
    unfold executeTxs
    rw [h i, if_neg Bool.false_ne_true]
    split
    next => exact ih _ (i + 1) s
    next =>
      split
      next s' _ => exact ih [] (i + 1) s'
      next =>
        split
        next calls _ => exact ih calls (i + 1) s
        next =>
          intro hfailed
          cases hfailed

theorem BundlesStrat.executeMempoolTxs_uncancelled (R : Reth) {cancelled : Nat → Bool}
    (h : ∀ i, cancelled i = false) (best : BestTransactions) :
    ∀ (i : Nat) (committed : List B256) (s : Session),
    (executeMempoolTxs R cancelled best i committed s).1 ≠ .error .jobCancelled := by
  induction best with
  | done =>
    intro i committed s hdone
    cases hdone
  | next tx rest ih =>
    intro i committed s
    unfold executeMempoolTxs
    rw [h i, if_neg Bool.false_ne_true]
    split
    next => exact ih _ (i + 1) committed s
    next =>
      split
      next => exact ih [] (i + 1) committed s
      next =>
        split
        next s' _ => exact ih [] (i + 1) _ s'
        next =>
          split
          next calls _ => exact ih calls (i + 1) committed s
          next =>
            intro hfailed
            cases hfailed

/-- The end of a build is better or aborted. -/
theorem concludeBuild_ne_cancelled (args : BuildArguments) (s : Session) :
    concludeBuild args s ≠ .cancelled := by
  unfold concludeBuild
  split
  next =>
    intro haborted
    cases haborted
  next =>
    intro hbetter
    cases hbetter

/-- **A build that is never told to stop does not end as cancelled.** -/
theorem Strategy.tryBuild_uncancelled {R : Reth} {strategy : Strategy} {args : BuildArguments}
    (h : ∀ i, args.cancelled i = false) : strategy.tryBuild R args ≠ .ok .cancelled := by
  intro hcancelled
  cases strategy with
  | emptyStrat strat =>
    replace hcancelled : strat.tryBuild R args = .ok .cancelled := hcancelled
    unfold EmptyStrat.tryBuild at hcancelled
    split at hcancelled
    next => cases hcancelled
    next => cases hcancelled
  | mempoolStrat strat =>
    replace hcancelled : strat.tryBuild R args = .ok .cancelled := hcancelled
    unfold MempoolStrat.tryBuild at hcancelled
    split at hcancelled
    next => cases hcancelled
    next s _ =>
      split at hcancelled
      next s' hloop =>
        exact MempoolStrat.executeTxs_uncancelled R h args.bestTransactions 0 s (congrArg Prod.fst hloop)
      next => cases hcancelled
      next => exact concludeBuild_ne_cancelled _ _ (Except.ok.inj hcancelled)
  | bundlesStrat strat =>
    replace hcancelled : strat.tryBuild R args = .ok .cancelled := hcancelled
    unfold BundlesStrat.tryBuild at hcancelled
    split at hcancelled
    next => cases hcancelled
    next =>
      split at hcancelled
      next => cases hcancelled
      next committed s _ =>
        split at hcancelled
        next s' hloop =>
          exact BundlesStrat.executeMempoolTxs_uncancelled R h args.bestTransactions 0 committed s
            (congrArg Prod.fst hloop)
        next => cases hcancelled
        next => exact concludeBuild_ne_cancelled _ _ (Except.ok.inj hcancelled)

/-! ## Tasks -/

/-- The task has not come to what its job does not expect. -/
def BuildTask.Uncancelled (task : BuildTask) : Prop := task.result ≠ .sent (.ok .cancelled)

theorem BuildTask.Uncancelled.run (R : Reth) {task : BuildTask} (h : task.Uncancelled)
    (inputs : BuildInputs) : (task.run R inputs).Uncancelled := by
  unfold BuildTask.run
  split
  next => exact fun hsent => Strategy.tryBuild_uncancelled (fun _ => rfl) (TaskResult.sent.inj hsent)
  next => exact h

theorem BuildTask.Uncancelled.drop {task : BuildTask} (h : task.Uncancelled) :
    task.drop.Uncancelled := by
  unfold BuildTask.drop
  split
  next => exact fun hclosed => by cases hclosed
  next => exact h

theorem StreamBuildJob.spawnBuild_uncancelled (job : StreamBuildJob) {builds : List BuildTask}
    (h : ∀ task ∈ builds, task.Uncancelled) : ∀ task ∈ (job.spawnBuild builds).2, task.Uncancelled := by
  unfold spawnBuild
  split
  next =>
    intro task htask
    rcases List.mem_append.mp htask with hold | hnew
    · exact h task hold
    · rw [List.mem_singleton.mp hnew]
      exact fun hpending => by cases hpending
  next => exact h

end BlockBuilder
