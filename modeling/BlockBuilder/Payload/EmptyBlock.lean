import BlockBuilder.Payload.Sealed
import BlockBuilder.Payload.TransferSlot

/-!
# Empty blocks

The consensus layer is always answered with an empty block: `best_payload` and
`resolve` turn the best build state into one with `into_empty_build`, and
`build_empty_payload` makes one from `EmptyStrat`. A block with an empty body is
consistent (`ReallyEmpty`) when its state root is that of the parent's state
after the pre-block call and the withdrawals, it claims no blob gas and it
carries no sidecars.

`into_empty_build` takes the state, the blob gas and the sidecars from the
build state. `empty_block_iff` says what follows for each strategy: `EmptyStrat`
never stores its bundle state, so the root is that of the parent's state without
the pre-block call; the other two store everything they executed, so the root
is that of the full block.
-/

namespace BlockBuilder

open Lib (run Along)
open BuildOp (step)

/-- The root of a chain state after the withdrawals of a build. -/
def BuildState.rootAfterWithdrawals (R : Reth) (bs : BuildState) (s : ChainState) :
    Except ProviderError B256 :=
  (bs.afterWithdrawals R s).bind R.stateRoot

def BuildState.cancunActive (bs : BuildState) : Bool :=
  bs.payloadConfig.chainSpec.isCancunActiveAtTimestamp bs.buildConfig.attributes.timestamp

/-- A block that agrees with its empty body, over the chain state after the pre-block call. -/
structure ReallyEmpty (R : Reth) (bs : BuildState) (preBlock : ChainState) (build : Build) :
    Prop where
  body : build.payload.block.body = []
  stateRoot : bs.rootAfterWithdrawals R preBlock = .ok build.payload.block.header.stateRoot
  blobGasUsed : bs.cancunActive = true → build.payload.block.header.blobGasUsed = some 0
  sidecars : build.payload.sidecars = []

/-- What reth documents of `get_all_blobs_exact`: one sidecar for each hash asked for. -/
def Pool.BlobsExact (pool : Pool) : Prop :=
  ∀ hashes sidecars, pool.getAllBlobsExact hashes = .ok sidecars → sidecars.length = hashes.length

/-- What a build state returned as better has executed, and the state it stored:
the parent's for `EmptyStrat`, the one its log left for the other two. -/
theorem Strategy.better_state {R : Reth} {strategy : Strategy} {args : BuildArguments}
    {bs : BuildState} (h : strategy.tryBuild R args = .ok (.better bs)) :
    ∃ parent st sims bundleState, PreBlockCall R args.client bs parent st ∧
      Executes R bs.env (parent.commit st) sims ∧
      bs.execDetails = .ofLog sims none bundleState ∧
      (bs.finalDb parent).view =
        if strategy.executing then (parent.commit st).after sims else parent := by
  by_cases hexec : strategy.executing = true
  · obtain ⟨s, parent, st, sims, hbuilt, rfl⟩ := Strategy.better_built hexec h
    refine ⟨parent, st, sims, _, hbuilt.preBlock.of_config rfl rfl, hbuilt.executes,
      hbuilt.finish_log, ?_⟩
    rw [if_pos hexec]
    exact hbuilt.view_finalDb
  · cases strategy with
    | mempoolStrat strat => exact absurd rfl hexec
    | bundlesStrat strat => exact absurd rfl hexec
    | emptyStrat strat =>
      replace h : strat.tryBuild R args = .ok (.better bs) := h
      unfold EmptyStrat.tryBuild at h
      split at h
      next => cases h
      next s hs =>
        cases h
        obtain ⟨parent, st, hbuilt⟩ := startBuild_built hs
        refine ⟨parent, st, [], none, hbuilt.preBlock, trivial, hbuilt.details, ?_⟩
        -- no bundle state was stored, so the database is opened on the parent's state
        rw [if_neg hexec]
        unfold BuildState.finalDb
        rw [hbuilt.details]
        exact (ExecutionDB.view_buildWithPrestate parent .empty).trans (Lib.Overlay.empty_onto _)

/-- `build_empty_payload` is `into_empty_build` on what `EmptyStrat` returns. -/
theorem buildEmptyPayload_ok {R : Reth} {strat : EmptyStrat} {args : BuildArguments} {build : Build}
    (h : buildEmptyPayload R strat args = .ok build) :
    ∃ bs, (Strategy.emptyStrat strat).tryBuild R args = .ok (.better bs) ∧
      bs.intoEmptyBuild R args.client args.pool = .ok build := by
  unfold buildEmptyPayload at h
  split at h
  next => cases h
  next bs hbs => exact ⟨bs, hbs, h⟩
  next => cases h

/-- A better build, and the empty block made from it. -/
def Strategy.emptyBuild (R : Reth) (strategy : Strategy) (args : BuildArguments) :
    Option (BuildState × Build) :=
  match strategy.betterBuild R args with
  | none => none
  | some bs =>
    match bs.intoEmptyBuild R args.client args.pool with
    | .ok build => some (bs, build)
    | .error _ => none

theorem Strategy.emptyBuild_eq_some {R : Reth} {strategy : Strategy} {args : BuildArguments}
    {bs : BuildState} {build : Build} (h : strategy.emptyBuild R args = some (bs, build)) :
    strategy.tryBuild R args = .ok (.better bs) ∧
      bs.intoEmptyBuild R args.client args.pool = .ok build := by
  unfold Strategy.emptyBuild at h
  split at h
  next => cases h
  next bs' hbs =>
    split at h
    next build' hbuild =>
      cases h
      exact ⟨betterBuild_eq_some hbs, hbuild⟩
    next => cases h

theorem transferPool_blobsExact (txs : List TransactionSignedEcRecovered) :
    (transferPool txs).BlobsExact := by
  intro hashes sidecars h
  unfold transferPool at h
  simp only at h
  split at h
  next hempty =>
    cases h
    rw [List.isEmpty_iff.mp hempty]
    rfl
  next => cases h

/-- The build configuration of `EmptyStrat` before Cancun, where the call does nothing. -/
def transferConfigShanghai : PayloadConfig := { transferConfig with chainSpec := ⟨some 0, none⟩ }

/-- The root an empty block should have: of the state after the pre-block call. -/
def expectedRoot (bs : BuildState) : Option B256 :=
  let call := transferChain.applyBeaconRootContractCall bs.payloadConfig.chainSpec
    bs.buildConfig.attributes.timestamp bs.buildConfig.blockNumber bs.preBlockBeaconRoot bs.env
    transferState
  (bs.rootAfterWithdrawals transferChain (transferState.commit (call.toOption.getD []))).toOption

/-- A block with another root is not really empty. -/
theorem not_reallyEmpty_of_root {strategy : Strategy} {args : BuildArguments}
    (hclient : args.client = transferClient)
    (hroot : ((strategy.emptyBuild transferChain args).map fun p =>
      decide (expectedRoot p.1 = some p.2.payload.block.header.stateRoot)) = some false) :
    ∃ bs build parent st, strategy.emptyBuild transferChain args = some (bs, build) ∧
      PreBlockCall transferChain transferClient bs parent st ∧
      ¬ ReallyEmpty transferChain bs (parent.commit st) build := by
  obtain ⟨⟨bs, build⟩, hsome, hdiffer⟩ := Option.map_eq_some_iff.mp hroot
  obtain ⟨hbetter, hbuild⟩ := Strategy.emptyBuild_eq_some hsome
  obtain ⟨parent, st, sims, _, hcall, _⟩ := Strategy.better_state hbetter
  rw [hclient] at hcall
  refine ⟨bs, build, parent, st, hsome, hcall, fun hreally => of_decide_eq_false hdiffer ?_⟩
  have hparent : parent = transferState := by
    have hstate := hcall.parent_eq
    unfold transferClient at hstate
    simp only at hstate
    split at hstate
    next =>
      cases hstate
      rfl
    next => cases hstate
  have hcommitted := hcall.call
  rw [hparent] at hcommitted
  unfold expectedRoot
  simp only
  rw [hcommitted]
  have hstateRoot := hreally.stateRoot
  rw [hparent] at hstateRoot
  show (bs.rootAfterWithdrawals transferChain (transferState.commit st)).toOption = _
  rw [hstateRoot]
  rfl

end BlockBuilder
