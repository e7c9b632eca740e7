import BlockBuilder.Bundles.Pool
import BlockBuilder.Bundles.Replacement

/-!
# How a bundle got into the pool, and what would have taken it out

A bundle that is live was added, and since then no operation was about it: it was
not cancelled, no other bundle took its hash, and no prune found it out of date.
`live_apply` says so of one operation; the builder's history is made of them.
-/

namespace BlockBuilder

/-- The operations after which a bundle is not live. A replacement by uuid is not
among them, as it may miss the bundle it is for. -/
def PoolOp.Removes (bundle : Bundle) : PoolOp → Prop
  | .add other => other.hash = bundle.hash ∧ other ≠ bundle
  | .cancel hash => hash = bundle.hash
  | .prune blockNumber timestamp => bundle.isPrunable blockNumber timestamp = true

/-- **What is live after an operation** was added by it, or was live before it and is
not removed by it. -/
theorem live_apply {p : BundlePoolInner} {op : PoolOp} {b : Bundle} (h : (op.apply p).Live b) :
    op = .add b ∨ p.Live b ∧ ¬ op.Removes b := by
  cases op with
  | add bundle =>
    rcases (p.live_addBundle bundle b).mp h with rfl | ⟨hhash, hkept⟩
    · exact .inl rfl
    · exact .inr ⟨((p.live_replaced bundle b).mp hkept).1, fun hremoves => hhash hremoves.1.symm⟩
  | cancel hash =>
    refine .inr ⟨PoolOp.live_cancel h, fun hremoves => ?_⟩
    replace hremoves : hash = b.hash := hremoves
    cases hcancel : p.cancelBundle hash with
    | ok p' =>
      simp only [PoolOp.apply, hcancel] at h
      exact ((BundlePoolInner.live_cancelBundle hcancel b).mp h).1 hremoves.symm
    | error err =>
      -- a live bundle would have been found
      have hlive : p.bundles.lookup hash = some b := by
        rw [hremoves]
        exact PoolOp.live_cancel h
      unfold BundlePoolInner.cancelBundle at hcancel
      rw [hlive] at hcancel
      cases hcancel
  | prune blockNumber timestamp =>
    obtain ⟨hlive, hkept⟩ := (p.live_prune blockNumber timestamp b).mp h
    refine .inr ⟨hlive, fun hremoves => ?_⟩
    replace hremoves : b.isPrunable blockNumber timestamp = true := hremoves
    rw [hkept] at hremoves
    cases hremoves

/-- A prune of the pool adds nothing, whether it gets the lock or not. -/
theorem BundlePool.live_prune {pool : BundlePool} {acquired : Bool} {blockNumber timestamp : UInt64}
    {b : Bundle} (h : (pool.prune acquired blockNumber timestamp).inner.Live b) : pool.inner.Live b := by
  unfold BundlePool.prune at h
  split at h
  next => exact ((pool.inner.live_prune blockNumber timestamp b).mp h).1
  next => exact h

/-- What a query answers is live, for the block, and within its time. -/
theorem BundlePool.bundles_spec {pool : BundlePool} {acquired : Bool} {blockNumber timestamp : UInt64}
    {b : Bundle} (h : b ∈ (pool.bundles acquired blockNumber timestamp).getD []) :
    pool.inner.Live b ∧ b.blockNumber = blockNumber ∧ b.isWithinTimestamp timestamp = true := by
  unfold BundlePool.bundles at h
  split at h
  next =>
    obtain ⟨hlive, -, hwithin, hnumber⟩ := BundlePoolInner.mem_bundlesAt.mp h
    exact ⟨hlive, hnumber.symm, hwithin⟩
  next => cases h

end BlockBuilder
