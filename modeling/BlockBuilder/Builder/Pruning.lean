import BlockBuilder.Builder.Service
import BlockBuilder.Bundles.Queries
import BlockBuilder.Payload.TransferSlot

/-!
# What pruning may remove

A prune before the build of block `b` at time `t` should leave every bundle that
can still be used: no query for `b` or a later block, at `t` or a later time,
should see a difference.

`prune` is told the block and the time of the slot before. A bundle whose window
has closed by then, or whose block is older, is of no use to anyone. But a
bundle is also out of bounds before its window opens, so one that opens after
`t - 12` is removed while it still waits. `prune_spares_iff` says that this is
the only way a prune does harm.
-/

namespace BlockBuilder

open Lib (run)

/-- A bundle for block `b` or a later one whose window opens after the time a
prune looks at, and holds a time from `t` on. -/
structure Waiting (blockNumber timestamp : UInt64) (b : Bundle) : Prop where
  block : blockNumber ≤ b.blockNumber
  opens : ∃ minTs, b.minTimestamp = some minTs ∧ timestamp - 12 < minTs
  window : ∃ ts, timestamp ≤ ts ∧ b.isWithinTimestamp ts = true

/-- Of the bundles that can still be used, those that wait are pruned and no others. -/
theorem isPrunable_iff_opens {b : Bundle} {blockNumber timestamp ts : UInt64}
    (hblockNumber : 1 ≤ blockNumber) (htimestamp : 12 ≤ timestamp)
    (hblock : blockNumber ≤ b.blockNumber) (hts : timestamp ≤ ts)
    (hwithin : b.isWithinTimestamp ts = true) :
    b.isPrunable (blockNumber - 1) (timestamp - 12) = true ↔
      ∃ minTs, b.minTimestamp = some minTs ∧ timestamp - 12 < minTs := by
  have hold : ¬ b.blockNumber < blockNumber - 1 := by
    rw [UInt64.lt_iff_toNat_lt, UInt64.toNat_sub_of_le _ _ hblockNumber]
    have := UInt64.le_iff_toNat_le.mp hblock
    omega
  have hbefore : timestamp - 12 ≤ ts := by
    rw [UInt64.le_iff_toNat_le, UInt64.toNat_sub_of_le _ _ htimestamp]
    have := UInt64.le_iff_toNat_le.mp hts
    omega
  -- the window is still open at `ts`, so it had not closed at the time of the prune
  have hclosed : b.maxTimestamp.any (fun maxTs => maxTs < timestamp - 12) = false := by
    unfold Bundle.isWithinTimestamp at hwithin
    cases hmax : b.maxTimestamp with
    | none => rfl
    | some maxTs =>
      rw [hmax] at hwithin
      simp only [Option.all_some, Bool.and_eq_true, decide_eq_true_eq] at hwithin
      simp only [Option.any_some, decide_eq_false_iff_not, UInt64.not_lt]
      exact UInt64.le_trans hbefore hwithin.2
  unfold Bundle.isPrunable Bundle.isTimestampOutOfBounds
  rw [hclosed]
  simp only [hold, decide_false, Bool.or_false, Option.any_eq_true, decide_eq_true_eq]

/-- **What a prune may remove.** After any history of the pool, the prune for a
build leaves every query for its block and time, and for later ones, as it was,
if and only if it does not get the lock or no bundle of the pool is waiting. -/
theorem prune_spares_iff (ops : List PoolOp) (configs : BuildConfig) (acquired : Bool)
    (hblockNumber : 1 ≤ configs.blockNumber) (htimestamp : 12 ≤ configs.attributes.timestamp) :
    (∀ n ts, configs.blockNumber ≤ n → configs.attributes.timestamp ≤ ts →
      (BlockBuilderService.pruneBundlePool configs ⟨run PoolOp.apply .new ops⟩ acquired).bundles
          true n ts =
        BundlePool.bundles ⟨run PoolOp.apply .new ops⟩ true n ts) ↔
      (acquired = true → ∀ b, (run PoolOp.apply .new ops).Live b →
        ¬ Waiting configs.blockNumber configs.attributes.timestamp b) := by
  have hindexed := indexed_run ops
  generalize run PoolOp.apply .new ops = p at hindexed ⊢
  cases acquired with
  | false => exact ⟨fun _ h => absurd h (by simp), fun _ _ _ _ _ => rfl⟩
  | true =>
    have hquery (n ts : UInt64) :
        (BlockBuilderService.pruneBundlePool configs ⟨p⟩ true).bundles true n ts =
            BundlePool.bundles ⟨p⟩ true n ts ↔
          ∀ b ∈ p.bundlesAt n ts,
            b.isPrunable (configs.blockNumber - 1) (configs.attributes.timestamp - 12) = false := by
      show some ((p.prune _ _).2.bundlesAt n ts) = some (p.bundlesAt n ts) ↔ _
      rw [Option.some.injEq, BundlePoolInner.bundlesAt_prune, List.filter_eq_self]
      simp
    simp only [hquery, true_implies]
    constructor
    · intro hspared b hlive hwaiting
      obtain ⟨hblock, hopens, ts, hts, hwithin⟩ := hwaiting
      have hmem : b ∈ p.bundlesAt b.blockNumber ts :=
        BundlePoolInner.mem_bundlesAt.mpr ⟨hlive, hindexed b hlive, hwithin, rfl⟩
      have hkept := hspared b.blockNumber ts hblock hts b hmem
      rw [(isPrunable_iff_opens hblockNumber htimestamp hblock hts hwithin).mpr hopens] at hkept
      cases hkept
    · intro hnone n ts hn hts b hmem
      obtain ⟨hlive, _, hwithin, rfl⟩ := BundlePoolInner.mem_bundlesAt.mp hmem
      rw [← Bool.not_eq_true]
      intro hprunable
      have hopens :=
        (isPrunable_iff_opens hblockNumber htimestamp hn hts hwithin).mp hprunable
      exact hnone b hlive ⟨hn, hopens, ts, hts, hwithin⟩

/-- A bundle for block 11 that opens at a given time. -/
def openingBundle (minTimestamp : UInt64) : Bundle :=
  { transferBundle 1 [] none with minTimestamp := some minTimestamp }

/-- The configuration of the build of block 11 at time 112. -/
def transferConfigs : BuildConfig :=
  (transferArguments (transferProposer 5 30000000) 4 [] []).buildConfig

/-- A bundle that has opened by the time of the slot before is spared. -/
theorem prune_spares_opened :
    1 ≤ transferConfigs.blockNumber ∧ 12 ≤ transferConfigs.attributes.timestamp ∧
    ∀ n ts, transferConfigs.blockNumber ≤ n → transferConfigs.attributes.timestamp ≤ ts →
    (BlockBuilderService.pruneBundlePool transferConfigs
        ⟨run PoolOp.apply .new [.add (openingBundle 100)]⟩ true).bundles true n ts =
      BundlePool.bundles ⟨run PoolOp.apply .new [.add (openingBundle 100)]⟩ true n ts := by
  have hblockNumber : 1 ≤ transferConfigs.blockNumber := by decide
  have htimestamp : 12 ≤ transferConfigs.attributes.timestamp := by decide
  refine ⟨hblockNumber, htimestamp, (prune_spares_iff [.add (openingBundle 100)] transferConfigs
    true hblockNumber htimestamp).mpr fun _ b hlive hwaiting => ?_⟩
  obtain ⟨_, ⟨minTs, hmin, hopens⟩, _⟩ := hwaiting
  rcases (BundlePoolInner.live_addBundle .new (openingBundle 100) b).mp hlive with rfl | ⟨_, hold⟩
  · cases hmin
    exact absurd hopens (by decide)
  · have hnew := ((BundlePoolInner.live_replaced .new (openingBundle 100) b).mp hold).1
    exact BundlePoolInner.not_live_new b hnew

/-- A bundle that opens at the time of the block itself is removed before the block is built. -/
theorem waiting_bundle_pruned :
    1 ≤ transferConfigs.blockNumber ∧ 12 ≤ transferConfigs.attributes.timestamp ∧
    BundlePool.bundles ⟨run PoolOp.apply .new [.add (openingBundle 112)]⟩ true 11 112 =
      some [openingBundle 112] ∧
    (BlockBuilderService.pruneBundlePool transferConfigs
      ⟨run PoolOp.apply .new [.add (openingBundle 112)]⟩ true).bundles true 11 112 = some [] := by
  decide

end BlockBuilder
