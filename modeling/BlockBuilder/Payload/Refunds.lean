import BlockBuilder.Payload.Revenue

/-!
# What a refund leaves (`crates/bundles/src/bundle.rs`, `strategy/state/bundle.rs`)

A refund is a share of what one transaction of a bundle is worth, after the
cost of the transfer that pays it. So it should never cost more than the bundle
brings in.

The cost is a product of two `u64`s that is widened afterwards. Where the product
fits, every refund is covered; where it wraps, the refund is a share of what is
left after too small a cost (`refund_safe_iff`).
-/

namespace BlockBuilder

/-- The refund of a transaction, in numbers; only its cost wraps. -/
theorem BundleRefund.refundAmount_toNat (r : BundleRefund) (fees coinbaseTransfer : U256)
    (baseFee : UInt64) :
    (r.refundAmount fees coinbaseTransfer baseFee).toNat =
      min ((min (fees.toNat + coinbaseTransfer.toNat) (2 ^ 256 - 1) -
        MAX_BUILDER_TRANSFER_GAS_LIMIT.toNat * baseFee.toNat % 2 ^ 64) * r.percent.toNat)
        (2 ^ 256 - 1) / 100 := by
  unfold refundAmount
  rw [BitVec.toNat_udiv, saturatingMul_toNat, saturatingSub_toNat, saturatingAdd_toNat,
    U256.ofU64_toNat, U256.ofU64_toNat, UInt64.toNat_mul]
  rfl

/-- At most the percentage that was asked for. -/
theorem BundleRefund.refundAmount_share (r : BundleRefund) (fees coinbaseTransfer : U256)
    (baseFee : UInt64) :
    100 * (r.refundAmount fees coinbaseTransfer baseFee).toNat ≤
      r.percent.toNat * (fees.toNat + coinbaseTransfer.toNat) := by
  rw [refundAmount_toNat]
  have hvalue : min (fees.toNat + coinbaseTransfer.toNat) (2 ^ 256 - 1) -
      MAX_BUILDER_TRANSFER_GAS_LIMIT.toNat * baseFee.toNat % 2 ^ 64 ≤
      fees.toNat + coinbaseTransfer.toNat := by omega
  have hshare := Nat.mul_le_mul_right r.percent.toNat hvalue
  rw [Nat.mul_comm r.percent.toNat]
  refine Nat.le_trans (Nat.mul_div_le _ 100) ?_
  exact Nat.le_trans (Nat.min_le_left ..) hshare

/-- A refund at a cost that does not wrap is paid out of what the transaction is worth. -/
theorem BundleRefund.refundAmount_covered {r : BundleRefund} (hpercent : r.percent.toNat ≤ 100)
    (fees coinbaseTransfer : U256) {baseFee : UInt64}
    (hcost : MAX_BUILDER_TRANSFER_GAS_LIMIT.toNat * baseFee.toNat < 2 ^ 64) :
    r.refundAmount fees coinbaseTransfer baseFee = 0 ∨
      (r.refundAmount fees coinbaseTransfer baseFee).toNat +
          MAX_BUILDER_TRANSFER_GAS_LIMIT.toNat * baseFee.toNat ≤
        fees.toNat + coinbaseTransfer.toNat := by
  have hnat := r.refundAmount_toNat fees coinbaseTransfer baseFee
  rw [Nat.mod_eq_of_lt hcost] at hnat
  generalize MAX_BUILDER_TRANSFER_GAS_LIMIT.toNat * baseFee.toNat = cost at hnat ⊢
  have hshare := Nat.mul_le_mul_left
    (min (fees.toNat + coinbaseTransfer.toNat) (2 ^ 256 - 1) - cost) hpercent
  have hleft : (r.refundAmount fees coinbaseTransfer baseFee).toNat ≤
      min (fees.toNat + coinbaseTransfer.toNat) (2 ^ 256 - 1) - cost := by
    rw [hnat]
    refine Nat.div_le_of_le_mul ?_
    rw [Nat.mul_comm 100]
    exact Nat.le_trans (Nat.min_le_left ..) hshare
  by_cases hzero : r.refundAmount fees coinbaseTransfer baseFee = 0
  · exact .inl hzero
  · have hpos : (r.refundAmount fees coinbaseTransfer baseFee).toNat ≠ 0 := fun h =>
      hzero (BitVec.eq_of_toNat_eq h)
    exact .inr (by omega)

/-! ## The sums of a bundle -/

/-- A transaction of a bundle is worth no more than the bundle. -/
theorem le_totalValue {s : SimulatedTransaction} : ∀ {sims : List SimulatedTransaction},
    s ∈ sims → s.outcome.fees.toNat + s.outcome.coinbaseTransfer.toNat ≤ totalValue sims
  | [], h => by cases h
  | x :: xs, h => by
    rw [totalValue_cons]
    rcases List.mem_cons.mp h with rfl | hmem
    · omega
    · have ih := le_totalValue hmem
      omega

/-- Sums that fit are exact. -/
theorem sums_toNat : ∀ {sims : List SimulatedTransaction}, totalValue sims < 2 ^ 256 →
    (feeSum sims).toNat + (transferSum sims).toNat = totalValue sims
  | [], _ => rfl
  | x :: xs, h => by
    rw [totalValue_cons] at h ⊢
    have ih := @sums_toNat xs (by omega)
    rw [feeSum_cons, transferSum_cons, BitVec.toNat_add, BitVec.toNat_add]
    omega

namespace BundleSimulationOutcome

theorem fromTxsLoop_reverted {bundle : RecoveredBundle} :
    ∀ {sims : List SimulatedTransaction} {index : Nat} {acc : BundleSimulationOutcome},
      (∀ s ∈ sims, disallowedRevert bundle s = false) →
      (fromTxsLoop bundle index acc sims).reverted = acc.reverted
  | [], _, _, _ => rfl
  | s :: sims, index, acc, h => by
    unfold fromTxsLoop
    rw [h s List.mem_cons_self]
    exact fromTxsLoop_reverted fun x hx => h x (List.mem_cons_of_mem s hx)

end BundleSimulationOutcome

/-! ## Refunds -/

open BundleSimulationOutcome (disallowedRevert)

/-- What a refund leaves: it is zero, or the bundle is worth at least the refund and the
transfer that pays it, by its exact sums and, where these fit, by `total_value`; it is
zero without a transaction at its index; and it is at most the percentage of what that
transaction is worth. -/
structure RefundSafe (bundle : RecoveredBundle) (sims : List SimulatedTransaction)
    (baseFee : UInt64) : Prop where
  covered : (SimulatedBundle.new bundle sims baseFee).outcome.refund = 0 ∨
    (SimulatedBundle.new bundle sims baseFee).outcome.refund.toNat +
      MAX_BUILDER_TRANSFER_GAS_LIMIT.toNat * baseFee.toNat ≤ totalValue sims
  valued : totalValue sims < 2 ^ 256 →
    (SimulatedBundle.new bundle sims baseFee).outcome.refund = 0 ∨
    MAX_BUILDER_TRANSFER_GAS_LIMIT.toNat * baseFee.toNat ≤
      (SimulatedBundle.new bundle sims baseFee).outcome.totalValue.toNat
  outOfRange : (∀ index, bundle.refundIndex = some index → sims.length ≤ index) →
    (SimulatedBundle.new bundle sims baseFee).outcome.refund = 0
  share : ∀ refund index s, bundle.refund = some refund → bundle.refundIndex = some index →
    sims[index]? = some s →
    100 * (SimulatedBundle.new bundle sims baseFee).outcome.refund.toNat ≤
      refund.percent.toNat * (s.outcome.fees.toNat + s.outcome.coinbaseTransfer.toNat)

/-- **A cost that fits makes every refund safe.** -/
theorem refundSafe_of_fits {bundle : RecoveredBundle} {sims : List SimulatedTransaction}
    {baseFee : UInt64} (hpercent : ∀ refund, bundle.refund = some refund → refund.percent.toNat ≤ 100)
    (hallowed : ∀ s ∈ sims, disallowedRevert bundle s = false)
    (hcost : MAX_BUILDER_TRANSFER_GAS_LIMIT.toNat * baseFee.toNat < 2 ^ 64) :
    RefundSafe bundle sims baseFee := by
  have hrefund : (SimulatedBundle.new bundle sims baseFee).outcome.refund =
      SimulatedBundle.calculateRefund bundle sims baseFee := rfl
  have hcovered : (SimulatedBundle.new bundle sims baseFee).outcome.refund = 0 ∨
      (SimulatedBundle.new bundle sims baseFee).outcome.refund.toNat +
        MAX_BUILDER_TRANSFER_GAS_LIMIT.toNat * baseFee.toNat ≤ totalValue sims := by
    rw [hrefund]
    unfold SimulatedBundle.calculateRefund
    split
    next => exact .inl rfl
    next refund hsome =>
      split
      next => exact .inl rfl
      next s hs =>
        obtain ⟨index, -, hindex⟩ := Option.bind_eq_some_iff.mp hs
        have hle := le_totalValue (List.mem_of_getElem? hindex)
        rcases BundleRefund.refundAmount_covered (hpercent refund hsome) s.outcome.fees
          s.outcome.coinbaseTransfer hcost with hzero | hpaid
        · exact .inl hzero
        · exact .inr (Nat.le_trans hpaid hle)
  refine ⟨hcovered, fun hfits => ?_, fun hrange => ?_, fun refund index s hsome hindex hs => ?_⟩
  · rcases hcovered with hzero | hpaid
    · exact .inl hzero
    · right
      have hcomplete := (@BundleSimulationOutcome.fromTxs_complete bundle sims
        (BundleSimulationOutcome.fromTxsLoop_reverted hallowed)).2
      have hsums := sums_toNat hfits
      have houtcome : (SimulatedBundle.new bundle sims baseFee).outcome.totalValue =
          saturatingSub (saturatingAdd (feeSum sims) (transferSum sims))
            (SimulatedBundle.new bundle sims baseFee).outcome.refund := by
        unfold BundleSimulationOutcome.totalValue SimulatedBundle.new
        rw [hcomplete]
      rw [houtcome, saturatingSub_toNat, saturatingAdd_toNat, hsums]
      omega
  · rw [hrefund]
    unfold SimulatedBundle.calculateRefund
    split
    next => rfl
    next =>
      split
      next => rfl
      next s hs =>
        obtain ⟨index, hindex, hget⟩ := Option.bind_eq_some_iff.mp hs
        have hlt := (List.getElem?_eq_some_iff.mp hget).1
        have hle := hrange index hindex
        omega
  · rw [hrefund]
    unfold SimulatedBundle.calculateRefund
    rw [hsome, hindex]
    simp only [Option.bind_some, hs]
    exact refund.refundAmount_share s.outcome.fees s.outcome.coinbaseTransfer baseFee

/-! ## A cost that wraps -/

/-- A transfer that pays `fees`. -/
def payingTransfer (fees : U256) : SimulatedTransaction :=
  ⟨TransferChain.transfer 1 0 2 5 10 21000, ⟨.success 21000 [], [], 21000, 0, fees, 0⟩⟩

/-- It alone in a bundle that asks for all of it back. -/
def refundedBundle : RecoveredBundle :=
  ⟨[TransferChain.transfer 1 0 2 5 10 21000], [], BundleRefund.new (some 100) (some 0) none⟩

theorem payingTransfer_allowed (fees : U256) :
    ∀ s ∈ [payingTransfer fees], disallowedRevert refundedBundle s = false := by
  intro s hs
  rw [List.mem_singleton.mp hs]
  rfl

/-- Fees just above a cost that wrapped are refunded, at a loss. -/
theorem not_refundSafe_of_wraps {baseFee : UInt64}
    (hcost : 2 ^ 64 ≤ MAX_BUILDER_TRANSFER_GAS_LIMIT.toNat * baseFee.toNat) :
    ∃ fees, ¬ RefundSafe refundedBundle [payingTransfer fees] baseFee := by
  have hmod := Nat.mod_lt (MAX_BUILDER_TRANSFER_GAS_LIMIT.toNat * baseFee.toNat)
    (Nat.two_pow_pos 64)
  refine ⟨BitVec.ofNat 256 (MAX_BUILDER_TRANSFER_GAS_LIMIT.toNat * baseFee.toNat % 2 ^ 64 + 1),
    fun hsafe => ?_⟩
  generalize hfees : BitVec.ofNat 256
    (MAX_BUILDER_TRANSFER_GAS_LIMIT.toNat * baseFee.toNat % 2 ^ 64 + 1) = fees at hsafe
  have hnat : fees.toNat = MAX_BUILDER_TRANSFER_GAS_LIMIT.toNat * baseFee.toNat % 2 ^ 64 + 1 := by
    rw [← hfees, BitVec.toNat_ofNat]
    omega
  have hone : (SimulatedBundle.new refundedBundle [payingTransfer fees]
      baseFee).outcome.refund.toNat = 1 := by
    show (BundleRefund.refundAmount ⟨100, some 0, none⟩ fees 0 baseFee).toNat = 1
    rw [BundleRefund.refundAmount_toNat, hnat]
    show min ((min (_ + 1 + 0) _ - _) * 100) _ / 100 = 1
    omega
  have hworth : totalValue [payingTransfer fees] = fees.toNat := rfl
  rcases hsafe.covered with hzero | hpaid
  · rw [hzero] at hone
    cases hone
  · rw [hone, hworth, hnat] at hpaid
    omega

end BlockBuilder
