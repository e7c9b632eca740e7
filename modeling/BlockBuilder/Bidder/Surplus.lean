import BlockBuilder.Bidder.Bids

/-!
# The surplus and the clock (`crates/payload/src/bidder/policy.rs`)

`LinearSurplusPolicy` weighs its surplus with the part of the bidding window that
has passed, `(offset - time_left) / (offset + 1000)`. The window ends a second
after the slot begins, but the weight is not clamped there: the bidder goes on
with an auction until the next one starts, and the surplus grows past its
maximum (`bid_within_surplus_iff`).

Both sides of the weight go through `U256::from`, and the window is a divisor.
`bid_computed_iff` says which offsets, times and market shares stop the bidder.
-/

namespace BlockBuilder

open BidSelectionPolicy (computeBid)

namespace LinearSurplusPolicy

/-! ## The maximum -/

/-- The surplus does not exceed its maximum: the window has not ended, or what the
end of the window has added is rounded off, or no word exceeds the maximum. -/
def SurplusBounded (policy : LinearSurplusPolicy) (timeLeft : Int) : Prop :=
  -1000 ≤ timeLeft ∨
  (policy.maxBidSurplus.toNat - policy.minBidSurplus.toNat) *
      (policy.offset.toInt - timeLeft).toNat % 2 ^ 256 <
    (policy.maxBidSurplus.toNat - policy.minBidSurplus.toNat + 1) *
      (policy.offset.toInt + 1000).toNat ∨
  policy.maxBidSurplus.toNat = 2 ^ 256 - 1

/-- Within the window the weight is at most one. -/
theorem weight_le (diff : Nat) {window into : Nat} (hpos : 0 < window) (hle : into ≤ window) :
    diff * into % 2 ^ 256 < (diff + 1) * window := by
  have hmod := Nat.mod_le (diff * into) (2 ^ 256)
  have hmul := Nat.mul_le_mul_left diff hle
  rw [Nat.succ_mul]
  omega

theorem surplusBounded_iff {policy : LinearSurplusPolicy} {timeLeft : I128} {surplus : U256}
    (hsurplus : policy.minBidSurplus ≤ policy.maxBidSurplus)
    (hoffset : ¬ policy.offset.slt timeLeft) (h : policy.toBidSurplus timeLeft = .ok surplus) :
    surplus.toNat ≤ policy.maxBidSurplus.toNat ↔ policy.SurplusBounded timeLeft.toInt := by
  obtain ⟨hwindow, htime, hnat⟩ := toBidSurplus_eq_ok hoffset h
  have hmin := BitVec.le_def.mp hsurplus
  have hmax := policy.maxBidSurplus.isLt
  have hpos : 0 < (policy.offset.toInt + 1000).toNat := by omega
  unfold SurplusBounded
  have hquotient := Nat.div_lt_iff_lt_mul (x := (policy.maxBidSurplus.toNat -
    policy.minBidSurplus.toNat) * (policy.offset.toInt - timeLeft.toInt).toNat % 2 ^ 256)
    (y := policy.maxBidSurplus.toNat - policy.minBidSurplus.toNat + 1) hpos
  rw [← hquotient, hnat]
  constructor
  · intro hle
    by_cases hword : policy.maxBidSurplus.toNat = 2 ^ 256 - 1
    · exact .inr (.inr hword)
    · exact .inr (.inl (by omega))
  · intro hbounded
    rcases hbounded with hwithin | hrounded | hword
    · have hinto : (policy.offset.toInt - timeLeft.toInt).toNat ≤
          (policy.offset.toInt + 1000).toNat := by omega
      have hweight := weight_le (policy.maxBidSurplus.toNat - policy.minBidSurplus.toNat) hpos hinto
      rw [← hquotient] at hweight
      omega
    · omega
    · omega

/-- **When a bid is within the maximum surplus**: the value of the block and the
subsidy keep it there, or the surplus does. -/
theorem bid_within_surplus_iff {policy : LinearSurplusPolicy} {info : AuctionBidInfo}
    {bid : U256} (hsurplus : policy.minBidSurplus ≤ policy.maxBidSurplus)
    (h : computeBid policy info = .ok (some bid)) :
    ∃ bs, info.bestBlock = some bs ∧
      (bid.toNat ≤ info.bestAuctionBidValue.toNat + policy.maxBidSurplus.toNat ↔
        (policy.maxBlockSubsidy.toNat + (info.bestBlockValue.toNat - bs.paymentCost)) % 2 ^ 256 ≤
          info.bestAuctionBidValue.toNat + policy.maxBidSurplus.toNat ∨
        policy.SurplusBounded info.auctionTimeLeft.toInt) := by
  obtain ⟨hoffset, bs, surplus, hbs, hsome, rfl, hbest⟩ := computeBid_eq_some h
  refine ⟨bs, hbs, ?_⟩
  rw [← surplusBounded_iff hsurplus hoffset hsome]
  have hcost : (bidTransactionGasFees bs).toNat = bs.paymentCost := bidTransactionGasFees_toNat bs
  have hcap : (policy.maxBlockSubsidy +
      saturatingSub info.bestBlockValue (bidTransactionGasFees bs)).toNat =
      (policy.maxBlockSubsidy.toNat + (info.bestBlockValue.toNat - bs.paymentCost)) % 2 ^ 256 := by
    rw [BitVec.toNat_add, saturatingSub_toNat, hcost]
  -- a bid that is returned is not below the top bid, so that the sum did not wrap
  have hnowrap : (info.bestAuctionBidValue + surplus).toNat =
      info.bestAuctionBidValue.toNat + surplus.toNat := by
    have hle := BitVec.le_def.mp hbest
    rw [wordMin_toNat, BitVec.toNat_add _ surplus] at hle
    have hlt := surplus.isLt
    have hlt' := info.bestAuctionBidValue.isLt
    rw [BitVec.toNat_add]
    omega
  rw [wordMin_toNat, hcap, hnowrap]
  omega

/-- Two seconds into the slot, with a block whose value and subsidy are not enough for more. -/
theorem bid_within_surplus_capped :
    let policy : LinearSurplusPolicy := ⟨1000, 0, 1, 100⟩
    let info := (feeAuction 224090).refreshTime (-2000)
    computeBid policy info = .ok (some 90) ∧
    ∃ bs, info.bestBlock = some bs ∧
      ((90 : U256).toNat ≤ info.bestAuctionBidValue.toNat + policy.maxBidSurplus.toNat ↔
        (policy.maxBlockSubsidy.toNat + (info.bestBlockValue.toNat - bs.paymentCost)) % 2 ^ 256 ≤
          info.bestAuctionBidValue.toNat + policy.maxBidSurplus.toNat ∨
        policy.SurplusBounded info.auctionTimeLeft.toInt) :=
  ⟨by rfl, bid_within_surplus_iff (by decide) (by rfl)⟩

/-- Three seconds into the slot the surplus is twice its maximum. -/
theorem bid_beyond_surplus :
    let policy : LinearSurplusPolicy := ⟨1000, 0, 0, 100⟩
    let info := (feeAuction 1000000).refreshTime (-3000)
    (-1000 : Int) < policy.offset.toInt ∧ policy.minBidSurplus ≤ policy.maxBidSurplus ∧
    computeBid policy info = .ok (some 200) ∧
    ¬ (200 : U256).toNat ≤ info.bestAuctionBidValue.toNat + policy.maxBidSurplus.toNat := by
  refine ⟨by decide, by decide, by rfl, by decide⟩

/-! ## The panics -/

/-- **When a surplus is computed.** A sum or a difference that leaves the signed range
wraps to a negative number, which is not converted. -/
theorem toBidSurplus_computed_iff (policy : LinearSurplusPolicy) {timeLeft : I128}
    (hoffset : ¬ policy.offset.slt timeLeft) :
    (∃ surplus, policy.toBidSurplus timeLeft = .ok surplus) ↔
      -1000 < policy.offset.toInt ∧ policy.offset.toInt + 1000 < 2 ^ 127 ∧
        policy.offset.toInt - timeLeft.toInt < 2 ^ 127 := by
  have htime : timeLeft.toInt ≤ policy.offset.toInt := by
    rw [BitVec.slt_iff_toInt_lt] at hoffset
    omega
  have hthousand : (1000 : I128).toInt = 1000 := rfl
  have hsum := I128.toInt_add_nonneg_iff (x := policy.offset) (y := 1000) (by decide)
  have hdifference := I128.toInt_sub_nonneg_iff htime
  rw [hthousand] at hsum
  constructor
  · intro ⟨surplus, h⟩
    obtain ⟨hwindow, -⟩ := toBidSurplus_eq_ok hoffset h
    unfold toBidSurplus at h
    simp only at h
    split at h
    next => cases h
    next bidWindow hbidWindow =>
      split at h
      next => cases h
      next timeIntoOffset hinto =>
        have hnonneg := hsum.mp ((U256.exists_ofI128_iff _).mp ⟨_, hbidWindow⟩)
        have hnonneg' := hdifference.mp ((U256.exists_ofI128_iff _).mp ⟨_, hinto⟩)
        omega
  · intro ⟨hwindow, hrange, hrange'⟩
    obtain ⟨bidWindow, hbidWindow⟩ := (U256.exists_ofI128_iff _).mpr (hsum.mpr (by omega))
    obtain ⟨timeIntoOffset, hinto⟩ := (U256.exists_ofI128_iff _).mpr (hdifference.mpr hrange')
    have hne : bidWindow ≠ 0 := by
      intro hzero
      have hnat := (U256.ofI128_eq_ok hbidWindow).2
      rw [hzero, I128.toInt_add_of_nonneg (by decide) (hsum.mpr (by omega)), hthousand] at hnat
      simp at hnat
      omega
    unfold toBidSurplus
    simp only [hbidWindow, hinto]
    obtain ⟨quotient, hquotient⟩ := (U256.exists_div_iff (saturatingSub policy.maxBidSurplus
      policy.minBidSurplus * timeIntoOffset) bidWindow).mpr hne
    rw [hquotient]
    exact ⟨_, rfl⟩

theorem new_computed_iff (offset : I128) (monthlySubsidyBudget targetWinningBlocks : UInt64)
    (minBidSurplus maxBidSurplus : UInt64) :
    (∃ policy, LinearSurplusPolicy.new offset monthlySubsidyBudget targetWinningBlocks
        minBidSurplus maxBidSurplus = .ok policy) ↔ targetWinningBlocks ≠ 0 := by
  have hzero : U256.ofU64 targetWinningBlocks = 0 ↔ targetWinningBlocks = 0 := by
    rw [← BitVec.toNat_inj, U256.ofU64_toNat, ← UInt64.toNat_inj]
    rfl
  rw [ne_eq, ← hzero, ← ne_eq, ← U256.exists_div_iff (gweiToWei monthlySubsidyBudget)]
  unfold LinearSurplusPolicy.new
  cases hdiv : U256.div (gweiToWei monthlySubsidyBudget) (U256.ofU64 targetWinningBlocks) with
  | error panic =>
    constructor
    · intro ⟨_, h⟩
      cases h
    · intro ⟨_, h⟩
      cases h
  | ok maxBlockSubsidy => exact ⟨fun _ => ⟨_, rfl⟩, fun _ => ⟨_, rfl⟩⟩

/-- A bid is computed if the surplus is, where it is asked for. -/
theorem computeBid_computed_iff (policy : LinearSurplusPolicy) (info : AuctionBidInfo) :
    (∃ bid, computeBid policy info = .ok bid) ↔
      policy.offset.slt info.auctionTimeLeft = true ∨ info.bestBlock = none ∨
        ∃ surplus, policy.toBidSurplus info.auctionTimeLeft = .ok surplus := by
  unfold computeBid instBidSelectionPolicyLinearSurplusPolicy
  simp only
  split
  next hoffset => exact ⟨fun _ => .inl hoffset, fun _ => ⟨_, rfl⟩⟩
  next hoffset =>
    split
    next bs hbs =>
      cases hsurplus : policy.toBidSurplus info.auctionTimeLeft with
      | error panic =>
        constructor
        · intro ⟨_, h⟩
          cases h
        · intro h
          rcases h with h | h | ⟨_, h⟩
          · exact absurd h hoffset
          · cases hbs.symm.trans h
          · cases h
      | ok surplus =>
        refine ⟨fun _ => .inr (.inr ⟨surplus, rfl⟩), fun _ => ?_⟩
        simp only
        split
        next => exact ⟨_, rfl⟩
        next => exact ⟨_, rfl⟩
    next hnone => exact ⟨fun _ => .inr (.inl hnone), fun _ => ⟨_, rfl⟩⟩

/-- **When a bid is computed**, a division by zero, a conversion of a negative number
and an overflow apart, which ends in such a conversion: the target winning blocks
are not truncated to zero, and once the offset is reached with a block to bid with, it
is later than a second into the slot, and the window and the time into it are `i128`s. -/
theorem bid_computed_iff (offset : I128) (monthlySubsidyBudget targetWinningBlocks : UInt64)
    (minBidSurplus maxBidSurplus : UInt64) (info : AuctionBidInfo) :
    (∃ policy bid, LinearSurplusPolicy.new offset monthlySubsidyBudget targetWinningBlocks
        minBidSurplus maxBidSurplus = .ok policy ∧ computeBid policy info = .ok bid) ↔
      targetWinningBlocks ≠ 0 ∧
        (offset.slt info.auctionTimeLeft = true ∨ info.bestBlock = none ∨
          (-1000 < offset.toInt ∧ offset.toInt + 1000 < 2 ^ 127 ∧
            offset.toInt - info.auctionTimeLeft.toInt < 2 ^ 127)) := by
  have hnew := new_computed_iff offset monthlySubsidyBudget targetWinningBlocks minBidSurplus
    maxBidSurplus
  -- a policy that is made has the offset it was given
  have hpolicy : ∀ policy, LinearSurplusPolicy.new offset monthlySubsidyBudget
      targetWinningBlocks minBidSurplus maxBidSurplus = .ok policy →
      ((∃ bid, computeBid policy info = .ok bid) ↔
        offset.slt info.auctionTimeLeft = true ∨ info.bestBlock = none ∨
          (-1000 < offset.toInt ∧ offset.toInt + 1000 < 2 ^ 127 ∧
            offset.toInt - info.auctionTimeLeft.toInt < 2 ^ 127)) := by
    intro policy h
    have hoffset : policy.offset = offset := by
      unfold LinearSurplusPolicy.new at h
      split at h
      next => cases h
      next =>
        cases h
        rfl
    rw [computeBid_computed_iff, hoffset]
    by_cases hreached : offset.slt info.auctionTimeLeft = true
    · exact iff_of_true (.inl hreached) (.inl hreached)
    · rw [toBidSurplus_computed_iff policy (by rwa [hoffset]), hoffset]
  constructor
  · intro ⟨policy, bid, h, hbid⟩
    exact ⟨hnew.mp ⟨policy, h⟩, (hpolicy policy h).mp ⟨bid, hbid⟩⟩
  · intro ⟨hblocks, hcomputed⟩
    obtain ⟨policy, h⟩ := hnew.mpr hblocks
    obtain ⟨bid, hbid⟩ := (hpolicy policy h).mpr hcomputed
    exact ⟨policy, bid, h, hbid⟩

/-- A market share of less than a block a month stops the constructor, and an offset of
a second into the slot stops the bid. -/
theorem bid_not_computed :
    (LinearSurplusPolicy.new 1000 5 0 1 2).toOption.isNone = true ∧
    (LinearSurplusPolicy.new (-1000) 5 200000 1 2).toOption.isSome = true ∧
    ((LinearSurplusPolicy.new (-1000) 5 200000 1 2).toOption.map fun policy =>
        (computeBid policy ((feeAuction 1000000).refreshTime (-1500))).toOption.isNone) =
      some true := by
  decide

end LinearSurplusPolicy

end BlockBuilder
