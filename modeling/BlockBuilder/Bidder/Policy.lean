import BlockBuilder.Payload.BuildState

/-!
# Bid policies (`crates/payload/src/bidder/policy.rs`)

What the bidder knows of the auction of a slot, and the three policies that make
a bid of it. `BidSelectionPolicy` is the trait; `is_better_block_value` is a
provided method that no policy overrides, so it is a function here.

Mirroring notes:
- `auction_time_left` and `offset` are signed milliseconds. Their sum and
  difference wrap, and `U256::from` panics on a negative result, as does a
  division by zero: `computeBid` is an `Except Panic`.
- ruint's `+` and `*` on `U256` wrap.
- `LinearSurplusPolicy::new` multiplies the market share, a float, by the blocks
  of a month and truncates the product. Here the number of target winning blocks
  that comes of it is an argument.
-/

namespace BlockBuilder

def GWEI_TO_WEI : UInt64 := 1000000000

/-- Converts GWEI values to WEI. -/
def gweiToWei (value : UInt64) : U256 := U256.ofU64 value * U256.ofU64 GWEI_TO_WEI

/-! ## The auction of a slot -/

structure AuctionBidInfo where
  slot : UInt64
  blockNumber : UInt64
  auctionTimeLeft : I128
  bidCount : UInt64
  bestBlock : Option BuildState
  bestBlockValue : U256
  bestBidValue : U256
  lastBidValue : U256
  bestAuctionBidValue : U256
  lastAuctionBidValue : U256

namespace AuctionBidInfo

/-- New bid state for a slot. -/
def new (slot blockNumber : UInt64) : AuctionBidInfo where
  slot := slot
  blockNumber := blockNumber
  auctionTimeLeft := 12000
  bidCount := 0
  bestBlock := none
  bestBlockValue := 0
  bestBidValue := 0
  lastBidValue := 0
  bestAuctionBidValue := 0
  lastAuctionBidValue := 0

def refreshTime (info : AuctionBidInfo) (timeLeft : I128) : AuctionBidInfo :=
  { info with auctionTimeLeft := timeLeft }

/-- Update block parameters for a new build state. -/
def updateBlockInfo (info : AuctionBidInfo) (buildState : BuildState) (blockValue : U256) :
    AuctionBidInfo :=
  if info.bestBlockValue ≤ blockValue then
    { info with bestBlock := some buildState, bestBlockValue := blockValue }
  else info

/-- Update bid parameters for a new bid. -/
def updateBidInfo (info : AuctionBidInfo) (bid : U256) : AuctionBidInfo :=
  { info with
    bidCount := info.bidCount + 1
    bestBidValue := wordMax info.bestBidValue bid
    lastBidValue := bid }

/-- Update auction bid parameters for a new bid. -/
def updateAuctionBidInfo (info : AuctionBidInfo) (bid : U256) : AuctionBidInfo :=
  { info with
    bestAuctionBidValue := wordMax info.bestAuctionBidValue bid
    lastAuctionBidValue := bid }

end AuctionBidInfo

/-! ## Policies -/

class BidSelectionPolicy (P : Type) where
  /-- Block value for this policy. -/
  blockValue : P → ExecutionDetails → U256
  /-- Bid value with the current auction information. -/
  computeBid : P → AuctionBidInfo → Except Panic (Option U256)

open BidSelectionPolicy (blockValue computeBid)

/-- Whether new execution details are better than the current best ones. -/
def isBetterBlockValue {P : Type} [BidSelectionPolicy P] (policy : P)
    (best new : ExecutionDetails) : Bool :=
  blockValue policy best < blockValue policy new

/-- The cost of the bid payment transaction. -/
def bidTransactionGasFees (bestBlock : BuildState) : U256 :=
  U256.ofU64 bestBlock.buildConfig.basefee * U256.ofU64 MAX_BUILDER_TRANSFER_GAS_LIMIT

/-- Bids the whole value of a block, as soon as the offset is reached. -/
structure NoProfitPolicy where
  offset : I128

instance : BidSelectionPolicy NoProfitPolicy where
  blockValue _ details := details.sumFees + details.sumCoinbaseTransfers
  computeBid policy info :=
    if policy.offset.slt info.auctionTimeLeft then .ok none
    else
      match info.bestBlock with
      | some bestBlock =>
        .ok (some (saturatingSub info.bestBlockValue (bidTransactionGasFees bestBlock)))
      | none => .ok none

/-- Outbids the top bid by a surplus that grows linearly with the time after the
offset, up to the value of the block and a subsidy. -/
structure LinearSurplusPolicy where
  offset : I128
  maxBlockSubsidy : U256
  minBidSurplus : U256
  maxBidSurplus : U256

/-- Create new policy. -/
def LinearSurplusPolicy.new (offset : I128) (monthlySubsidyBudget targetWinningBlocks : UInt64)
    (minBidSurplus maxBidSurplus : UInt64) : Except Panic LinearSurplusPolicy :=
  match U256.div (gweiToWei monthlySubsidyBudget) (U256.ofU64 targetWinningBlocks) with
  | .error panic => .error panic
  | .ok maxBlockSubsidy =>
    .ok
      { offset := offset
        maxBlockSubsidy := maxBlockSubsidy
        minBidSurplus := gweiToWei minBidSurplus
        maxBidSurplus := gweiToWei maxBidSurplus }

/-- The surplus at a time in the bidding window. -/
def LinearSurplusPolicy.toBidSurplus (policy : LinearSurplusPolicy) (timeLeft : I128) :
    Except Panic U256 :=
  let bidSurplusDiff := saturatingSub policy.maxBidSurplus policy.minBidSurplus
  match U256.ofI128 (policy.offset + 1000) with
  | .error panic => .error panic
  | .ok bidWindow =>
    match U256.ofI128 (policy.offset - timeLeft) with
    | .error panic => .error panic
    | .ok timeIntoOffset =>
      match U256.div (bidSurplusDiff * timeIntoOffset) bidWindow with
      | .error panic => .error panic
      | .ok surplus => .ok (saturatingAdd surplus policy.minBidSurplus)

instance : BidSelectionPolicy LinearSurplusPolicy where
  blockValue _ details := details.sumFees + details.sumCoinbaseTransfers
  computeBid policy info :=
    if policy.offset.slt info.auctionTimeLeft then .ok none
    else
      match info.bestBlock with
      | some bestBlock =>
        let totalValue := saturatingSub info.bestBlockValue (bidTransactionGasFees bestBlock)
        match policy.toBidSurplus info.auctionTimeLeft with
        | .error panic => .error panic
        | .ok toBidSurplus =>
          let toBidValue := info.bestAuctionBidValue + toBidSurplus
          let maxBidValue := policy.maxBlockSubsidy + totalValue
          let bidValue := wordMin maxBidValue toBidValue
          if bidValue < info.bestAuctionBidValue then .ok none else .ok (some bidValue)
      | none => .ok none

/-- Bids the value of the best block, for every build received. -/
structure DevnetPolicy where

instance : BidSelectionPolicy DevnetPolicy where
  blockValue _ details := details.sumFees + details.sumCoinbaseTransfers
  computeBid _ info := .ok (some info.bestBlockValue)

inductive BidSelectionPolicies where
  | noProfitPolicy (policy : NoProfitPolicy)
  | linearSurplusPolicy (policy : LinearSurplusPolicy)
  | devnetPolicy (policy : DevnetPolicy)

instance : BidSelectionPolicy BidSelectionPolicies where
  blockValue
    | .noProfitPolicy policy => blockValue policy
    | .linearSurplusPolicy policy => blockValue policy
    | .devnetPolicy policy => blockValue policy
  computeBid
    | .noProfitPolicy policy => computeBid policy
    | .linearSurplusPolicy policy => computeBid policy
    | .devnetPolicy policy => computeBid policy

/-! ## What a bid is -/

theorem bidTransactionGasFees_toNat (bs : BuildState) :
    (bidTransactionGasFees bs).toNat = bs.buildConfig.basefee.toNat * 32000 := by
  have hbasefee := bs.buildConfig.basefee.toNat_lt
  have hgas : MAX_BUILDER_TRANSFER_GAS_LIMIT.toNat = 32000 := rfl
  unfold bidTransactionGasFees
  rw [BitVec.toNat_mul, U256.ofU64_toNat, U256.ofU64_toNat, hgas]
  exact Nat.mod_eq_of_lt (by omega)

theorem NoProfitPolicy.computeBid_eq_some {policy : NoProfitPolicy} {info : AuctionBidInfo}
    {bid : U256} (h : computeBid policy info = .ok (some bid)) :
    ¬ policy.offset.slt info.auctionTimeLeft ∧ ∃ bs, info.bestBlock = some bs ∧
      bid = saturatingSub info.bestBlockValue (bidTransactionGasFees bs) := by
  unfold computeBid instBidSelectionPolicyNoProfitPolicy at h
  simp only at h
  split at h
  next => cases h
  next hoffset =>
    split at h
    next bs hbs =>
      cases h
      exact ⟨hoffset, bs, hbs, rfl⟩
    next => cases h

theorem LinearSurplusPolicy.computeBid_eq_some {policy : LinearSurplusPolicy}
    {info : AuctionBidInfo} {bid : U256} (h : computeBid policy info = .ok (some bid)) :
    ¬ policy.offset.slt info.auctionTimeLeft ∧ ∃ bs surplus, info.bestBlock = some bs ∧
      policy.toBidSurplus info.auctionTimeLeft = .ok surplus ∧
      bid = wordMin (policy.maxBlockSubsidy +
        saturatingSub info.bestBlockValue (bidTransactionGasFees bs))
        (info.bestAuctionBidValue + surplus) ∧
      info.bestAuctionBidValue ≤ bid := by
  unfold computeBid instBidSelectionPolicyLinearSurplusPolicy at h
  simp only at h
  split at h
  next => cases h
  next hoffset =>
    split at h
    next bs hbs =>
      split at h
      next => cases h
      next surplus hsurplus =>
        split at h
        next => cases h
        next hbest =>
          cases h
          exact ⟨hoffset, bs, surplus, hbs, hsurplus, rfl, BitVec.not_lt.mp hbest⟩
    next => cases h

/-- A surplus that is computed at all is computed on exact times, in a window
that is not empty; only the product of the weight wraps. -/
theorem LinearSurplusPolicy.toBidSurplus_eq_ok {policy : LinearSurplusPolicy} {timeLeft : I128}
    {surplus : U256} (hoffset : ¬ policy.offset.slt timeLeft)
    (h : policy.toBidSurplus timeLeft = .ok surplus) :
    0 < policy.offset.toInt + 1000 ∧ timeLeft.toInt ≤ policy.offset.toInt ∧
      surplus.toNat = min
        ((policy.maxBidSurplus.toNat - policy.minBidSurplus.toNat) *
            (policy.offset.toInt - timeLeft.toInt).toNat % 2 ^ 256 /
          (policy.offset.toInt + 1000).toNat + policy.minBidSurplus.toNat)
        (2 ^ 256 - 1) := by
  have htime : timeLeft.toInt ≤ policy.offset.toInt := by
    rw [BitVec.slt_iff_toInt_lt] at hoffset
    omega
  unfold toBidSurplus at h
  simp only at h
  split at h
  next => cases h
  next bidWindow hwindow =>
    split at h
    next => cases h
    next timeIntoOffset hinto =>
      split at h
      next => cases h
      next quotient hquotient =>
        cases h
        obtain ⟨hwindowNonneg, hwindowEq⟩ := U256.ofI128_eq_ok hwindow
        obtain ⟨hintoNonneg, hintoEq⟩ := U256.ofI128_eq_ok hinto
        obtain ⟨hne, hdiv⟩ := U256.div_eq_ok hquotient
        -- a sum or a difference that wrapped would have been negative
        have hthousand : (1000 : I128).toInt = 1000 := rfl
        have hsum := I128.toInt_add_of_nonneg (hthousand ▸ (by decide : (0 : Int) ≤ 1000))
          hwindowNonneg
        have hdifference := I128.toInt_sub_of_nonneg htime hintoNonneg
        rw [hsum, hthousand] at hwindowEq
        rw [hdifference] at hintoEq
        have hwindowNat : bidWindow.toNat = (policy.offset.toInt + 1000).toNat := by omega
        have hintoNat :
            timeIntoOffset.toNat = (policy.offset.toInt - timeLeft.toInt).toNat := by omega
        refine ⟨?_, htime, ?_⟩
        · have hzero : bidWindow.toNat ≠ 0 := fun h0 => hne (BitVec.eq_of_toNat_eq h0)
          omega
        · rw [saturatingAdd_toNat, hdiv, BitVec.toNat_mul, saturatingSub_toNat, hwindowNat,
            hintoNat]

end BlockBuilder
