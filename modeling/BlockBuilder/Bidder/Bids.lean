import BlockBuilder.Bidder.Policy
import BlockBuilder.Payload.TransferSlot

/-!
# What a bid may cost, and how bids move

A bid is paid by a transaction the builder pays for, so a bid `b` costs
`b + 32000 * basefee`. The policies take that cost from the value of the block
with a saturating subtraction: a block that is not worth the payment counts as
worth nothing, and not as a loss. `bid_within_subsidy_iff` says exactly which
bids stay within the value and the subsidy.

Within one auction the best block and the top bid only grow and the time only
runs down. `Later` is that order, every operation of an auction goes up in it,
and the bid of `LinearSurplusPolicy` is monotone in it.
-/

namespace BlockBuilder

open Lib (run Along run_induct along_append run_append)
open BidSelectionPolicy (blockValue computeBid)

/-! ## What a bid may cost -/

/-- What the bid payment transaction of a block may cost. -/
def BuildState.paymentCost (bs : BuildState) : Nat :=
  bs.buildConfig.basefee.toNat * MAX_BUILDER_TRANSFER_GAS_LIMIT.toNat

/-- The top bid and the surplus at this time of the bidding window. The weighted
product and the outer sum wrap, the inner sum saturates. -/
def LinearSurplusPolicy.outbid (policy : LinearSurplusPolicy) (info : AuctionBidInfo) : Nat :=
  (info.bestAuctionBidValue.toNat + min
    ((policy.maxBidSurplus.toNat - policy.minBidSurplus.toNat) *
        (policy.offset.toInt - info.auctionTimeLeft.toInt).toNat % 2 ^ 256 /
      (policy.offset.toInt + 1000).toNat + policy.minBidSurplus.toNat)
    (2 ^ 256 - 1)) % 2 ^ 256

/-- **The bid of `LinearSurplusPolicy`, in numbers.** -/
theorem LinearSurplusPolicy.bid_toNat {policy : LinearSurplusPolicy} {info : AuctionBidInfo}
    {bid : U256} (h : computeBid policy info = .ok (some bid)) :
    ∃ bs, info.bestBlock = some bs ∧ info.auctionTimeLeft.toInt ≤ policy.offset.toInt ∧
      info.bestAuctionBidValue ≤ bid ∧
      bid.toNat = min
        ((policy.maxBlockSubsidy.toNat + (info.bestBlockValue.toNat - bs.paymentCost)) % 2 ^ 256)
        (policy.outbid info) := by
  obtain ⟨hoffset, bs, surplus, hbs, hsurplus, rfl, hbest⟩ :=
    LinearSurplusPolicy.computeBid_eq_some h
  obtain ⟨_, htime, hsurplusNat⟩ := LinearSurplusPolicy.toBidSurplus_eq_ok hoffset hsurplus
  refine ⟨bs, hbs, htime, hbest, ?_⟩
  have hcost : (bidTransactionGasFees bs).toNat = bs.paymentCost := bidTransactionGasFees_toNat bs
  unfold outbid
  rw [wordMin_toNat, BitVec.toNat_add, BitVec.toNat_add, saturatingSub_toNat, hsurplusNat, hcost]

theorem NoProfitPolicy.bid_toNat {policy : NoProfitPolicy} {info : AuctionBidInfo} {bid : U256}
    (h : computeBid policy info = .ok (some bid)) :
    ∃ bs, info.bestBlock = some bs ∧
      bid.toNat = info.bestBlockValue.toNat - bs.paymentCost := by
  obtain ⟨_, bs, hbs, rfl⟩ := NoProfitPolicy.computeBid_eq_some h
  have hcost : (bidTransactionGasFees bs).toNat = bs.paymentCost := bidTransactionGasFees_toNat bs
  refine ⟨bs, hbs, ?_⟩
  rw [saturatingSub_toNat, hcost]

/-- **When a bid is within the value of the block and the subsidy**, its payment
included: without a subsidy, when the block is worth the payment; with one, also
when the bid outbids by so little that the subsidy makes up the difference. -/
theorem bid_within_subsidy_iff (info : AuctionBidInfo) :
    (∀ (policy : NoProfitPolicy) (bid : U256), computeBid policy info = .ok (some bid) →
      ∃ bs, info.bestBlock = some bs ∧
        (bid.toNat + bs.paymentCost ≤ info.bestBlockValue.toNat ↔
          bs.paymentCost ≤ info.bestBlockValue.toNat)) ∧
    (∀ (policy : LinearSurplusPolicy) (bid : U256), computeBid policy info = .ok (some bid) →
      ∃ bs, info.bestBlock = some bs ∧
        (bid.toNat + bs.paymentCost ≤
            info.bestBlockValue.toNat + policy.maxBlockSubsidy.toNat ↔
          bs.paymentCost ≤ info.bestBlockValue.toNat ∨
          policy.outbid info + bs.paymentCost ≤
            info.bestBlockValue.toNat + policy.maxBlockSubsidy.toNat)) := by
  constructor
  · intro policy bid h
    obtain ⟨bs, hbs, hbid⟩ := NoProfitPolicy.bid_toNat h
    refine ⟨bs, hbs, ?_⟩
    omega
  · intro policy bid h
    obtain ⟨bs, hbs, _, _, hbid⟩ := LinearSurplusPolicy.bid_toNat h
    refine ⟨bs, hbs, ?_⟩
    have hsubsidy := policy.maxBlockSubsidy.isLt
    rw [hbid]
    by_cases hcovered : bs.paymentCost ≤ info.bestBlockValue.toNat
    · -- the value pays for the transaction, and the rest of it bounds the bid
      have hmod := Nat.mod_le (policy.maxBlockSubsidy.toNat +
        (info.bestBlockValue.toNat - bs.paymentCost)) (2 ^ 256)
      constructor
      · intro _
        exact .inl hcovered
      · intro _
        omega
    · -- the value counts as nothing, so only the subsidy and the outbid bound the bid
      have hzero : info.bestBlockValue.toNat - bs.paymentCost = 0 := by omega
      rw [hzero, Nat.add_zero, Nat.mod_eq_of_lt hsubsidy]
      omega

/-- A build state of the transfer slot, at a base fee of 7 wei, that is worth `fees`. -/
def feeBuild (fees : U256) : BuildState :=
  { transferStart.1 with execDetails := { ExecutionDetails.default with sumFees := fees } }

/-- The auction in which it is the best block, one second before the slot. -/
def feeAuction (fees : U256) : AuctionBidInfo :=
  ((AuctionBidInfo.new 1 11).updateBlockInfo (feeBuild fees)
    (blockValue (NoProfitPolicy.mk 2000) (feeBuild fees).execDetails)).refreshTime 1000

/-- A block worth 1 wei, whose payment may cost 224000 wei, is bid with all the same. -/
theorem bid_beyond_subsidy :
    (feeAuction 1).bestBlockValue = (feeBuild 1).blockValue ∧
    ((feeAuction 1).bestBlock.map (·.paymentCost)) = some 224000 ∧
    (computeBid (NoProfitPolicy.mk 2000) (feeAuction 1)).toOption = some (some 0) ∧
    ¬ (0 : U256).toNat + 224000 ≤ (feeAuction 1).bestBlockValue.toNat ∧
    (computeBid (LinearSurplusPolicy.mk 2000 2 1 7) (feeAuction 1)).toOption = some (some 2) ∧
    ¬ (2 : U256).toNat + 224000 ≤ (feeAuction 1).bestBlockValue.toNat + (2 : U256).toNat := by
  decide

/-! ## How bids move -/

/-- What happens to the information of an auction. -/
inductive AuctionOp where
  | updateBlockInfo (buildState : BuildState) (blockValue : U256)
  | updateAuctionBidInfo (bid : U256)
  | updateBidInfo (bid : U256)
  | refreshTime (timeLeft : I128)

namespace AuctionOp

def apply (info : AuctionBidInfo) : AuctionOp → AuctionBidInfo
  | updateBlockInfo buildState blockValue => info.updateBlockInfo buildState blockValue
  | updateAuctionBidInfo bid => info.updateAuctionBidInfo bid
  | updateBidInfo bid => info.updateBidInfo bid
  | refreshTime timeLeft => info.refreshTime timeLeft

/-- The builds of an auction have one base fee, and its time does not run back. -/
def InAuction (basefee : UInt64) (info : AuctionBidInfo) : AuctionOp → Prop
  | updateBlockInfo buildState _ => buildState.buildConfig.basefee = basefee
  | refreshTime timeLeft => timeLeft.toInt ≤ info.auctionTimeLeft.toInt
  | _ => True

end AuctionOp

/-- The order an auction moves in. -/
structure Later (info info' : AuctionBidInfo) : Prop where
  bestBlockValue : info.bestBlockValue.toNat ≤ info'.bestBlockValue.toNat
  bestAuctionBidValue : info.bestAuctionBidValue.toNat ≤ info'.bestAuctionBidValue.toNat
  timeLeft : info'.auctionTimeLeft.toInt ≤ info.auctionTimeLeft.toInt

namespace Later

theorem refl (info : AuctionBidInfo) : Later info info :=
  ⟨Nat.le_refl _, Nat.le_refl _, Int.le_refl _⟩

theorem trans {a b c : AuctionBidInfo} (h : Later a b) (h' : Later b c) : Later a c :=
  ⟨Nat.le_trans h.bestBlockValue h'.bestBlockValue,
    Nat.le_trans h.bestAuctionBidValue h'.bestAuctionBidValue,
    Int.le_trans h'.timeLeft h.timeLeft⟩

/-- **Every operation goes up.** -/
theorem apply {basefee : UInt64} {info : AuctionBidInfo} {op : AuctionOp}
    (h : op.InAuction basefee info) : Later info (op.apply info) := by
  cases op with
  | updateBlockInfo buildState blockValue =>
    show Later info (info.updateBlockInfo buildState blockValue)
    unfold AuctionBidInfo.updateBlockInfo
    split
    next hle => exact ⟨BitVec.le_def.mp hle, Nat.le_refl _, Int.le_refl _⟩
    next => exact refl info
  | updateAuctionBidInfo bid =>
    refine ⟨Nat.le_refl _, ?_, Int.le_refl _⟩
    show info.bestAuctionBidValue.toNat ≤ (wordMax info.bestAuctionBidValue bid).toNat
    rw [wordMax_toNat]
    exact Nat.le_max_left _ _
  | updateBidInfo bid => exact ⟨Nat.le_refl _, Nat.le_refl _, Int.le_refl _⟩
  | refreshTime timeLeft => exact ⟨Nat.le_refl _, Nat.le_refl _, h⟩

end Later

/-- The best block, if there is one, has the base fee of the auction. -/
def AuctionBidInfo.HasBasefee (basefee : UInt64) (info : AuctionBidInfo) : Prop :=
  ∀ bs, info.bestBlock = some bs → bs.buildConfig.basefee = basefee

theorem AuctionBidInfo.hasBasefee_apply {basefee : UInt64} {info : AuctionBidInfo} {op : AuctionOp}
    (hinfo : info.HasBasefee basefee) (h : op.InAuction basefee info) :
    (op.apply info).HasBasefee basefee := by
  intro bs hbs
  cases op with
  | updateBlockInfo buildState blockValue =>
    replace hbs : (info.updateBlockInfo buildState blockValue).bestBlock = some bs := hbs
    unfold updateBlockInfo at hbs
    split at hbs
    next =>
      cases hbs
      exact h
    next => exact hinfo bs hbs
  | updateAuctionBidInfo bid => exact hinfo bs hbs
  | updateBidInfo bid => exact hinfo bs hbs
  | refreshTime timeLeft => exact hinfo bs hbs

/-- All sums and products of a bid fit 256 bits. -/
structure LinearSurplusPolicy.Fits (policy : LinearSurplusPolicy) (info : AuctionBidInfo) :
    Prop where
  product : (policy.maxBidSurplus.toNat - policy.minBidSurplus.toNat) *
    (policy.offset.toInt - info.auctionTimeLeft.toInt).toNat < 2 ^ 256
  outbid : info.bestAuctionBidValue.toNat +
    ((policy.maxBidSurplus.toNat - policy.minBidSurplus.toNat) *
        (policy.offset.toInt - info.auctionTimeLeft.toInt).toNat /
      (policy.offset.toInt + 1000).toNat + policy.minBidSurplus.toNat) < 2 ^ 256
  subsidy : ∀ bs, info.bestBlock = some bs →
    policy.maxBlockSubsidy.toNat + (info.bestBlockValue.toNat - bs.paymentCost) < 2 ^ 256

/-- Words only make a sum smaller, and a sum that fits is what it is in numbers. -/
theorem LinearSurplusPolicy.outbid_le (policy : LinearSurplusPolicy) (info : AuctionBidInfo) :
    policy.outbid info ≤ info.bestAuctionBidValue.toNat +
      ((policy.maxBidSurplus.toNat - policy.minBidSurplus.toNat) *
          (policy.offset.toInt - info.auctionTimeLeft.toInt).toNat /
        (policy.offset.toInt + 1000).toNat + policy.minBidSurplus.toNat) := by
  unfold outbid
  refine Nat.le_trans (Nat.mod_le _ _) (Nat.add_le_add_left ?_ _)
  refine Nat.le_trans (Nat.min_le_left _ _) (Nat.add_le_add_right ?_ _)
  exact Nat.div_le_div_right (Nat.mod_le _ _)

theorem LinearSurplusPolicy.Fits.outbid_eq {policy : LinearSurplusPolicy} {info : AuctionBidInfo}
    (h : policy.Fits info) :
    policy.outbid info = info.bestAuctionBidValue.toNat +
      ((policy.maxBidSurplus.toNat - policy.minBidSurplus.toNat) *
          (policy.offset.toInt - info.auctionTimeLeft.toInt).toNat /
        (policy.offset.toInt + 1000).toNat + policy.minBidSurplus.toNat) := by
  have hproduct := h.product
  have houtbid := h.outbid
  unfold LinearSurplusPolicy.outbid
  rw [Nat.mod_eq_of_lt hproduct]
  rw [Nat.min_eq_left (by omega), Nat.mod_eq_of_lt houtbid]

/-- **A later bid is not lower.** -/
theorem LinearSurplusPolicy.bid_mono {policy : LinearSurplusPolicy} {basefee : UInt64}
    {info info' : AuctionBidInfo} {bid bid' : U256} (hlater : Later info info')
    (hinfo : info.HasBasefee basefee) (hinfo' : info'.HasBasefee basefee)
    (hfits : policy.Fits info') (h : computeBid policy info = .ok (some bid))
    (h' : computeBid policy info' = .ok (some bid')) : bid ≤ bid' := by
  obtain ⟨bs, hbs, _, _, hbid⟩ := bid_toNat h
  obtain ⟨bs', hbs', _, _, hbid'⟩ := bid_toNat h'
  have hcost : bs.paymentCost = bs'.paymentCost := by
    unfold BuildState.paymentCost
    rw [hinfo bs hbs, hinfo' bs' hbs']
  rw [BitVec.le_def, hbid, hbid', Nat.mod_eq_of_lt (hfits.subsidy bs' hbs'), hcost]
  -- both sides of the minimum grow: the block's, and the top bid with its surplus
  have hvalue := hlater.bestBlockValue
  have hmax : (policy.maxBlockSubsidy.toNat + (info.bestBlockValue.toNat - bs'.paymentCost)) %
        2 ^ 256 ≤
      policy.maxBlockSubsidy.toNat + (info'.bestBlockValue.toNat - bs'.paymentCost) := by
    have hmod := Nat.mod_le (policy.maxBlockSubsidy.toNat +
      (info.bestBlockValue.toNat - bs'.paymentCost)) (2 ^ 256)
    omega
  have houtbid : policy.outbid info ≤ policy.outbid info' := by
    refine Nat.le_trans (policy.outbid_le info) ?_
    rw [hfits.outbid_eq]
    have htime := hlater.timeLeft
    have hinto : (policy.offset.toInt - info.auctionTimeLeft.toInt).toNat ≤
        (policy.offset.toInt - info'.auctionTimeLeft.toInt).toNat := by omega
    exact Nat.add_le_add hlater.bestAuctionBidValue
      (Nat.add_le_add_right (Nat.div_le_div_right (Nat.mul_le_mul_left _ hinto)) _)
  omega

/-- What an auction keeps from one of its points on. -/
theorem Later.run {policy : LinearSurplusPolicy} {basefee : UInt64} {info : AuctionBidInfo}
    (ops : List AuctionOp) (hinfo : info.HasBasefee basefee) (hfits : policy.Fits info)
    (hrun : Along AuctionOp.apply
      (fun info op => op.InAuction basefee info ∧ policy.Fits (op.apply info)) info ops) :
    Later info (Lib.run AuctionOp.apply info ops) ∧
      (Lib.run AuctionOp.apply info ops).HasBasefee basefee ∧
      policy.Fits (Lib.run AuctionOp.apply info ops) := by
  refine run_induct (I := fun info' => Later info info' ∧ info'.HasBasefee basefee ∧
    policy.Fits info') ?_ ops hrun ⟨refl info, hinfo, hfits⟩
  intro info' op hop hI
  obtain ⟨hlater, hbasefee, _⟩ := hI
  exact ⟨hlater.trans (Later.apply hop.1), info'.hasBasefee_apply hbasefee hop.1, hop.2⟩

/-- **Bids of one auction never go down.** Over any run of an auction, from any
point of it on: no bid is made before the offset is reached, a bid is at least
the top bid at that moment, and every bid made later is at least as high. -/
theorem bids_never_fall {policy : LinearSurplusPolicy} {basefee : UInt64} {info : AuctionBidInfo}
    {ops : List AuctionOp} (hinfo : info.HasBasefee basefee) (hfits : policy.Fits info)
    (hrun : Along AuctionOp.apply
      (fun info op => op.InAuction basefee info ∧ policy.Fits (op.apply info)) info ops) :
    ∀ pre mid post bid, ops = pre ++ mid ++ post →
      computeBid policy (run AuctionOp.apply info pre) = .ok (some bid) →
      (run AuctionOp.apply info pre).auctionTimeLeft.toInt ≤ policy.offset.toInt ∧
      (run AuctionOp.apply info pre).bestAuctionBidValue ≤ bid ∧
      ∀ bid', computeBid policy (run AuctionOp.apply info (pre ++ mid)) = .ok (some bid') →
        bid ≤ bid' := by
  intro pre mid post bid hops hbid
  obtain ⟨bs, _, htime, hbest, _⟩ := LinearSurplusPolicy.bid_toNat hbid
  refine ⟨htime, hbest, fun bid' hbid' => ?_⟩
  rw [hops] at hrun
  obtain ⟨hpreMid, _⟩ := (along_append _ _ _).mp hrun
  obtain ⟨hpre, hmid⟩ := (along_append _ _ _).mp hpreMid
  obtain ⟨_, hbasefee, hfitsPre⟩ := Later.run pre hinfo hfits hpre
  obtain ⟨hlater, hbasefee', hfits'⟩ := Later.run mid hbasefee hfitsPre hmid
  rw [run_append] at hbid'
  exact LinearSurplusPolicy.bid_mono hlater hbasefee hbasefee' hfits' hbid hbid'

/-- A policy that bids two seconds before the slot, with a subsidy of 2 wei. -/
def smallPolicy : LinearSurplusPolicy := ⟨2000, 2, 1, 7⟩

theorem smallPolicy_fits {info : AuctionBidInfo} (hbest : info.bestAuctionBidValue.toNat ≤ 1000)
    (hvalue : info.bestBlockValue.toNat ≤ 1000000) (htime : 0 ≤ info.auctionTimeLeft.toInt) :
    smallPolicy.Fits info := by
  have hinto : (smallPolicy.offset.toInt - info.auctionTimeLeft.toInt).toNat ≤ 2000 := by
    have hoffset : smallPolicy.offset.toInt = 2000 := by decide
    omega
  have hdiff : smallPolicy.maxBidSurplus.toNat - smallPolicy.minBidSurplus.toNat = 6 := by decide
  have hwindow : (smallPolicy.offset.toInt + 1000).toNat = 3000 := by decide
  have hmin : smallPolicy.minBidSurplus.toNat = 1 := by decide
  have hsubsidy : smallPolicy.maxBlockSubsidy.toNat = 2 := by decide
  refine ⟨?_, ?_, fun bs _ => ?_⟩
  · rw [hdiff]
    omega
  · rw [hdiff, hwindow, hmin]
    omega
  · rw [hsubsidy]
    omega

/-- The block is worth 7 wei beyond its payment; a bid of 3 is followed by one of 8. -/
def smallAuction : List AuctionOp :=
  [.updateBlockInfo (feeBuild 224007) 224007, .refreshTime 1000, .updateAuctionBidInfo 3,
    .refreshTime 0]

theorem bids_never_fall_small :
    (run AuctionOp.apply (.new 1 11) (smallAuction.take 2)).bestAuctionBidValue ≤ 3 ∧
    (computeBid smallPolicy (run AuctionOp.apply (.new 1 11) smallAuction)).toOption =
      some (some 8) ∧ (3 : U256) ≤ 8 := by
  have hinfo : (AuctionBidInfo.new 1 11).HasBasefee 7 := fun bs hbs => by cases hbs
  have hrun : Along AuctionOp.apply
      (fun info op => op.InAuction 7 info ∧ smallPolicy.Fits (op.apply info)) (.new 1 11)
      smallAuction := by
    have hfirst : (1000 : I128).toInt ≤ (12000 : I128).toInt := by decide
    have hsecond : (0 : I128).toInt ≤ (1000 : I128).toInt := by decide
    refine ⟨⟨rfl, ?_⟩, ⟨hfirst, ?_⟩, ⟨trivial, ?_⟩, ⟨hsecond, ?_⟩, trivial⟩
    · exact smallPolicy_fits (by decide) (by decide) (by decide)
    · exact smallPolicy_fits (by decide) (by decide) (by decide)
    · exact smallPolicy_fits (by decide) (by decide) (by decide)
    · exact smallPolicy_fits (by decide) (by decide) (by decide)
  have hfits : smallPolicy.Fits (.new 1 11) := smallPolicy_fits (by decide) (by decide) (by decide)
  have hfirst : computeBid smallPolicy (run AuctionOp.apply (.new 1 11) (smallAuction.take 2)) =
      .ok (some 3) := rfl
  have hsecond : computeBid smallPolicy (run AuctionOp.apply (.new 1 11) smallAuction) =
      .ok (some 8) := rfl
  obtain ⟨_, hbest, hlater⟩ :=
    bids_never_fall hinfo hfits hrun (smallAuction.take 2) (smallAuction.drop 2) [] 3 rfl hfirst
  refine ⟨hbest, ?_, hlater 8 hsecond⟩
  rw [hsecond]
  rfl

end BlockBuilder
