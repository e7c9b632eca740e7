import BlockBuilder.Bidder.Bids
import BlockBuilder.Bidder.Service
import BlockBuilder.Lib.Argmax
import BlockBuilder.Lib.Run

/-!
# The best block of an auction

The service compares each build state with the best one of its auction, takes
the information of the auction out for it, and puts it back on every branch.
`AuctionStep` says once what an event can do to the auction; everything about an
auction follows from it.

The best block is then the first of the best among the build states of the slot
that were received in the auction (`List.argmax`), and so its value is that of
the best one in whatever order they came.
-/

namespace BlockBuilder

open Lib (Channel run run_invariant argmax_split argmax_value_perm)
open BidSelectionPolicy (blockValue computeBid)

variable {P : Type}

/-! ## What an event does to the auction -/

namespace BidderSystem

/-- A request is one more, and changes nothing else. -/
theorem spawnTopBidRequest_eq (sys : BidderSystem P) :
    sys.spawnTopBidRequest = { sys with
      requests := sys.spawnTopBidRequest.requests
      topBid := sys.spawnTopBidRequest.topBid } := by
  unfold spawnTopBidRequest
  split
  next => rfl
  next => rfl

theorem spawnTopBidRequest_auctionBidInfo (sys : BidderSystem P) :
    sys.spawnTopBidRequest.auctionBidInfo = sys.auctionBidInfo := by
  rw [spawnTopBidRequest_eq]

/-- What a poll for the top bid may change. -/
theorem pollTopBid_eq (sys : BidderSystem P) :
    sys.pollTopBid = { sys with
      phase := .builds
      requests := sys.pollTopBid.requests
      topBid := sys.pollTopBid.topBid
      auctionBidInfo := sys.pollTopBid.auctionBidInfo } := by
  unfold pollTopBid
  split
  next =>
    split
    next reply _ =>
      rw [spawnTopBidRequest_eq]
      cases reply with
      | found topBid => rfl
      | notFound => rfl
      | failed => rfl
    next => rfl
  next => rw [spawnTopBidRequest_eq]

end BidderSystem

variable [BidSelectionPolicy P]

/-- What the service learns from a build state. -/
def AuctionBidInfo.onBuild (policy : P) (info : AuctionBidInfo) (buildState : BuildState) :
    AuctionBidInfo :=
  if buildState.buildConfig.slot = info.slot ∧
      ∀ block, info.bestBlock = some block →
        isBetterBlockValue policy block.execDetails buildState.execDetails = true then
    info.updateBlockInfo buildState (blockValue policy buildState.execDetails)
  else info

namespace BidderSystem

/-- The information is put back on every branch. -/
theorem onBuildState_eq (sys : BidderSystem P) (buildState : BuildState) :
    sys.onBuildState buildState =
      { sys with auctionBidInfo := sys.auctionBidInfo.map (·.onBuild sys.policy buildState) } := by
  unfold onBuildState
  cases hinfo : sys.auctionBidInfo with
  | none => rfl
  | some info =>
    simp only [Option.map_some, AuctionBidInfo.onBuild]
    split
    next hslot =>
      have hne := UInt64.ne_of_lt (Std.compare_eq_lt.mp hslot)
      rw [if_neg fun h => hne h.1]
    next hslot =>
      have hne := UInt64.ne_of_lt (Std.compare_eq_gt.mp hslot)
      rw [if_neg fun h => hne h.1.symm]
    next hslot =>
      have heq := Std.compare_eq_iff_eq.mp hslot
      cases hbest : info.bestBlock with
      | none => simp [heq]
      | some block =>
        simp only [Option.map_some, Option.getD_some, Option.some.injEq, forall_eq', heq, true_and]
        split
        next hworse => rw [if_neg fun h => absurd h (by simpa using hworse)]
        next hbetter => rw [if_pos (by simpa using hbetter)]

/-- What an event does to the auction. -/
inductive AuctionStep (sys : BidderSystem P) (event : BidderEvent) (sys' : BidderSystem P) :
    Prop where
  /-- Nothing. -/
  | same (info : sys'.auctionBidInfo = sys.auctionBidInfo) (begun : sys'.begun = sys.begun)
      (received : sys'.received = sys.received)
      (panicked : sys.phase = .panicked → sys'.phase = .panicked)
  /-- An auction of a newer slot begins. -/
  | began (slot blockNumber : UInt64) (polled : ∃ currentTime, event = .poll currentTime)
      (phase : sys.phase = .auctionStarts)
      (message : ∃ queue, sys.auctionStartReceiver.queue = (slot, blockNumber) :: queue)
      (newer : ∀ info, sys.auctionBidInfo = some info → info.slot < slot)
      (info : sys'.auctionBidInfo = some (.new slot blockNumber))
      (begun : sys'.begun = sys.begun ++ [slot]) (received : sys'.received = [])
  /-- The reply to the request is a bid. -/
  | topBid (request : Nat) (topBid : BidTrace) (held : sys.topBid = some request)
      (reply : (sys.requests[request]?).bind (·.reply) = some (.found topBid))
      (info : sys'.auctionBidInfo =
        sys.auctionBidInfo.map (·.updateAuctionBidInfo topBid.value))
      (begun : sys'.begun = sys.begun) (received : sys'.received = sys.received)
      (phase : sys.phase ≠ .panicked)
  /-- A build state is received. -/
  | build (buildState : BuildState)
      (info : sys'.auctionBidInfo = sys.auctionBidInfo.map (·.onBuild sys.policy buildState))
      (begun : sys'.begun = sys.begun) (received : sys'.received = sys.received ++ [buildState])
      (phase : sys.phase ≠ .panicked)
  /-- The time is refreshed, and there may be a bid. -/
  | bid (timeLeft : I128) (bid : Option U256)
      (info : sys'.auctionBidInfo = sys.auctionBidInfo.map fun info =>
        bid.elim (info.refreshTime timeLeft) (info.refreshTime timeLeft).updateBidInfo)
      (begun : sys'.begun = sys.begun) (received : sys'.received = sys.received)
      (phase : sys.phase ≠ .panicked)
  /-- The policy panics. -/
  | panicked (info : sys'.auctionBidInfo = none) (begun : sys'.begun = sys.begun)
      (received : sys'.received = sys.received) (phase : sys'.phase = .panicked)

theorem AuctionStep.of_frame {sys sys' : BidderSystem P} {event : BidderEvent}
    (info : sys'.auctionBidInfo = sys.auctionBidInfo) (begun : sys'.begun = sys.begun)
    (received : sys'.received = sys.received) (phase : sys.phase ≠ .panicked) :
    AuctionStep sys event sys' :=
  .same info begun received fun h => absurd h phase

theorem pollAuctionStarts_auction {sys : BidderSystem P} (hphase : sys.phase = .auctionStarts)
    (currentTime : U128) : AuctionStep sys (.poll currentTime) sys.pollAuctionStarts := by
  have hrunning : sys.phase ≠ .panicked := by rw [hphase]; decide
  unfold pollAuctionStarts
  split
  next slot blockNumber rest hrecv =>
    simp only
    split
    next hnewer =>
      refine .began slot blockNumber ⟨currentTime, rfl⟩ hphase
        ⟨rest.queue, Channel.pollRecv_message hrecv⟩ (fun info hinfo => ?_) rfl rfl rfl
      simpa [hinfo] using hnewer
    next => exact .of_frame rfl rfl rfl hrunning
  next => exact .of_frame rfl rfl rfl hrunning
  next => exact .of_frame rfl rfl rfl hrunning

theorem pollTopBid_auction {sys : BidderSystem P} (hrunning : sys.phase ≠ .panicked)
    (event : BidderEvent) : AuctionStep sys event sys.pollTopBid := by
  unfold pollTopBid
  split
  next request hheld =>
    split
    next reply hreply =>
      rw [spawnTopBidRequest_eq]
      cases reply with
      | found topBid => exact .topBid request topBid hheld hreply rfl rfl rfl hrunning
      | notFound => exact .of_frame rfl rfl rfl hrunning
      | failed => exact .of_frame rfl rfl rfl hrunning
    next => exact .of_frame rfl rfl rfl hrunning
  next =>
    rw [spawnTopBidRequest_eq]
    exact .of_frame rfl rfl rfl hrunning

theorem pollBuilds_auction {sys : BidderSystem P} (hrunning : sys.phase ≠ .panicked)
    (event : BidderEvent) : AuctionStep sys event sys.pollBuilds := by
  unfold pollBuilds
  split
  next buildState rest _ =>
    rw [onBuildState_eq]
    exact .build buildState rfl rfl rfl hrunning
  next => exact .of_frame rfl rfl rfl hrunning
  next => exact .of_frame rfl rfl rfl hrunning

theorem pollBid_auction {sys : BidderSystem P} (hrunning : sys.phase ≠ .panicked)
    (event : BidderEvent) (currentTime : U128) :
    AuctionStep sys event (sys.pollBid currentTime) := by
  unfold pollBid
  split
  next hinfo => exact .of_frame rfl rfl rfl hrunning
  next info hinfo =>
    simp only
    split
    next => exact .panicked rfl rfl rfl rfl
    next =>
      split
      next bidValue _ _ _ =>
        refine .bid (sys.networkClock.timeUntilSlotSignedMs currentTime info.slot) (some bidValue)
          ?_ rfl rfl hrunning
        rw [hinfo]
        rfl
      next =>
        refine .bid (sys.networkClock.timeUntilSlotSignedMs currentTime info.slot) none
          ?_ rfl rfl hrunning
        rw [hinfo]
        rfl

theorem poll_auction (sys : BidderSystem P) (currentTime : U128) :
    AuctionStep sys (.poll currentTime) (sys.poll currentTime) := by
  unfold poll
  split
  next hphase => exact pollAuctionStarts_auction hphase currentTime
  next hphase => exact pollTopBid_auction (by rw [hphase]; decide) _
  next hphase => exact pollBuilds_auction (by rw [hphase]; decide) _
  next hphase => exact pollBid_auction (by rw [hphase]; decide) _ currentTime
  next => exact .same rfl rfl rfl id
  next => exact .same rfl rfl rfl id

/-- The service is where it was. -/
structure Untouched (sys sys' : BidderSystem P) : Prop where
  phase : sys'.phase = sys.phase
  topBid : sys'.topBid = sys.topBid
  policy : sys'.policy = sys.policy
  auctionBidInfo : sys'.auctionBidInfo = sys.auctionBidInfo
  begun : sys'.begun = sys.begun
  received : sys'.received = sys.received
  /-- No build state that waits is taken away. -/
  waiting : ∀ bs ∈ sys.buildsReceiver.queue, bs ∈ sys'.buildsReceiver.queue

/-- The events besides a poll leave the service where it is, and besides an answer
the requests as they are. -/
theorem step_cases (R : Reth) (sys : BidderSystem P) (event : BidderEvent) :
    (∃ currentTime, event = .poll currentTime) ∨
      Untouched sys (sys.step R event) ∧
        ((∃ request traces, event = .answer request traces) ∨
          (sys.step R event).requests = sys.requests) := by
  cases event with
  | poll currentTime => exact .inl ⟨currentTime, rfl⟩
  | onAuctionStart slot blockNumber => exact .inr ⟨⟨rfl, rfl, rfl, rfl, rfl, rfl, fun _ => id⟩, .inr rfl⟩
  | makeBid buildState =>
    exact .inr ⟨⟨rfl, rfl, rfl, rfl, rfl, rfl, fun _ => List.mem_append_left _⟩, .inr rfl⟩
  | dropHandles => exact .inr ⟨⟨rfl, rfl, rfl, rfl, rfl, rfl, fun _ => id⟩, .inr rfl⟩
  | answer request traces =>
    refine .inr ⟨?_, .inl ⟨request, traces, rfl⟩⟩
    show Untouched sys (sys.answer request traces)
    unfold answer
    split
    next => exact ⟨rfl, rfl, rfl, rfl, rfl, rfl, fun _ => id⟩
    next => exact ⟨rfl, rfl, rfl, rfl, rfl, rfl, fun _ => id⟩
  | finalize task client pool =>
    refine .inr ?_
    simp only [step, finalize]
    split
    next =>
      split
      next => exact ⟨⟨rfl, rfl, rfl, rfl, rfl, rfl, fun _ => id⟩, .inr rfl⟩
      next => exact ⟨⟨rfl, rfl, rfl, rfl, rfl, rfl, fun _ => id⟩, .inr rfl⟩
    next => exact ⟨⟨rfl, rfl, rfl, rfl, rfl, rfl, fun _ => id⟩, .inr rfl⟩
  | relayPoll =>
    refine .inr ?_
    simp only [step, relayPoll]
    split
    next =>
      split
      next => exact ⟨⟨rfl, rfl, rfl, rfl, rfl, rfl, fun _ => id⟩, .inr rfl⟩
      next => exact ⟨⟨rfl, rfl, rfl, rfl, rfl, rfl, fun _ => id⟩, .inr rfl⟩
    next => exact ⟨⟨rfl, rfl, rfl, rfl, rfl, rfl, fun _ => id⟩, .inr rfl⟩
  | post task relay =>
    refine .inr ?_
    simp only [step, post]
    split
    next =>
      split
      next => exact ⟨⟨rfl, rfl, rfl, rfl, rfl, rfl, fun _ => id⟩, .inr rfl⟩
      next => exact ⟨⟨rfl, rfl, rfl, rfl, rfl, rfl, fun _ => id⟩, .inr rfl⟩
    next => exact ⟨⟨rfl, rfl, rfl, rfl, rfl, rfl, fun _ => id⟩, .inr rfl⟩

/-- **What an event does to the auction.** Only a poll does anything. -/
theorem step_auction (R : Reth) (sys : BidderSystem P) (event : BidderEvent) :
    AuctionStep sys event (sys.step R event) := by
  rcases sys.step_cases R event with ⟨currentTime, rfl⟩ | ⟨huntouched, _⟩
  · exact sys.poll_auction currentTime
  · exact .same huntouched.auctionBidInfo huntouched.begun huntouched.received
      (huntouched.phase ▸ id)

/-- What a poll does not change. -/
structure PollFrame (sys sys' : BidderSystem P) : Prop where
  policy : sys'.policy = sys.policy
  relays : sys'.relays = sys.relays
  commandRx : sys'.commandRx = sys.commandRx
  submitted : sys'.submitted = sys.submitted
  requests : sys.phase ≠ .topBid → sys'.requests = sys.requests
  topBid : sys.phase ≠ .topBid → sys'.topBid = sys.topBid
  buildsReceiver : sys.phase ≠ .builds → sys'.buildsReceiver = sys.buildsReceiver
  tasks : sys.phase ≠ .bid → sys'.tasks = sys.tasks

theorem poll_frame (sys : BidderSystem P) (currentTime : U128) :
    PollFrame sys (sys.poll currentTime) := by
  unfold poll
  split
  next =>
    constructor
    all_goals grind [pollAuctionStarts, onNewSlotAuction]
  next hphase =>
    rw [pollTopBid_eq]
    exact ⟨rfl, rfl, rfl, rfl, absurd hphase, absurd hphase, fun _ => rfl, fun _ => rfl⟩
  next hphase =>
    constructor
    all_goals grind [pollBuilds, onBuildState_eq]
  next hphase =>
    constructor
    all_goals grind [pollBid]
  next => exact ⟨rfl, rfl, rfl, rfl, fun _ => rfl, fun _ => rfl, fun _ => rfl, fun _ => rfl⟩
  next => exact ⟨rfl, rfl, rfl, rfl, fun _ => rfl, fun _ => rfl, fun _ => rfl, fun _ => rfl⟩

/-- The policy is the one the service was made with. -/
theorem step_policy (R : Reth) (sys : BidderSystem P) (event : BidderEvent) :
    (sys.step R event).policy = sys.policy := by
  rcases sys.step_cases R event with ⟨currentTime, rfl⟩ | ⟨huntouched, _⟩
  · exact (sys.poll_frame currentTime).policy
  · exact huntouched.policy

end BidderSystem

/-! ## The best of the builds received -/

/-- The build states of a slot among those received. -/
def ofSlot (slot : UInt64) (received : List BuildState) : List BuildState :=
  received.filter fun buildState => buildState.buildConfig.slot = slot

/-- What a block is worth to a policy. -/
def policyValue (policy : P) (buildState : BuildState) : Nat :=
  (blockValue policy buildState.execDetails).toNat

/-- The information of an auction is about the first of the best received builds. -/
structure AuctionBidInfo.BestOf (policy : P) (received : List BuildState)
    (info : AuctionBidInfo) : Prop where
  block : info.bestBlock = (ofSlot info.slot received).argmax (policyValue policy)
  value : info.bestBlockValue =
    (info.bestBlock.map fun block => blockValue policy block.execDetails).getD 0

namespace AuctionBidInfo.BestOf

variable {policy : P} {received : List BuildState} {info : AuctionBidInfo}

theorem of_new (slot blockNumber : UInt64) :
    BestOf policy [] (AuctionBidInfo.new slot blockNumber) := ⟨rfl, rfl⟩

/-- Only the slot and the best block matter. -/
theorem congr {info' : AuctionBidInfo} (h : BestOf policy received info)
    (hslot : info'.slot = info.slot) (hblock : info'.bestBlock = info.bestBlock)
    (hvalue : info'.bestBlockValue = info.bestBlockValue) : BestOf policy received info' := by
  constructor
  · rw [hblock, hslot]
    exact h.block
  · rw [hvalue, hblock]
    exact h.value

/-- A better build state is always taken: the two comparisons agree. -/
theorem updateBlockInfo_eq (h : BestOf policy received info) {buildState : BuildState}
    (hbetter : ∀ block, info.bestBlock = some block →
      isBetterBlockValue policy block.execDetails buildState.execDetails = true) :
    info.updateBlockInfo buildState (blockValue policy buildState.execDetails) =
      { info with
        bestBlock := some buildState
        bestBlockValue := blockValue policy buildState.execDetails } := by
  have hle : info.bestBlockValue ≤ blockValue policy buildState.execDetails := by
    rw [h.value]
    cases hbest : info.bestBlock with
    | none => exact BitVec.le_def.mpr (Nat.zero_le _)
    | some block => exact BitVec.le_of_lt (of_decide_eq_true (hbetter block hbest))
  unfold updateBlockInfo
  rw [if_pos hle]

/-- **One build state more.** -/
theorem onBuild (h : BestOf policy received info) (buildState : BuildState) :
    BestOf policy (received ++ [buildState]) (info.onBuild policy buildState) := by
  unfold AuctionBidInfo.onBuild
  split
  next hcond =>
    obtain ⟨hslot, hbetter⟩ := hcond
    rw [h.updateBlockInfo_eq hbetter]
    refine ⟨?_, rfl⟩
    have happend : ofSlot info.slot (received ++ [buildState]) =
        ofSlot info.slot received ++ [buildState] := by
      simp [ofSlot, List.filter_append, hslot]
    show some buildState = (ofSlot info.slot (received ++ [buildState])).argmax _
    rw [happend, List.argmax_concat, ← h.block]
    cases hbest : info.bestBlock with
    | none => rfl
    | some block =>
      have hlt : policyValue policy block < policyValue policy buildState :=
        of_decide_eq_true (hbetter block hbest)
      simp only [if_pos hlt]
  next hcond =>
    refine ⟨?_, h.value⟩
    by_cases hslot : buildState.buildConfig.slot = info.slot
    · -- the best block so far is at least as good
      have happend : ofSlot info.slot (received ++ [buildState]) =
          ofSlot info.slot received ++ [buildState] := by
        simp [ofSlot, List.filter_append, hslot]
      rw [happend, List.argmax_concat, ← h.block]
      cases hbest : info.bestBlock with
      | none => exact absurd ⟨hslot, fun block hblock => by simp [hbest] at hblock⟩ hcond
      | some block =>
        have hge : ¬ policyValue policy block < policyValue policy buildState := by
          intro hlt
          refine hcond ⟨hslot, fun block' hblock' => ?_⟩
          cases hbest.symm.trans hblock'
          exact decide_eq_true hlt
        simp only [if_neg hge]
    · have happend : ofSlot info.slot (received ++ [buildState]) = ofSlot info.slot received := by
        simp [ofSlot, List.filter_append, hslot]
      rw [happend]
      exact h.block

end AuctionBidInfo.BestOf

/-- A build state changes nothing else. -/
theorem AuctionBidInfo.onBuild_eq (policy : P) (info : AuctionBidInfo) (buildState : BuildState) :
    info.onBuild policy buildState = { info with
      bestBlock := (info.onBuild policy buildState).bestBlock
      bestBlockValue := (info.onBuild policy buildState).bestBlockValue } := by
  unfold onBuild updateBlockInfo
  split
  next =>
    split
    next => rfl
    next => rfl
  next => rfl

theorem AuctionBidInfo.onBuild_slot (policy : P) (info : AuctionBidInfo)
    (buildState : BuildState) : (info.onBuild policy buildState).slot = info.slot := by
  rw [onBuild_eq]

/-! ## Over a run -/

namespace BidderSystem

/-- What the service knows between two steps. -/
structure HoldsBest (sys : BidderSystem P) : Prop where
  begun : sys.begun.Pairwise (· < ·)
  idle : sys.auctionBidInfo = none → sys.phase = .panicked ∨ sys.begun = []
  current : ∀ info, sys.auctionBidInfo = some info → sys.begun.getLast? = some info.slot
  best : ∀ info, sys.auctionBidInfo = some info → info.BestOf sys.policy sys.received

theorem HoldsBest.of_new (policy : P) (networkClock : NetworkClock) (publicKey : BlsPublicKey)
    (internalRelayEnabled : Bool) :
    HoldsBest (new policy networkClock publicKey internalRelayEnabled) where
  begun := .nil
  idle _ := .inr rfl
  current info h := by cases h
  best info h := by cases h

/-- An auction that goes on under the same builds. -/
theorem HoldsBest.map {sys sys' : BidderSystem P} (h : HoldsBest sys)
    {f : AuctionBidInfo → AuctionBidInfo} (hinfo : sys'.auctionBidInfo = sys.auctionBidInfo.map f)
    (hbegun : sys'.begun = sys.begun) (hpolicy : sys'.policy = sys.policy)
    (hphase : sys.phase = .panicked → sys'.phase = .panicked)
    (hslot : ∀ info, (f info).slot = info.slot)
    (hbest : ∀ info, info.BestOf sys.policy sys.received →
      (f info).BestOf sys.policy sys'.received) : HoldsBest sys' := by
  constructor
  · rw [hbegun]
    exact h.begun
  · intro hnone
    rw [hinfo, Option.map_eq_none_iff] at hnone
    rw [hbegun]
    exact (h.idle hnone).imp_left hphase
  · intro info' hinfo'
    obtain ⟨info, hsome, rfl⟩ := Option.map_eq_some_iff.mp (hinfo ▸ hinfo')
    rw [hbegun, hslot]
    exact h.current info hsome
  · intro info' hinfo'
    obtain ⟨info, hsome, rfl⟩ := Option.map_eq_some_iff.mp (hinfo ▸ hinfo')
    rw [hpolicy]
    exact hbest info (h.best info hsome)

/-- Every auction begun so far is older than one that may begin. -/
theorem HoldsBest.begun_lt {sys : BidderSystem P} (h : HoldsBest sys)
    (hphase : sys.phase = .auctionStarts) {slot : UInt64}
    (hnewer : ∀ info, sys.auctionBidInfo = some info → info.slot < slot) :
    ∀ begun ∈ sys.begun, begun < slot := by
  intro begun hbegun
  cases hinfo : sys.auctionBidInfo with
  | none =>
    rcases h.idle hinfo with hpanicked | hnil
    · rw [hphase] at hpanicked
      cases hpanicked
    · rw [hnil] at hbegun
      cases hbegun
  | some info =>
    -- the current auction is the last of a list that increases
    have hpairwise := h.begun
    obtain ⟨older, hsplit⟩ := List.getLast?_eq_some_iff.mp (h.current info hinfo)
    rw [hsplit] at hbegun hpairwise
    rcases List.mem_append.mp hbegun with hmem | hmem
    · have hlt := (List.pairwise_append.mp hpairwise).2.2 begun hmem info.slot (by simp)
      exact UInt64.lt_trans hlt (hnewer info hinfo)
    · rw [List.mem_singleton.mp hmem]
      exact hnewer info hinfo

/-- **Every event keeps it.** -/
theorem HoldsBest.step (R : Reth) {sys : BidderSystem P} (event : BidderEvent)
    (h : HoldsBest sys) : HoldsBest (sys.step R event) := by
  have hpolicy := sys.step_policy R event
  cases sys.step_auction R event with
  | same hinfo hbegun hreceived hphase =>
    exact h.map (hinfo.trans Option.map_id'.symm) hbegun hpolicy hphase (fun _ => rfl)
      (fun info hbest => hreceived ▸ hbest)
  | began slot blockNumber hpolled hphase hmessage hnewer hinfo hbegun hreceived =>
    constructor
    · rw [hbegun]
      refine List.pairwise_append.mpr ⟨h.begun, List.pairwise_singleton .., ?_⟩
      intro begun hmem slot' hslot'
      rw [List.mem_singleton.mp hslot']
      exact h.begun_lt hphase hnewer begun hmem
    · intro hnone
      rw [hinfo] at hnone
      cases hnone
    · intro info hsome
      cases hinfo.symm.trans hsome
      rw [hbegun, List.getLast?_concat]
      rfl
    · intro info hsome
      cases hinfo.symm.trans hsome
      rw [hreceived]
      exact .of_new slot blockNumber
  | topBid request topBid hheld hreply hinfo hbegun hreceived hphase =>
    exact h.map hinfo hbegun hpolicy (absurd · hphase) (fun _ => rfl)
      (fun info hbest => hreceived ▸ hbest.congr rfl rfl rfl)
  | build buildState hinfo hbegun hreceived hphase =>
    exact h.map hinfo hbegun hpolicy (absurd · hphase) (fun info => info.onBuild_slot ..)
      (fun info hbest => hreceived ▸ hbest.onBuild buildState)
  | bid timeLeft bid hinfo hbegun hreceived hphase =>
    refine h.map hinfo hbegun hpolicy (absurd · hphase) (fun info => ?_)
      (fun info hbest => hreceived ▸ hbest.congr ?_ ?_ ?_)
    all_goals cases bid <;> rfl
  | panicked hinfo hbegun hreceived hphase =>
    constructor
    · rw [hbegun]
      exact h.begun
    · intro _
      exact .inl hphase
    · intro info hsome
      rw [hinfo] at hsome
      cases hsome
    · intro info hsome
      rw [hinfo] at hsome
      cases hsome

theorem HoldsBest.of_run (R : Reth) (policy : P) (networkClock : NetworkClock)
    (publicKey : BlsPublicKey) (internalRelayEnabled : Bool) (events : List BidderEvent) :
    HoldsBest (run (BidderSystem.step R)
      (new policy networkClock publicKey internalRelayEnabled) events) :=
  run_invariant (fun _ event h => h.step R event) events (.of_new ..)

theorem run_policy (R : Reth) (sys : BidderSystem P) (events : List BidderEvent) :
    (run (step R) sys events).policy = sys.policy :=
  run_invariant (I := fun sys' : BidderSystem P => sys'.policy = sys.policy)
    (fun sys' event h => (sys'.step_policy R event).trans h) events rfl

end BidderSystem

namespace AuctionBidInfo.BestOf

variable {policy : P} {received received' : List BuildState} {info info' : AuctionBidInfo}

/-- There is a best block as soon as a build state of the slot has come. -/
theorem bestBlock_eq_none_iff (h : BestOf policy received info) :
    info.bestBlock = none ↔ ∀ bs ∈ received, bs.buildConfig.slot ≠ info.slot := by
  rw [h.block, List.argmax_eq_none]
  simp [ofSlot, List.filter_eq_nil_iff]

/-- The best block is the first one of the greatest value. -/
theorem bestBlock_eq_some (h : BestOf policy received info) {best : BuildState}
    (hbest : info.bestBlock = some best) :
    best.buildConfig.slot = info.slot ∧
      info.bestBlockValue = blockValue policy best.execDetails ∧
      ∃ pre post, ofSlot info.slot received = pre ++ best :: post ∧
        (∀ bs ∈ pre, blockValue policy bs.execDetails < blockValue policy best.execDetails) ∧
        ∀ bs ∈ post, blockValue policy bs.execDetails ≤ blockValue policy best.execDetails := by
  have hargmax : (ofSlot info.slot received).argmax (policyValue policy) = some best :=
    h.block ▸ hbest
  refine ⟨?_, ?_, argmax_split hargmax⟩
  · have hmem := (List.mem_filter.mp (List.argmax_mem hargmax)).2
    exact of_decide_eq_true hmem
  · rw [h.value, hbest]
    rfl

/-- No build state of the slot is worth more. -/
theorem le_bestBlock (h : BestOf policy received info) {bs : BuildState} (hmem : bs ∈ received)
    (hslot : bs.buildConfig.slot = info.slot) : ∃ best, info.bestBlock = some best ∧
      blockValue policy bs.execDetails ≤ blockValue policy best.execDetails := by
  have hofSlot : bs ∈ ofSlot info.slot received :=
    List.mem_filter.mpr ⟨hmem, decide_eq_true hslot⟩
  cases hbest : info.bestBlock with
  | none =>
    have hnil := List.argmax_eq_none.mp (h.block.symm.trans hbest)
    rw [hnil] at hofSlot
    cases hofSlot
  | some best =>
    exact ⟨best, rfl, List.le_of_mem_argmax hofSlot (h.block.symm.trans hbest)⟩

/-- The same builds in another order are worth the same. -/
theorem bestBlockValue_perm (h : BestOf policy received info) (h' : BestOf policy received' info')
    (hperm : (ofSlot info.slot received).Perm (ofSlot info'.slot received')) :
    info.bestBlockValue = info'.bestBlockValue := by
  have hblock := h.block
  have hblock' := h'.block
  rw [h.value, h'.value]
  cases hbest : info.bestBlock with
  | none =>
    -- there were no builds of the slot, in any order
    rw [hbest] at hblock
    rw [List.argmax_eq_none.mp hblock.symm, List.nil_perm] at hperm
    rw [hperm] at hblock'
    rw [hblock']
    rfl
  | some best =>
    cases hbest' : info'.bestBlock with
    | none =>
      rw [hbest'] at hblock'
      rw [List.argmax_eq_none.mp hblock'.symm, List.perm_nil] at hperm
      rw [hbest, hperm] at hblock
      cases hblock
    | some best' =>
      exact BitVec.eq_of_toNat_eq
        (argmax_value_perm hperm (hblock ▸ hbest) (hblock' ▸ hbest'))

end AuctionBidInfo.BestOf

/-- **The bidder always holds the best build of the current slot**, and its value
does not depend on the order in which the builds came. -/
theorem BidderSystem.best_build_held (R : Reth) (policy : P) (networkClock : NetworkClock)
    (publicKey : BlsPublicKey) (internalRelayEnabled : Bool) (events : List BidderEvent) :
    let sys := run (step R) (new policy networkClock publicKey internalRelayEnabled) events
    sys.begun.Pairwise (· < ·) ∧
    ∀ info, sys.auctionBidInfo = some info →
      sys.begun.getLast? = some info.slot ∧
      (info.bestBlock = none ↔ ∀ bs ∈ sys.received, bs.buildConfig.slot ≠ info.slot) ∧
      (∀ best, info.bestBlock = some best →
        best.buildConfig.slot = info.slot ∧
        info.bestBlockValue = blockValue policy best.execDetails ∧
        ∃ pre post, ofSlot info.slot sys.received = pre ++ best :: post ∧
          (∀ bs ∈ pre, blockValue policy bs.execDetails < blockValue policy best.execDetails) ∧
          ∀ bs ∈ post, blockValue policy bs.execDetails ≤ blockValue policy best.execDetails) ∧
      ∀ (networkClock' : NetworkClock) (publicKey' : BlsPublicKey) (internalRelayEnabled' : Bool)
        (events' : List BidderEvent),
        let sys' := run (step R) (new policy networkClock' publicKey' internalRelayEnabled') events'
        ∀ info', sys'.auctionBidInfo = some info' →
          (ofSlot info.slot sys.received).Perm (ofSlot info'.slot sys'.received) →
          info.bestBlockValue = info'.bestBlockValue := by
  intro sys
  have h : HoldsBest sys := .of_run ..
  have hpolicy : sys.policy = policy := run_policy ..
  refine ⟨h.begun, fun info hinfo => ?_⟩
  have hbest := h.best info hinfo
  rw [hpolicy] at hbest
  refine ⟨h.current info hinfo, hbest.bestBlock_eq_none_iff, fun best => hbest.bestBlock_eq_some,
    ?_⟩
  intro networkClock' publicKey' internalRelayEnabled' events' sys' info' hinfo' hperm
  have h' : HoldsBest sys' := .of_run ..
  have hpolicy' : sys'.policy = policy := run_policy ..
  have hbest' := h'.best info' hinfo'
  rw [hpolicy'] at hbest'
  exact hbest.bestBlockValue_perm hbest' hperm

namespace BidderSystem

/-- A bidder that bids the whole value of its blocks. -/
def devnet : BidderSystem DevnetPolicy := new ⟨⟩ (.new 0 12) [7] false

/-- The service polls `n` times. -/
def polls (n : Nat) : List BidderEvent := List.replicate n (.poll 0)

-- a build that comes before its auction is not among those received in it
example :
    let sys := run (step transferChain) devnet
      ([.makeBid (feeBuild 30)] ++ polls 4 ++
        [.onAuctionStart 1 11, .makeBid (feeBuild 10), .makeBid (feeBuild 20)] ++ polls 7)
    (sys.auctionBidInfo.map (·.bestBlockValue)) = some 20 ∧ sys.received.length = 2 := by
  decide +kernel

end BidderSystem

end BlockBuilder
