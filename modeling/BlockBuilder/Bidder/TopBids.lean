import BlockBuilder.Bidder.BestBlock

/-!
# Top bids and the auctions they were asked for

The service holds the receiver of one top-bid request at a time. The request is
for the block of the auction in which it was made, but the receiver is kept when
a new auction begins, and auction starts are handled before replies: a bid that
is found too late is taken for one of the new auction.

An answer is in time when it comes in the auction of its request, and an auction
begins in time when no bid waits to be read. In a run that is in time the top
bid of an auction was returned by a request for its own block.
-/

namespace BlockBuilder

open Lib (run Along run_induct)

variable {P : Type}

/-- The bid that came back. -/
def TopBidRequest.found (request : TopBidRequest) : Option U256 :=
  match request.reply with
  | some (.found topBid) => some topBid.value
  | _ => none

/-- The top bid of an auction is zero or was returned by a request for its block. -/
def AuctionBidInfo.OwnTopBid (requests : List TopBidRequest) (info : AuctionBidInfo) : Prop :=
  info.bestAuctionBidValue = 0 ∨
    ∃ request ∈ requests, request.blockNumber = info.blockNumber ∧
      request.found = some info.bestAuctionBidValue

instance (requests : List TopBidRequest) (info : AuctionBidInfo) :
    Decidable (info.OwnTopBid requests) :=
  inferInstanceAs (Decidable (_ ∨ ∃ request ∈ requests, _))

namespace BidderSystem

/-! ## Being in time -/

/-- The request whose receiver the service holds. -/
def heldRequest (sys : BidderSystem P) : Option TopBidRequest :=
  sys.topBid.bind (sys.requests[·]?)

/-- The next poll begins an auction. -/
def beginsAuction (sys : BidderSystem P) : Bool :=
  sys.phase = .auctionStarts && (sys.auctionStartReceiver.queue.head?.any fun message =>
    sys.auctionBidInfo.all fun info => info.slot < message.1)

/-- Before this event no bid is late: an auction does not begin while a bid that
was found waits to be read, and no bid is found for a request of an earlier auction. -/
def InTime (sys : BidderSystem P) : BidderEvent → Prop
  | .poll _ => sys.beginsAuction = true → sys.heldRequest.bind (·.found) = none
  | .answer request traces =>
    sys.topBid = some request → (traces.bind (getTopBid sys.publicKey)).isSome →
      (sys.requests[request]?).map (·.slot) = sys.auctionBidInfo.map (·.slot)
  | _ => True

instance (sys : BidderSystem P) : ∀ event, Decidable (sys.InTime event)
  | .poll _ => inferInstanceAs (Decidable (_ → _))
  | .answer _ _ => inferInstanceAs (Decidable (_ → _ → _))
  | .onAuctionStart _ _ => .isTrue trivial
  | .makeBid _ => .isTrue trivial
  | .dropHandles => .isTrue trivial
  | .finalize _ _ _ => .isTrue trivial
  | .relayPoll => .isTrue trivial
  | .post _ _ => .isTrue trivial

/-! ## What an event does to the requests -/

/-- What an event does to the requests. -/
inductive RequestStep (sys : BidderSystem P) (event : BidderEvent) (sys' : BidderSystem P) :
    Prop where
  /-- Nothing. -/
  | same (requests : sys'.requests = sys.requests) (topBid : sys'.topBid = sys.topBid)
  /-- A request for the block of the auction is made, and its receiver is held. -/
  | asked (info : AuctionBidInfo) (auction : sys'.auctionBidInfo = some info)
      (requests : sys'.requests = sys.requests ++ [⟨info.blockNumber, info.slot, none⟩])
      (topBid : sys'.topBid = some sys.requests.length)
  /-- There is no auction to make a request for. -/
  | dropped (requests : sys'.requests = sys.requests) (topBid : sys'.topBid = none)
  /-- A request is answered. -/
  | answered (request : Nat) (traces : Option (List (RelayName × List BidTrace)))
      (old new : TopBidRequest) (answer : event = .answer request traces)
      (unanswered : sys.requests[request]? = some old) (reply : old.reply = none)
      (blockNumber : new.blockNumber = old.blockNumber) (slot : new.slot = old.slot)
      (found : new.found.isSome → (traces.bind (getTopBid sys.publicKey)).isSome)
      (auction : sys'.auctionBidInfo = sys.auctionBidInfo)
      (requests : sys'.requests = sys.requests.set request new) (topBid : sys'.topBid = sys.topBid)

/-- Another request follows a reply, and the first one follows none. -/
theorem spawnTopBidRequest_requests {sys sys' : BidderSystem P} {event : BidderEvent}
    (hrequests : sys'.requests = sys.requests) (htopBid : sys'.topBid = none) :
    RequestStep sys event { sys'.spawnTopBidRequest with phase := .builds } := by
  unfold spawnTopBidRequest
  split
  next info hinfo =>
    exact .asked info hinfo (by simp [hrequests]) (by simp [hrequests])
  next => exact .dropped hrequests htopBid

theorem onTopBidReply_requests (sys : BidderSystem P) (reply : TopBidReply) :
    (sys.onTopBidReply reply).requests = sys.requests ∧
      (sys.onTopBidReply reply).topBid = sys.topBid := by
  cases reply with
  | found topBid => exact ⟨rfl, rfl⟩
  | notFound => exact ⟨rfl, rfl⟩
  | failed => exact ⟨rfl, rfl⟩

theorem pollTopBid_requests (sys : BidderSystem P) (event : BidderEvent) :
    RequestStep sys event sys.pollTopBid := by
  unfold pollTopBid
  split
  next request hheld =>
    split
    next reply hreply =>
      have hsame := onTopBidReply_requests { sys with topBid := none } reply
      exact spawnTopBidRequest_requests hsame.1 hsame.2
    next => exact .same rfl rfl
  next hheld => exact spawnTopBidRequest_requests rfl hheld

variable [BidSelectionPolicy P]

theorem poll_requests (sys : BidderSystem P) (currentTime : U128) :
    RequestStep sys (.poll currentTime) (sys.poll currentTime) := by
  by_cases hphase : sys.phase = .topBid
  · have hpoll : sys.poll currentTime = sys.pollTopBid := by
      unfold poll
      rw [hphase]
    rw [hpoll]
    exact sys.pollTopBid_requests _
  · have hframe := sys.poll_frame currentTime
    exact .same (hframe.requests hphase) (hframe.topBid hphase)

theorem answer_requests (R : Reth) (sys : BidderSystem P) (request : Nat)
    (traces : Option (List (RelayName × List BidTrace))) :
    RequestStep sys (.answer request traces) (sys.step R (.answer request traces)) := by
  show RequestStep sys _ (sys.answer request traces)
  unfold answer
  split
  next blockNumber slot hreq =>
    refine .answered request traces ⟨blockNumber, slot, none⟩ _ rfl hreq rfl ?_ ?_ ?_ rfl rfl rfl
    · rfl
    · rfl
    · cases traces with
      | none => simp [TopBidRequest.found]
      | some traces =>
        cases htop : getTopBid sys.publicKey traces with
        | none => simp [TopBidRequest.found, htop]
        | some topBid => simp [htop]
  next => exact .same rfl rfl

/-- **What an event does to the requests.** -/
theorem step_requests (R : Reth) (sys : BidderSystem P) (event : BidderEvent) :
    RequestStep sys event (sys.step R event) := by
  rcases sys.step_cases R event with ⟨currentTime, rfl⟩ | ⟨huntouched, ⟨request, traces, rfl⟩ | hreqs⟩
  · exact sys.poll_requests currentTime
  · exact sys.answer_requests R request traces
  · exact .same hreqs huntouched.topBid

end BidderSystem

/-! ## Being in time, over a run -/

/-- The requests and an auction of a service that is in time. -/
structure RequestsFresh (requests : List TopBidRequest) (topBid : Option Nat)
    (info : AuctionBidInfo) : Prop where
  made : ∀ request ∈ requests, request.slot ≤ info.slot ∧
    (request.slot = info.slot → request.blockNumber = info.blockNumber)
  /-- A bid that waits to be read is for this auction. -/
  held : ∀ request ∈ topBid.bind (requests[·]?), request.found.isSome → request.slot = info.slot
  own : info.OwnTopBid requests

namespace RequestsFresh

variable {requests : List TopBidRequest} {topBid : Option Nat} {info info' : AuctionBidInfo}

/-- Only the slot, the block number and the top bid matter. -/
theorem congr (h : RequestsFresh requests topBid info) (hslot : info'.slot = info.slot)
    (hblock : info'.blockNumber = info.blockNumber)
    (hvalue : info'.bestAuctionBidValue = info.bestAuctionBidValue) :
    RequestsFresh requests topBid info' := by
  constructor
  · rw [hslot, hblock]
    exact h.made
  · rw [hslot]
    exact h.held
  · unfold AuctionBidInfo.OwnTopBid
    rw [hvalue, hblock]
    exact h.own

/-- The bid that waits is read. -/
theorem updateAuctionBidInfo (h : RequestsFresh requests topBid info) {request : TopBidRequest}
    (hheld : topBid.bind (requests[·]?) = some request) {bid : U256}
    (hfound : request.found = some bid) :
    RequestsFresh requests topBid (info.updateAuctionBidInfo bid) := by
  refine ⟨h.made, h.held, ?_⟩
  obtain ⟨index, -, hindex⟩ := Option.bind_eq_some_iff.mp hheld
  have hmem : request ∈ requests := List.mem_of_getElem? hindex
  have hslot := h.held request hheld (by rw [hfound]; rfl)
  have hblock := (h.made request hmem).2 hslot
  show wordMax info.bestAuctionBidValue bid = 0 ∨ ∃ request ∈ requests,
    request.blockNumber = info.blockNumber ∧
      request.found = some (wordMax info.bestAuctionBidValue bid)
  unfold wordMax
  split
  next => exact .inr ⟨request, hmem, hblock, hfound⟩
  next => exact h.own

/-- A request for the block of the auction is made. -/
theorem asked (h : RequestsFresh requests topBid info) :
    RequestsFresh (requests ++ [⟨info.blockNumber, info.slot, none⟩]) (some requests.length)
      info := by
  constructor
  · intro request hmem
    rcases List.mem_append.mp hmem with hold | hnew
    · exact h.made request hold
    · rw [List.mem_singleton.mp hnew]
      exact ⟨UInt64.le_refl _, fun _ => rfl⟩
  · intro request hheld _
    simp only [Option.bind_some, List.getElem?_concat_length, Option.mem_def,
      Option.some.injEq] at hheld
    rw [← hheld]
  · rcases h.own with hzero | ⟨request, hmem, hown⟩
    · exact .inl hzero
    · exact .inr ⟨request, List.mem_append_left _ hmem, hown⟩

theorem dropped (h : RequestsFresh requests topBid info) : RequestsFresh requests none info :=
  ⟨h.made, fun request hheld => by simp at hheld, h.own⟩

/-- A request is answered; a bid is found only for a request of this auction. -/
theorem answered (h : RequestsFresh requests topBid info) {index : Nat} {old new : TopBidRequest}
    (hindex : requests[index]? = some old) (hreply : old.reply = none)
    (hblock : new.blockNumber = old.blockNumber) (hslot : new.slot = old.slot)
    (hinTime : topBid = some index → new.found.isSome → old.slot = info.slot) :
    RequestsFresh (requests.set index new) topBid info := by
  have hlt : index < requests.length := (List.getElem?_eq_some_iff.mp hindex).1
  constructor
  · intro request hmem
    rcases List.mem_or_eq_of_mem_set hmem with hold | rfl
    · exact h.made request hold
    · rw [hslot, hblock]
      exact h.made old (List.mem_of_getElem? hindex)
  · intro request hheld hfound
    obtain ⟨held, htopBid, hget⟩ := Option.bind_eq_some_iff.mp hheld
    by_cases heq : held = index
    · rw [heq, List.getElem?_set_self hlt] at hget
      cases hget
      rw [hslot]
      exact hinTime (heq ▸ htopBid) hfound
    · rw [List.getElem?_set_ne (Ne.symm heq)] at hget
      exact h.held request (Option.bind_eq_some_iff.mpr ⟨held, htopBid, hget⟩) hfound
  · rcases h.own with hzero | ⟨request, hmem, hown⟩
    · exact .inl hzero
    · refine .inr ⟨request, ?_, hown⟩
      -- the request that is answered now had returned nothing
      obtain ⟨other, hother⟩ := List.mem_iff_getElem?.mp hmem
      have hne : index ≠ other := by
        intro heq
        rw [heq, hother] at hindex
        cases hindex
        simp [TopBidRequest.found, hreply] at hown
      exact List.mem_of_getElem? ((List.getElem?_set_ne hne).trans hother)

/-- A newer auction begins while no bid waits to be read. -/
theorem began (h : RequestsFresh requests topBid info) {slot : UInt64} (hnewer : info.slot < slot)
    (hread : (topBid.bind (requests[·]?)).bind (·.found) = none) (blockNumber : UInt64) :
    RequestsFresh requests topBid (.new slot blockNumber) := by
  constructor
  · intro request hmem
    have hlt : request.slot < slot := UInt64.lt_of_le_of_lt (h.made request hmem).1 hnewer
    exact ⟨UInt64.le_of_lt hlt, fun heq => absurd heq (UInt64.ne_of_lt hlt)⟩
  · intro request hheld hfound
    rw [hheld, Option.bind_some] at hread
    rw [hread] at hfound
    cases hfound
  · exact .inl rfl

end RequestsFresh

namespace BidderSystem

/-- The requests `requests`, with the receiver of `topBid`, and the auction of a system. -/
structure Fresh (sys : BidderSystem P) (requests : List TopBidRequest) (topBid : Option Nat) :
    Prop where
  idle : sys.auctionBidInfo = none → sys.phase = .panicked ∨ requests = []
  auction : ∀ info, sys.auctionBidInfo = some info → RequestsFresh requests topBid info

/-- An auction that goes on. -/
theorem Fresh.map {sys sys' : BidderSystem P} {requests : List TopBidRequest} {topBid : Option Nat}
    (h : Fresh sys requests topBid) {f : AuctionBidInfo → AuctionBidInfo}
    (hinfo : sys'.auctionBidInfo = sys.auctionBidInfo.map f)
    (hphase : sys.phase = .panicked → sys'.phase = .panicked)
    (hfresh : ∀ info, RequestsFresh requests topBid info →
      RequestsFresh requests topBid (f info)) : Fresh sys' requests topBid := by
  constructor
  · intro hnone
    rw [hinfo, Option.map_eq_none_iff] at hnone
    exact (h.idle hnone).imp_left hphase
  · intro info' hinfo'
    obtain ⟨info, hsome, rfl⟩ := Option.map_eq_some_iff.mp (hinfo ▸ hinfo')
    exact hfresh info (h.auction info hsome)

/-- A bid is found only for a request of the auction. -/
theorem RequestStep.fresh {sys sys' : BidderSystem P} {event : BidderEvent}
    (hstep : RequestStep sys event sys') (hinTime : sys.InTime event)
    (h : Fresh sys' sys.requests sys.topBid) : Fresh sys' sys'.requests sys'.topBid := by
  cases hstep with
  | same hrequests htopBid =>
    rw [hrequests, htopBid]
    exact h
  | asked info hinfo hrequests htopBid =>
    rw [hrequests, htopBid]
    constructor
    · intro hnone
      rw [hinfo] at hnone
      cases hnone
    · intro info' hinfo'
      cases hinfo.symm.trans hinfo'
      exact (h.auction info hinfo).asked
  | dropped hrequests htopBid =>
    rw [hrequests, htopBid]
    exact ⟨h.idle, fun info hinfo => (h.auction info hinfo).dropped⟩
  | answered request traces old new hanswer hold hreply hblock hslot hfound hinfo hrequests htopBid =>
    rw [hrequests, htopBid]
    cases hanswer
    constructor
    · intro hnone
      refine (h.idle hnone).imp_right fun hnil => ?_
      rw [hnil]
      rfl
    · intro info hsome
      refine (h.auction info hsome).answered hold hreply hblock hslot fun hheld hnew => ?_
      have hsame := hinTime hheld (hfound hnew)
      rw [hold, ← hinfo, hsome] at hsame
      exact Option.some.inj hsame

/-- A reply changes the auction only by the bid it found. -/
theorem pollTopBid_auctionBidInfo {sys : BidderSystem P} {request : TopBidRequest}
    (hheld : sys.heldRequest = some request) (hfound : request.found = none) :
    sys.pollTopBid.auctionBidInfo = sys.auctionBidInfo := by
  obtain ⟨index, htopBid, hindex⟩ := Option.bind_eq_some_iff.mp hheld
  unfold TopBidRequest.found at hfound
  unfold pollTopBid
  rw [htopBid]
  simp only [hindex, Option.bind_some]
  cases hreply : request.reply with
  | none => rfl
  | some reply =>
    rw [hreply] at hfound
    cases reply with
    | found topBid => cases hfound
    | notFound => exact spawnTopBidRequest_auctionBidInfo _
    | failed => exact spawnTopBidRequest_auctionBidInfo _

variable [BidSelectionPolicy P]

/-- An auction does not begin while a bid waits to be read. -/
theorem AuctionStep.fresh {sys sys' : BidderSystem P} {event : BidderEvent}
    (hstep : AuctionStep sys event sys') (hinTime : sys.InTime event)
    (h : Fresh sys sys.requests sys.topBid) : Fresh sys' sys.requests sys.topBid := by
  cases hstep with
  | same hinfo hbegun hreceived hphase =>
    exact h.map (hinfo.trans Option.map_id'.symm) hphase fun _ hfresh => hfresh
  | began slot blockNumber hpolled hphase hmessage hnewer hinfo hbegun hreceived =>
    obtain ⟨currentTime, rfl⟩ := hpolled
    obtain ⟨queue, hqueue⟩ := hmessage
    have hbegins : sys.beginsAuction = true := by
      simp only [beginsAuction, hphase, hqueue]
      cases hsome : sys.auctionBidInfo with
      | none => rfl
      | some info => simpa using hnewer info hsome
    have hread := hinTime hbegins
    constructor
    · intro hnone
      rw [hinfo] at hnone
      cases hnone
    · intro info' hinfo'
      cases hinfo.symm.trans hinfo'
      cases hsome : sys.auctionBidInfo with
      | some info => exact (h.auction info hsome).began (hnewer info hsome) hread blockNumber
      | none =>
        -- the first auction: there is no request yet
        rcases h.idle hsome with hpanicked | hnil
        · rw [hphase] at hpanicked
          cases hpanicked
        · rw [hnil]
          refine ⟨fun request hmem => absurd hmem (by simp), fun request hheld => ?_, .inl rfl⟩
          simp at hheld
  | topBid request topBid hheld hreply hinfo hbegun hreceived hphase =>
    obtain ⟨req, hreq, hfound⟩ := Option.bind_eq_some_iff.mp hreply
    refine h.map hinfo (absurd · hphase) fun info hfresh => ?_
    have hheldReq : sys.topBid.bind (sys.requests[·]?) = some req := by
      rw [hheld]
      exact hreq
    refine hfresh.updateAuctionBidInfo hheldReq ?_
    unfold TopBidRequest.found
    rw [hfound]
  | build buildState hinfo hbegun hreceived hphase =>
    refine h.map hinfo (absurd · hphase) fun info hfresh => ?_
    rw [info.onBuild_eq]
    exact hfresh.congr rfl rfl rfl
  | bid timeLeft bid hinfo hbegun hreceived hphase =>
    refine h.map hinfo (absurd · hphase) fun info hfresh => hfresh.congr ?_ ?_ ?_
    all_goals cases bid <;> rfl
  | panicked hinfo hbegun hreceived hphase =>
    constructor
    · intro _
      exact .inl hphase
    · intro info hsome
      rw [hinfo] at hsome
      cases hsome

theorem Fresh.step (R : Reth) {sys : BidderSystem P} {event : BidderEvent}
    (hinTime : sys.InTime event) (h : Fresh sys sys.requests sys.topBid) :
    Fresh (sys.step R event) (sys.step R event).requests (sys.step R event).topBid :=
  (sys.step_requests R event).fresh hinTime ((sys.step_auction R event).fresh hinTime h)

/-- **Top bids stay in their own auction, in a run that is in time.** The top bid
of an auction is zero or was returned by a request for its block, and to read the
reply to a request of an earlier auction changes nothing. -/
theorem top_bids_stay (R : Reth) (policy : P) (networkClock : NetworkClock)
    (publicKey : BlsPublicKey) (internalRelayEnabled : Bool) (events : List BidderEvent)
    (hinTime : Along (step R) InTime (new policy networkClock publicKey internalRelayEnabled)
      events) :
    let sys := run (step R) (new policy networkClock publicKey internalRelayEnabled) events
    ∀ info, sys.auctionBidInfo = some info →
      info.OwnTopBid sys.requests ∧
      ∀ request currentTime, sys.phase = .topBid → sys.heldRequest = some request →
        request.slot ≠ info.slot →
        (sys.step R (.poll currentTime)).auctionBidInfo = some info := by
  intro sys info hinfo
  have h : Fresh sys sys.requests sys.topBid :=
    run_induct (I := fun sys : BidderSystem P => Fresh sys sys.requests sys.topBid)
      (fun _ _ hinTime h => h.step R hinTime) events hinTime
      ⟨fun _ => .inr rfl, fun info hinfo => by cases hinfo⟩
  have hfresh := h.auction info hinfo
  refine ⟨hfresh.own, fun request currentTime hphase hheld hstale => ?_⟩
  have hfound : request.found = none :=
    Option.not_isSome_iff_eq_none.mp fun hfound => hstale (hfresh.held request hheld hfound)
  show (sys.poll currentTime).auctionBidInfo = some info
  unfold poll
  rw [hphase]
  exact (pollTopBid_auctionBidInfo hheld hfound).trans hinfo

/-- The auction of block 11 asks for its top bid. -/
def asksForTopBid : List BidderEvent := .onAuctionStart 1 11 :: polls 5

/-- The request is answered with a bid of 1000 wei of another builder. -/
def findsTopBid : BidderEvent := .answer 0 (some [(.merkle, [⟨[8], 1000⟩])])

/-- A bid for block 11, found once the next slot was announced, becomes the top
bid of the auction of block 12. -/
theorem late_top_bid :
    let sys := run (step transferChain) devnet
      (asksForTopBid ++ [.onAuctionStart 2 12, findsTopBid] ++ polls 3)
    (sys.requests.map fun request => (request.blockNumber, request.found)) =
      [(11, some 1000), (12, none)] ∧
    (sys.auctionBidInfo.map fun info => (info.slot, info.blockNumber, info.bestAuctionBidValue)) =
      some (2, 12, 1000) ∧
    ¬ ∀ info ∈ sys.auctionBidInfo, info.OwnTopBid sys.requests := by
  decide +kernel

/-- The same bid, found and read before the next slot is announced: the receiver
that is still held then is that of an earlier request. -/
theorem top_bid_in_time :
    let sys := run (step transferChain) devnet
      (asksForTopBid ++ [findsTopBid] ++ polls 4 ++ [.onAuctionStart 2 12] ++ polls 2)
    ∀ info, sys.auctionBidInfo = some info →
      info.OwnTopBid sys.requests ∧
      ∀ request currentTime, sys.phase = .topBid → sys.heldRequest = some request →
        request.slot ≠ info.slot →
        (sys.step transferChain (.poll currentTime)).auctionBidInfo = some info :=
  top_bids_stay transferChain DevnetPolicy.mk (.new 0 12) [7] false _ (by decide +kernel)

end BidderSystem

end BlockBuilder
