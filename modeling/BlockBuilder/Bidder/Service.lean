import BlockBuilder.Bidder.Policy
import BlockBuilder.Consensus.Clock
import BlockBuilder.Payload.Payment
import BlockBuilder.Relay.Service

/-!
# The bidder service (`crates/payload/src/bidder/service.rs`)

`BidderService` is a future. Each poll of it drains the auction starts, looks at
the reply to its top-bid request, drains the build states, and then computes a
bid and spawns a task that finalizes and submits it. Other tasks run meanwhile:
messages arrive in the middle of a poll, requests are answered at any time, and
the tasks of several bids race to the relays.

The state below is the service with the tasks it has spawned and the relay
service they talk to, and an event is one step of one of them. A poll is cut
where it looks at a channel: one event `poll` receives one message, or finds
that there is none and goes on to the next part.

Mirroring notes:
- The receiver of a request is the number of the request; a submission carries
  the number of its task.
- `this.auction_bid_info.take()` is written out, so that a branch which forgets
  to put the information back would lose it here as well.
- A panic in `compute_bid` ends the service in the middle of a poll, after the
  information was taken.
- `begun`, `received` and the slot of a request are history: no step reads them.
- Metrics, and waking a task that was pending, are left out.
-/

namespace BlockBuilder

open Lib (Channel run)
open BidSelectionPolicy (blockValue computeBid)

/-! ## The spawned tasks -/

/-- What a top-bid request comes back with. -/
inductive TopBidReply where
  | found (topBid : BidTrace)
  | notFound
  /-- An error of the relay service, or a task that was dropped. -/
  | failed

structure TopBidRequest where
  blockNumber : UInt64
  /-- The slot of the auction that made the request. -/
  slot : UInt64
  reply : Option TopBidReply

/-- How far `finalize_and_submit_build` has come. -/
inductive SubmitStage where
  | spawned
  /-- The bid was sent to the relay service. -/
  | commanded
  /-- The relays the bid is still to be posted to. -/
  | broadcasting (relays : List RelayName) (bid : Bid)
  /-- The build could not be finalized. -/
  | failed

structure SubmitTask where
  buildState : BuildState
  bidValue : U256
  stage : SubmitStage

def SubmitTask.slot (task : SubmitTask) : UInt64 := task.buildState.buildConfig.slot

/-! ## The service and its surroundings -/

/-- Where the service is in `poll`. -/
inductive PollPhase where
  | auctionStarts
  | topBid
  | builds
  | bid
  /-- `Poll::Ready(())`: a channel has ended. -/
  | terminated
  | panicked
  deriving DecidableEq, Repr

structure BidderSystem (P : Type) where
  phase : PollPhase
  auctionStartReceiver : Channel (UInt64 × UInt64)
  buildsReceiver : Channel BuildState
  topBid : Option Nat
  policy : P
  networkClock : NetworkClock
  auctionBidInfo : Option AuctionBidInfo
  /-- The public key of the signer. -/
  publicKey : BlsPublicKey
  requests : List TopBidRequest
  tasks : List SubmitTask
  relays : List RelayName
  /-- The commands of the relay service, each with the task that awaits its answer. -/
  commandRx : Channel (Nat × Bid)
  submitted : List Submission
  /-- The slots of the auctions begun so far. -/
  begun : List UInt64
  /-- The build states received since the current auction began. -/
  received : List BuildState

inductive BidderEvent where
  /-- `BidderServiceHandle::on_auction_start`. -/
  | onAuctionStart (slot blockNumber : UInt64)
  /-- `BidderServiceHandle::make_bid`. -/
  | makeBid (buildState : BuildState)
  /-- The last handle is dropped. -/
  | dropHandles
  /-- The next step of the service, at a current time. -/
  | poll (currentTime : U128)
  /-- A request is answered with what the relays report, or fails. -/
  | answer (request : Nat) (traces : Option (List (RelayName × List BidTrace)))
  /-- A task builds its block and sends the bid to the relay service. -/
  | finalize (task : Nat) (client : Client) (pool : Pool)
  /-- The relay service handles a command. -/
  | relayPoll
  /-- A task posts its bid to a relay. -/
  | post (task : Nat) (relay : RelayName)

namespace BidderSystem

variable {P : Type} [BidSelectionPolicy P]

/-- A new bidder service. -/
def new (policy : P) (networkClock : NetworkClock) (publicKey : BlsPublicKey)
    (internalRelayEnabled : Bool) : BidderSystem P where
  phase := .auctionStarts
  auctionStartReceiver := .new
  buildsReceiver := .new
  topBid := none
  policy := policy
  networkClock := networkClock
  auctionBidInfo := none
  publicKey := publicKey
  requests := []
  tasks := []
  relays := RelayPool.new internalRelayEnabled
  commandRx := .new
  submitted := []
  begun := []
  received := []

/-! ## Poll -/

/-- `on_new_slot_auction`. -/
def onNewSlotAuction (sys : BidderSystem P) (slot blockNumber : UInt64) : BidderSystem P :=
  { sys with
    auctionBidInfo := some (.new slot blockNumber)
    begun := sys.begun ++ [slot]
    received := [] }

/-- `spawn_top_bid_request`. -/
def spawnTopBidRequest (sys : BidderSystem P) : BidderSystem P :=
  match sys.auctionBidInfo with
  | some info =>
    { sys with
      requests := sys.requests ++ [⟨info.blockNumber, info.slot, none⟩]
      topBid := some sys.requests.length }
  | none => sys

/-- One turn of the loop over the auction starts. -/
def pollAuctionStarts (sys : BidderSystem P) : BidderSystem P :=
  match sys.auctionStartReceiver.pollRecv with
  | (.message (slot, blockNumber), rest) =>
    let sys := { sys with auctionStartReceiver := rest }
    if sys.auctionBidInfo.all fun info => info.slot < slot then
      sys.onNewSlotAuction slot blockNumber
    else sys
  | (.ended, _) => { sys with phase := .terminated }
  | (.pending, _) => { sys with phase := .topBid }

/-- What a reply changes: a top bid that was found, and nothing else. -/
def onTopBidReply (sys : BidderSystem P) : TopBidReply → BidderSystem P
  | .found topBid =>
    { sys with auctionBidInfo := sys.auctionBidInfo.map (·.updateAuctionBidInfo topBid.value) }
  | _ => sys

/-- Poll for the top bid; another request follows each reply. -/
def pollTopBid (sys : BidderSystem P) : BidderSystem P :=
  match sys.topBid with
  | some request =>
    match (sys.requests[request]?).bind (·.reply) with
    | some reply =>
      { ({ sys with topBid := none }.onTopBidReply reply).spawnTopBidRequest with phase := .builds }
    | none => { sys with phase := .builds }
  | none => { sys.spawnTopBidRequest with phase := .builds }

/-- Compare a new build state with the best one of its auction. -/
def onBuildState (sys : BidderSystem P) (buildState : BuildState) : BidderSystem P :=
  let slot := buildState.buildConfig.slot
  let taken := { sys with auctionBidInfo := none }
  match sys.auctionBidInfo with
  | none => taken
  | some info =>
    match compare slot info.slot with
    | .lt => { taken with auctionBidInfo := some info }
    | .gt => { taken with auctionBidInfo := some info }
    | .eq =>
      let isBetter := (info.bestBlock.map fun block =>
        isBetterBlockValue sys.policy block.execDetails buildState.execDetails).getD true
      if !isBetter then { taken with auctionBidInfo := some info }
      else
        let value := blockValue sys.policy buildState.execDetails
        { taken with auctionBidInfo := some (info.updateBlockInfo buildState value) }

/-- One turn of the loop over the build states. -/
def pollBuilds (sys : BidderSystem P) : BidderSystem P :=
  match sys.buildsReceiver.pollRecv with
  | (.message buildState, rest) =>
    { sys with
      buildsReceiver := rest
      received := sys.received ++ [buildState] }.onBuildState buildState
  | (.ended, _) => { sys with phase := .terminated }
  | (.pending, _) => { sys with phase := .bid }

/-- Compute the bid, and spawn its submission. -/
def pollBid (sys : BidderSystem P) (currentTime : U128) : BidderSystem P :=
  let taken := { sys with auctionBidInfo := none }
  match sys.auctionBidInfo with
  | none => { sys with phase := .auctionStarts }
  | some info =>
    let timeLeft := sys.networkClock.timeUntilSlotSignedMs currentTime info.slot
    let info := info.refreshTime timeLeft
    match computeBid sys.policy info with
    | .error _ => { taken with phase := .panicked }
    | .ok bid =>
      match bid, info.bestBlock with
      | some bidValue, some buildState =>
        { taken with
          auctionBidInfo := some (info.updateBidInfo bidValue)
          tasks := sys.tasks ++ [⟨buildState, bidValue, .spawned⟩]
          phase := .auctionStarts }
      | _, _ => { taken with auctionBidInfo := some info, phase := .auctionStarts }

/-- The next step of `poll`. -/
def poll (sys : BidderSystem P) (currentTime : U128) : BidderSystem P :=
  match sys.phase with
  | .auctionStarts => sys.pollAuctionStarts
  | .topBid => sys.pollTopBid
  | .builds => sys.pollBuilds
  | .bid => sys.pollBid currentTime
  | .terminated => sys
  | .panicked => sys

/-! ## The other tasks -/

/-- A request is answered once. -/
def answer (sys : BidderSystem P) (request : Nat)
    (traces : Option (List (RelayName × List BidTrace))) : BidderSystem P :=
  match sys.requests[request]? with
  | some ⟨blockNumber, slot, none⟩ =>
    let reply := match traces with
      | none => .failed
      | some traces =>
        match getTopBid sys.publicKey traces with
        | some topBid => .found topBid
        | none => .notFound
    { sys with requests := sys.requests.set request ⟨blockNumber, slot, some reply⟩ }
  | _ => sys

/-- The first part of `finalize_and_submit_build`, up to the answer of the relay service. -/
def finalize (R : Reth) (sys : BidderSystem P) (task : Nat) (client : Client) (pool : Pool) :
    BidderSystem P :=
  match sys.tasks[task]? with
  | some ⟨buildState, bidValue, .spawned⟩ =>
    match buildSubmissionWithBuilderPayment R client pool buildState bidValue with
    | .ok build =>
      { sys with
        tasks := sys.tasks.set task ⟨buildState, bidValue, .commanded⟩
        commandRx := sys.commandRx.send (task, Bid.new build sys.publicKey) }
    | .error _ => { sys with tasks := sys.tasks.set task ⟨buildState, bidValue, .failed⟩ }
  | _ => sys

/-- `RelayService::poll`: the future of the submission goes back to the task. -/
def relayPoll (sys : BidderSystem P) : BidderSystem P :=
  match sys.commandRx.pollRecv with
  | (.message (task, bid), rest) =>
    match sys.tasks[task]? with
    | some ⟨buildState, bidValue, .commanded⟩ =>
      { sys with
        commandRx := rest
        tasks := sys.tasks.set task ⟨buildState, bidValue, .broadcasting sys.relays bid⟩ }
    | _ => { sys with commandRx := rest }
  | _ => sys

/-- The task hands its bid to one of the relays. -/
def post (sys : BidderSystem P) (task : Nat) (relay : RelayName) : BidderSystem P :=
  match sys.tasks[task]? with
  | some ⟨buildState, bidValue, .broadcasting relays bid⟩ =>
    if relay ∈ relays then
      { sys with
        tasks := sys.tasks.set task ⟨buildState, bidValue, .broadcasting (relays.erase relay) bid⟩
        submitted := sys.submitted ++ [⟨relay, task, bid⟩] }
    else sys
  | _ => sys

/-- One event. -/
def step (R : Reth) (sys : BidderSystem P) : BidderEvent → BidderSystem P
  | .onAuctionStart slot blockNumber =>
    { sys with auctionStartReceiver := sys.auctionStartReceiver.send (slot, blockNumber) }
  | .makeBid buildState => { sys with buildsReceiver := sys.buildsReceiver.send buildState }
  | .dropHandles =>
    { sys with
      auctionStartReceiver := sys.auctionStartReceiver.close
      buildsReceiver := sys.buildsReceiver.close }
  | .poll currentTime => sys.poll currentTime
  | .answer request traces => sys.answer request traces
  | .finalize task client pool => sys.finalize R task client pool
  | .relayPoll => sys.relayPoll
  | .post task relay => sys.post task relay

end BidderSystem

end BlockBuilder
