import BlockBuilder.Bidder.Service
import BlockBuilder.Builder.Service
import BlockBuilder.Bundles.Replacement
import BlockBuilder.Payload.Service

/-!
# The builder as a system

The main service, the payload service with its jobs and their tasks, and the
bidder run side by side and talk over channels:

- the consensus layer announces payload attributes to the main service;
- the main service commands a new payload and then announces the auction, each
  over a channel of its own;
- a job sends its build states to the bidder, over a third one.

An event is one step of one of them. A poll is cut where it sends or receives,
so that the others may run between the command and the announcement.

Mirroring notes:
- The bundle pool is shared: it stands in the main service, and tasks read it there.
- `produced` is history: the build states the jobs have sent, each with the slot
  of its job.
- The main service and the jobs hold handles of the bidder as long as they run,
  so the bidder's channels never end.
-/

namespace BlockBuilder

open Lib (Channel)

/-- The calls of the handles of the bidder, which the other services make. -/
def BidderEvent.ofHandle : BidderEvent → Bool
  | .onAuctionStart _ _ | .makeBid _ | .dropHandles => true
  | _ => false

structure BuilderSystem (P : Type) where
  /-- The attributes the consensus layer has announced. -/
  consensusLayer : Channel (EthPayloadBuilderAttributes × UInt64)
  builder : BlockBuilderService
  /-- The auction that is still to be announced by the current poll of the main service. -/
  announcing : Option (UInt64 × UInt64)
  generator : StreamJobGenerator
  payload : PayloadBuilderService StreamBuildJob
  builds : List BuildTask
  bidder : BidderSystem P
  produced : List (UInt64 × BuildState)

inductive SystemEvent where
  /-- The consensus layer announces attributes for a slot. -/
  | attributes (attributes : EthPayloadBuilderAttributes) (slot : UInt64)
  /-- The stream of the consensus layer ends. -/
  | consensusLayerEnds
  /-- The main service is polled, and comes to its first send or to the end. -/
  | pollBuilder (inputs : BuilderInputs)
  /-- The main service goes on to its second send. -/
  | announce
  /-- The bundle pool is changed over the RPC. -/
  | bundlePool (op : PoolOp)
  /-- The next step of the payload service; the deadline of the job it takes may
  have been reached. -/
  | pollPayload (deadlineReached : Bool)
  /-- A task runs. -/
  | build (task : Nat) (client : Client) (pool : Pool) (acquired : Bool) (buildId : BuildId)
  /-- A task panics. -/
  | buildPanics (task : Nat)
  /-- A step of the bidder and of what surrounds it. -/
  | bidder (event : BidderEvent)

namespace BuilderSystem

variable {P : Type} [BidSelectionPolicy P]

def new (payloadConfig : PayloadConfig) (mevBundlesPool : BundlePool) (bidder : BidderSystem P) :
    BuilderSystem P where
  consensusLayer := .new
  builder := .new payloadConfig mevBundlesPool
  announcing := none
  generator := ⟨payloadConfig⟩
  payload := .new
  builds := []
  bidder := bidder
  produced := []

/-- A poll of the main service, up to its first send. -/
def pollBuilder (R : Reth) (sys : BuilderSystem P) (inputs : BuilderInputs) : BuilderSystem P :=
  -- it is in the middle of a poll, or has returned when its stream ended
  if sys.announcing.isSome || sys.consensusLayer.closed then sys
  else
    match sys.consensusLayer.queue.getLast? with
    | none => sys
    | some (attributes, slot) =>
      let sys := { sys with consensusLayer := { sys.consensusLayer with queue := [] } }
      match sys.builder.onAttributes R inputs attributes slot with
      | (builder, none) => { sys with builder := builder }
      | (builder, some configs) =>
        { sys with
          builder := builder
          payload := sys.payload.buildNewPayload configs
          announcing := some (slot, configs.blockNumber) }

/-- The main service announces the auction. -/
def announce (R : Reth) (sys : BuilderSystem P) : BuilderSystem P :=
  match sys.announcing with
  | some (slot, blockNumber) =>
    { sys with
      bidder := sys.bidder.step R (.onAuctionStart slot blockNumber)
      announcing := none }
  | none => sys

/-- The payload service takes the next job, and polls it up to the task it spawns. -/
def pollJob (sys : BuilderSystem P) (idx : Nat) (deadlineReached : Bool) : BuilderSystem P :=
  let taken := sys.payload.takeJob idx
  match taken.phase with
  | .polling idx job id =>
    if deadlineReached then { sys with payload := taken.putBack idx id (.ready (.ok ())) }
    else
      let (job, builds) := job.spawnBuild sys.builds
      { sys with payload := { taken with phase := .polling idx job id }, builds := builds }
  | _ => { sys with payload := taken }

/-- The job polls its pending build, and is put back. -/
def pollPending (R : Reth) (sys : BuilderSystem P) (idx : Nat) (job : StreamBuildJob)
    (id : PayloadId) : BuilderSystem P :=
  match job.pollPending sys.builds with
  | (job, none) => { sys with payload := sys.payload.putBack idx id (.pending job) }
  | (job, some buildState) =>
    { sys with
      payload := sys.payload.putBack idx id (.pending job)
      bidder := sys.bidder.step R (.makeBid buildState)
      produced := sys.produced ++ [(job.buildConfig.slot, buildState)] }

/-- The next step of the payload service. -/
def pollPayload (R : Reth) (sys : BuilderSystem P) (deadlineReached : Bool) : BuilderSystem P :=
  match sys.payload.phase with
  | .jobs idx => sys.pollJob idx deadlineReached
  | .polling idx job id => sys.pollPending R idx job id
  | .commands => { sys with payload := sys.payload.receive sys.generator.newPayloadJob }
  | .panicked => sys

/-- A task runs. -/
def build (R : Reth) (sys : BuilderSystem P) (task : Nat) (client : Client) (pool : Pool)
    (acquired : Bool) (buildId : BuildId) : BuilderSystem P :=
  match sys.builds[task]? with
  | some build =>
    let inputs := ⟨client, pool, sys.builder.mevBundlesPool, acquired, buildId⟩
    { sys with builds := sys.builds.set task (build.run R inputs) }
  | none => sys

def buildPanics (sys : BuilderSystem P) (task : Nat) : BuilderSystem P :=
  match sys.builds[task]? with
  | some build => { sys with builds := sys.builds.set task build.drop }
  | none => sys

/-- One event. -/
def step (R : Reth) (sys : BuilderSystem P) : SystemEvent → BuilderSystem P
  | .attributes attributes slot =>
    { sys with consensusLayer := sys.consensusLayer.send (attributes, slot) }
  | .consensusLayerEnds => { sys with consensusLayer := sys.consensusLayer.close }
  | .pollBuilder inputs => sys.pollBuilder R inputs
  | .announce => sys.announce R
  | .bundlePool op =>
    let pool : BundlePool := ⟨op.apply sys.builder.mevBundlesPool.inner⟩
    { sys with builder := { sys.builder with mevBundlesPool := pool } }
  | .pollPayload deadlineReached => sys.pollPayload R deadlineReached
  | .build task client pool acquired buildId => sys.build R task client pool acquired buildId
  | .buildPanics task => sys.buildPanics task
  | .bidder event => if event.ofHandle then sys else { sys with bidder := sys.bidder.step R event }

end BuilderSystem

end BlockBuilder
