import BlockBuilder.Builder.Submissions
import BlockBuilder.Consensus.Types
import BlockBuilder.Lib.Simulation
import BlockBuilder.Relay.Validators
import BlockBuilder.Rpc.SendBundle

/-!
# The node (`bin/builder/src/main.rs`)

`main` starts the services and connects them: the main service reads the stream of the
consensus layer and the schedule of the validator service, and the bundle pool is the one
the RPC fills. Here all of these run side by side. What the builder took from its
surroundings in a run of its own now comes from what runs beside it.

`tells` says what that is for one step, and `run_builder` that the builder of a node is
a run of the builder on it. So what is known of every submission of the builder can be
said in terms of what reached the node from outside: the events of the consensus
client, the registrations the relays reported, and the bundles that were sent
(`submission_accounted`).

Mirroring notes:
- The layer is polled in the polls of the main service. Here it may be polled between any
  two steps: what it yields waits until the main service comes to it.
- A panic of the layer is a panic of the main service, which takes nothing up any more.
- The guard on the builds is left out. A run under the guard is a run without it.
- A request of the RPC that does not get the lock of the pool in time is not `acquired`.
-/

namespace BlockBuilder

open Lib (run run_nil run_cons told run_told told_split mem_told mem_told_of_forall)

/-- The steps of the builder that its surroundings bring about. -/
def SystemEvent.fromOutside : SystemEvent → Bool
  | .attributes _ _ | .consensusLayerEnds | .bundlePool _ => true
  | _ => false

/-- The main service asks the schedule that is in force. -/
def SystemEvent.withSchedule (service : ValidatorScheduleService) : SystemEvent → SystemEvent
  | .pollBuilder inputs => .pollBuilder { inputs with validatorInfo := service.validatorInfo }
  | event => event

inductive NodeEvent where
  /-- A step of the consensus layer, or of one of its connection tasks. -/
  | consensusLayer (event : ClEvent)
  /-- A step of the validator schedule service, or of one of its loads. -/
  | schedule (event : ValidatorEvent)
  /-- `eth_sendBundle`. -/
  | sendBundle (bundle : EthSendBundle) (acquired : Bool)
  /-- `eth_cancelBundle`. -/
  | cancelBundle (hash : B256) (acquired : Bool)
  /-- A step of the builder. -/
  | builder (event : SystemEvent)

/-- The part of it that is a step of the schedule service. -/
def NodeEvent.ofSchedule : NodeEvent → List ValidatorEvent
  | .schedule event => [event]
  | _ => []

structure NodeSystem (P : Type) where
  consensusLayer : ClRun
  schedule : ValidatorSystem
  builder : BuilderSystem P

/-- What the layer has yielded in a step, and whether it is gone. -/
def ClRun.announced (before after : ClRun) : List SystemEvent :=
  (after.yielded.drop before.yielded.length).map (fun item => .attributes item.1 item.2) ++
    if after.panicked then [.consensusLayerEnds] else []

namespace NodeSystem

variable {P : Type} [BidSelectionPolicy P]

def new (firstPoll : Nat → TaskState) (start : Nat) (payloadConfig : PayloadConfig)
    (bidder : BidderSystem P) : NodeSystem P where
  consensusLayer := .new firstPoll
  schedule := .new start
  builder := .new payloadConfig .new bidder

/-- A request has changed the bundle pool. -/
def withPool (sys : NodeSystem P) (pool : BundlePool) : NodeSystem P :=
  { sys with builder.builder.mevBundlesPool := pool }

section Steps

variable (R : Reth) (firstPoll : Nat → TaskState) (payloadId : B256 → PayloadAttributes → UInt64)

/-- One event. -/
def step (sys : NodeSystem P) : NodeEvent → NodeSystem P
  | .consensusLayer event =>
    let consensusLayer := sys.consensusLayer.step firstPoll payloadId event
    { sys with
      consensusLayer := consensusLayer
      builder := run (BuilderSystem.step R) sys.builder (sys.consensusLayer.announced consensusLayer) }
  | .schedule event => { sys with schedule := sys.schedule.step event }
  | .sendBundle bundle acquired =>
    sys.withPool (bundle.send R sys.builder.builder.mevBundlesPool acquired).2
  | .cancelBundle hash acquired =>
    sys.withPool (cancelBundleRequest hash sys.builder.builder.mevBundlesPool acquired).2
  | .builder event =>
    if event.fromOutside then sys
    else { sys with builder := sys.builder.step R (event.withSchedule sys.schedule.service) }

/-! ## What the builder is told -/

/-- The steps of the builder that an event of the node is. -/
def tells (sys : NodeSystem P) : NodeEvent → List SystemEvent
  | .consensusLayer event =>
    sys.consensusLayer.announced (sys.consensusLayer.step firstPoll payloadId event)
  | .schedule _ => []
  | .sendBundle bundle acquired =>
    match bundle.recovered R with
    | .ok b => if acquired then [.bundlePool (.add b)] else []
    | .error _ => []
  | .cancelBundle hash acquired => if acquired then [.bundlePool (.cancel hash)] else []
  | .builder event =>
    if event.fromOutside then [] else [event.withSchedule sys.schedule.service]

theorem step_builder (sys : NodeSystem P) (event : NodeEvent) :
    (sys.step R firstPoll payloadId event).builder =
      run (BuilderSystem.step R) sys.builder (sys.tells R firstPoll payloadId event) := by
  cases event with
  | consensusLayer event => rfl
  | schedule event => rfl
  | sendBundle bundle acquired =>
    simp only [step, tells, EthSendBundle.send]
    cases bundle.recovered R with
    | error err => rfl
    | ok b =>
      cases acquired with
      | false => rfl
      | true => rfl
  | cancelBundle hash acquired =>
    simp only [step, tells, cancelBundleRequest, BundlePool.cancelBundle]
    cases acquired with
    | false => rfl
    | true =>
      simp only [if_true, run_cons, run_nil, BuilderSystem.step, PoolOp.apply]
      cases sys.builder.builder.mevBundlesPool.inner.cancelBundle hash with
      | error err => rfl
      | ok p => rfl
  | builder event =>
    simp only [step, tells]
    split
    next => rfl
    next => rfl

/-- **The builder of a node is a run of the builder** on what it is told. -/
theorem run_builder (sys : NodeSystem P) (events : List NodeEvent) :
    (run (step R firstPoll payloadId) sys events).builder =
      run (BuilderSystem.step R) sys.builder
        (told (step R firstPoll payloadId) (tells R firstPoll payloadId) sys events) :=
  run_told (step_builder R firstPoll payloadId) events sys

theorem step_schedule (sys : NodeSystem P) (event : NodeEvent) :
    (sys.step R firstPoll payloadId event).schedule =
      run ValidatorSystem.step sys.schedule event.ofSchedule := by
  cases event with
  | builder event =>
    simp only [step]
    split
    next => rfl
    next => rfl
  | consensusLayer event => rfl
  | schedule event => rfl
  | sendBundle bundle acquired => rfl
  | cancelBundle hash acquired => rfl

end Steps

/-- The event of the node behind what the builder is told, for each thing it can be told. -/
def ToldBy (R : Reth) (payloadId : B256 → PayloadAttributes → UInt64)
    (service : ValidatorScheduleService) (event : NodeEvent) : SystemEvent → Prop
  | .attributes attributes slot => ∃ payload, event = .consensusLayer (.poll (.event payload)) ∧
      attributes = payload.intoRethPayloadAttributes payloadId ∧ slot = payload.proposalSlot
  | .consensusLayerEnds => ∃ event', event = .consensusLayer event'
  | .bundlePool (.add b) => ∃ bundle, event = .sendBundle bundle true ∧ bundle.recovered R = .ok b
  | .bundlePool (.cancel hash) => event = .cancelBundle hash true
  | .bundlePool (.prune _ _) => False
  | .pollBuilder inputs => ∃ inputs', event = .builder (.pollBuilder inputs') ∧
      inputs = { inputs' with validatorInfo := service.validatorInfo }
  | other => event = .builder other

section Histories

variable {R : Reth} {firstPoll : Nat → TaskState} {payloadId : B256 → PayloadAttributes → UInt64}

omit [BidSelectionPolicy P] in
/-- **What the builder is told, it is told by such an event.** -/
theorem toldBy_of_mem {sys : NodeSystem P} {event : NodeEvent} {x : SystemEvent}
    (h : x ∈ sys.tells R firstPoll payloadId event) :
    ToldBy R payloadId sys.schedule.service event x := by
  cases event with
  | consensusLayer event =>
    rcases List.mem_append.mp h with hitem | hends
    · obtain ⟨item, hdropped, rfl⟩ := List.mem_map.mp hitem
      rcases ClRun.step_yielded firstPoll payloadId sys.consensusLayer event with
        hsame | ⟨payload, rfl, hyielded⟩
      · rw [hsame, List.drop_length] at hdropped
        cases hdropped
      · rw [hyielded, List.drop_left, List.mem_singleton] at hdropped
        rw [hdropped]
        exact ⟨payload, rfl, rfl, rfl⟩
    · split at hends
      next =>
        rw [List.mem_singleton.mp hends]
        exact ⟨event, rfl⟩
      next => cases hends
  | schedule event => cases h
  | sendBundle bundle acquired =>
    simp only [tells] at h
    split at h
    next b hrecovered =>
      split at h
      next hacquired =>
        rw [List.mem_singleton.mp h, hacquired]
        exact ⟨bundle, rfl, hrecovered⟩
      next => cases h
    next => cases h
  | cancelBundle hash acquired =>
    simp only [tells] at h
    split at h
    next hacquired =>
      rw [List.mem_singleton.mp h, hacquired]
      rfl
    next => cases h
  | builder event =>
    simp only [tells] at h
    split at h
    next => cases h
    next hinside =>
      rw [List.mem_singleton.mp h]
      cases event with
      | attributes attributes slot => exact absurd rfl hinside
      | consensusLayerEnds => exact absurd rfl hinside
      | bundlePool op => exact absurd rfl hinside
      | pollBuilder inputs => exact ⟨inputs, rfl, rfl⟩
      | _ => rfl

/-! ## Attributes and their registration -/

omit [BidSelectionPolicy P] in
/-- A step of the builder is all the builder is told by it. -/
theorem nil_of_tells {sys : NodeSystem P} {event : SystemEvent} {earlier later : List SystemEvent}
    {x : SystemEvent} (h : sys.tells R firstPoll payloadId (.builder event) = earlier ++ x :: later) :
    earlier = [] := by
  simp only [tells] at h
  split at h
  next => simp at h
  next =>
    rcases List.cons_eq_append_iff.mp h with ⟨hnil, -⟩ | ⟨rest, -, hnil⟩
    · exact hnil
    · simp at hnil

/-- **What the schedule in force has for a slot** was reported to the load adopted last. -/
theorem schedule_reported {sys : NodeSystem P} {start : Nat} (hstart : sys.schedule = .new start)
    (events : List NodeEvent) {slot : UInt64} {info : ValidatorScheduleSlotInfo}
    (hinfo : (run (step R firstPoll payloadId) sys events).schedule.service.validatorInfo slot =
      some info) :
    info.slot = slot ∧ ∃ load results,
      (run (step R firstPoll payloadId) sys events).schedule.adopted.getLast? = some load ∧
      .schedule (.load load (some results)) ∈ events ∧
      ∃ reported ∈ results, ∃ data ∈ reported, info = .ofResponse data := by
  have hrun := run_told (step_schedule R firstPoll payloadId) events sys
  rw [hstart] at hrun
  rw [hrun] at hinfo ⊢
  obtain ⟨hslot, load, results, hlast, hload, hreported⟩ :=
    ValidatorSystem.validatorInfo_reported start _ hinfo
  refine ⟨hslot, load, results, hlast, ?_, hreported⟩
  obtain ⟨pre, event, post, rfl, hevent⟩ := mem_told.mp hload
  refine List.mem_append_right _ ?_
  cases event with
  | schedule event =>
    rw [List.mem_singleton.mp hevent]
    exact List.mem_cons_self
  | _ => cases hevent

/-- The main service takes attributes up in a poll. They are those of an event of the
stream, for a later time, and the registration for their slot is one that a relay
reported to the load of the schedule that was adopted last. -/
structure TakenUp (R : Reth) (firstPoll : Nat → TaskState)
    (payloadId : B256 → PayloadAttributes → UInt64) (node : NodeSystem P) (before : List NodeEvent)
    (inputs : BuilderInputs) (a : Announcement) : Prop where
  announced : ∃ payload, .consensusLayer (.poll (.event payload)) ∈ before ∧
    a.attributes = payload.intoRethPayloadAttributes payloadId ∧ a.slot = payload.proposalSlot
  ahead : inputs.now < a.attributes.timestamp
  registered : ∃ load results,
    (run (step R firstPoll payloadId) node before).schedule.adopted.getLast? = some load ∧
    .schedule (.load load (some results)) ∈ before ∧ ∃ reported ∈ results, ∃ data ∈ reported,
      data.slot = a.slot ∧ a.validatorInfo = .ofResponse data
  parentBlock : a.attributes.parent ≠ 0 → a.parentBlock.hash = a.attributes.parent

/-- **What the builder takes up** in a run of the node. -/
theorem takenUp {node : NodeSystem P} {start : Nat} (hstart : node.schedule = .new start)
    {events : List NodeEvent} {a : Announcement}
    (h : a.In R (told (step R firstPoll payloadId) (tells R firstPoll payloadId) node events)) :
    ∃ before inputs after, events = before ++ .builder (.pollBuilder inputs) :: after ∧
      TakenUp R firstPoll payloadId node before inputs a := by
  obtain ⟨before, after, hsplit, hannounced⟩ := h.announced
  obtain ⟨pre, event, post, earlier, later, rfl, htells, rfl, -⟩ := told_split hsplit
  have hmem : .pollBuilder a.inputs ∈ tells R firstPoll payloadId
      (run (step R firstPoll payloadId) node pre) event := by
    rw [htells]
    exact List.mem_append_right _ List.mem_cons_self
  obtain ⟨inputs, rfl, hinputs⟩ := toldBy_of_mem hmem
  obtain rfl : earlier = [] := nil_of_tells htells
  rw [List.append_nil] at hannounced
  refine ⟨pre, inputs, post, rfl, ?_⟩
  have hregistered := h.registered
  have hahead := h.ahead
  rw [hinputs] at hregistered hahead
  obtain ⟨hslot, load, results, hlast, hload, reported, hreported, data, hdata, hinfo⟩ :=
    schedule_reported hstart pre hregistered
  exact
    { announced := by
        obtain ⟨pre', event, post', rfl, hevent⟩ := mem_told.mp hannounced
        obtain ⟨payload, rfl, hattributes, hpayload⟩ := toldBy_of_mem hevent
        exact ⟨payload, List.mem_append_right _ List.mem_cons_self, hattributes, hpayload⟩
      ahead := hahead
      registered := ⟨load, results, hlast, hload, reported, hreported, data, hdata,
        by rw [← hslot, hinfo]; rfl, hinfo⟩
      parentBlock := BlockBuilderService.parentBlock_hash h.parentBlock }

/-! ## Bundles -/

/-- A bundle that was sent and acknowledged, and since then neither cancelled nor
overwritten by another one under its hash. -/
structure SentIn (R : Reth) (events : List NodeEvent) (bundle : Bundle) (before : List NodeEvent)
    (request : EthSendBundle) (after : List NodeEvent) : Prop where
  sent : events = before ++ .sendBundle request true :: after
  recovered : request.recovered R = .ok bundle
  kept : .cancelBundle bundle.hash true ∉ after
  alone : ∀ other b, .sendBundle other true ∈ after → other.recovered R = .ok b →
    b.hash = bundle.hash → b = bundle

/-- **A bundle in the pool was sent.** -/
theorem sent_of_pooled {node : NodeSystem P} {events : List NodeEvent} {bundle : Bundle}
    (h : Pooled .new (told (step R firstPoll payloadId) (tells R firstPoll payloadId) node events) bundle) :
    ∃ before request after, SentIn R events bundle before request after := by
  obtain ⟨before, after, hsplit, ⟨-, hlive⟩ | ⟨earlier, rfl⟩, hkept⟩ := h
  · exact absurd hlive (BundlePoolInner.not_live_new bundle)
  rw [List.append_assoc] at hsplit
  obtain ⟨pre, event, post, earlier', later, rfl, htells, -, rfl⟩ := told_split hsplit
  have hmem : .bundlePool (.add bundle) ∈ tells R firstPoll payloadId
      (run (step R firstPoll payloadId) node pre) event := by
    rw [htells]
    exact List.mem_append_right _ List.mem_cons_self
  obtain ⟨request, rfl, hrecovered⟩ := toldBy_of_mem hmem
  -- what any later request tells the builder is told after the bundle
  have hlater : ∀ {event : NodeEvent} {op : PoolOp}, event ∈ post →
      (∀ sys : NodeSystem P, .bundlePool op ∈ tells R firstPoll payloadId sys event) →
      ¬ op.Removes bundle := by
    intro event op hevent htells
    exact hkept op (List.mem_append_right _ (mem_told_of_forall hevent htells _))
  refine ⟨pre, request, post, rfl, hrecovered, fun hcancel => ?_, fun other b hother hb hhash => ?_⟩
  · exact hlater hcancel (fun _ => List.mem_singleton_self _) rfl
  · by_contra hne
    have hremoves : (PoolOp.add b).Removes bundle := ⟨hhash, hne⟩
    refine hlater hother (fun sys => ?_) hremoves
    simp only [tells, hb, if_true]
    exact List.mem_singleton_self _

/-- The transactions of a bundle that was sent for the block, all of them and in its
order, and a refund at most. -/
def SentBundle (R : Reth) (payloadConfig : PayloadConfig) (events : List NodeEvent) (a : Announcement)
    (txs : List TransactionSigned) : Prop :=
  ∃ bundle before request after recovered refund, SentIn R events bundle before request after ∧
    bundle.blockNumber = (a.config R payloadConfig).blockNumber ∧
    bundle.isWithinTimestamp a.attributes.timestamp = true ∧
    Bundle.recoverBundles R [bundle] = [recovered] ∧
    txs = recovered.recoveredTxs.map (·.intoSigned) ++ refund ∧ refund.length ≤ 1 ∧
    ∀ tx ∈ refund, tx.signature.recovers = some (R.publicAddress payloadConfig.secretKey)

/-- A block over bundles that were sent, transactions the pool offers, and the payment. -/
structure BuiltFrom (R : Reth) (payloadConfig : PayloadConfig) (events : List NodeEvent)
    (a : Announcement) (pool : Pool) (block : SealedBlock) (bundles : List (List TransactionSigned))
    (txs : List TransactionSignedEcRecovered) (payment : TransactionSigned) : Prop where
  body : block.body = bundles.flatten ++ txs.map (·.intoSigned) ++ [payment]
  bundles : ∀ part ∈ bundles, SentBundle R payloadConfig events a part
  pool : ∀ tx ∈ txs, ∃ blobFee,
    (pool.bestTransactionsWithAttributes (a.config R payloadConfig).basefee blobFee).Yields tx
  payment : payment.signature.recovers = some (R.publicAddress payloadConfig.secretKey) ∧
    payment.transaction.toAddress = some a.validatorInfo.feeRecipient

/-- **What a block of the builder was built from** in a run of the node. -/
theorem builtFrom {node : NodeSystem P} {payloadConfig : PayloadConfig} {events : List NodeEvent}
    {a : Announcement} {args : BuildArguments} {bs : BuildState} {bundles txs : List Part} {build : Build}
    (h : SealedFor R payloadConfig .new
      (told (step R firstPoll payloadId) (tells R firstPoll payloadId) node events) a args bs bundles txs
      build) :
    ∃ before task client pool acquired buildId after parts yielded payment,
      events = before ++ .builder (.build task client pool acquired buildId) :: after ∧
      BuiltFrom R payloadConfig before a pool build.payload.block parts yielded payment := by
  obtain ⟨before, task, after, hsplit, hpooled⟩ := h.ran
  obtain ⟨pre, event, post, earlier, later, rfl, htells, rfl, -⟩ := told_split hsplit
  have hmem : .build task args.client args.pool args.acquired args.buildId ∈ tells R firstPoll payloadId
      (run (step R firstPoll payloadId) node pre) event := by
    rw [htells]
    exact List.mem_append_right _ List.mem_cons_self
  obtain rfl : event = .builder _ := toldBy_of_mem hmem
  obtain rfl : earlier = [] := nil_of_tells htells
  rw [List.append_nil] at hpooled
  obtain ⟨parts, yielded, payment, hcomposed⟩ := h.composedOf hpooled
  refine ⟨pre, task, args.client, args.pool, args.acquired, args.buildId, post, parts, yielded, payment,
    rfl, hcomposed.body, fun part hpart => ?_, hcomposed.pool, hcomposed.payment⟩
  obtain ⟨bundle, recovered, refund, hbundle, hrest⟩ := hcomposed.bundles part hpart
  obtain ⟨before, request, after, hsent⟩ := sent_of_pooled hbundle
  exact ⟨bundle, before, request, after, recovered, refund, hsent, hrest⟩

end Histories

/-- From an event of the stream and a registration to the post of a bid. -/
example :
    let payload : SseExtendedPayloadAttributes := ⟨1, 4, 77, ⟨112, 5, 5, [⟨0, 0, 6, 3⟩]⟩⟩
    let registration : ValidatorRegistrationResponse := ⟨1, none, ⟨⟨5, 30000000, 0, []⟩, []⟩⟩
    let surroundings : List NodeEvent :=
      [.schedule (.poll 0), .schedule (.load 0 (some [[registration]])), .schedule (.receive 0),
        .consensusLayer (.poll .pending), .consensusLayer (.poll (.event payload))]
    let inputs : BuilderInputs := { BuilderSystem.transferInputs with validatorInfo := fun _ => none }
    let steps : List SystemEvent :=
      [.pollBuilder inputs, .announce] ++ BuilderSystem.bidderPolls 2 ++ BuilderSystem.jobBuilds 0 4 ++
        BuilderSystem.bidderPolls 6 ++ [.bidder (.finalize 0 transferClient (transferPool [])),
          .bidder .relayPoll, .bidder (.post 0 .merkle)]
    let node : NodeSystem DevnetPolicy :=
      new (fun _ => .finished) 0 transferConfig (.new DevnetPolicy.mk (.new 0 12) [7] false)
    let sys := run (step transferChain (fun _ => .finished) fun _ _ => 1) node
      (surroundings ++ steps.map .builder)
    (sys.builder.bidder.submitted.map fun sub => (sub.relay, sub.bid.slot, sub.bid.proposerFeeRecipient,
      sub.bid.value)) = [(.merkle, 1, 5, 63000)] := by
  decide +kernel

end NodeSystem

end BlockBuilder
