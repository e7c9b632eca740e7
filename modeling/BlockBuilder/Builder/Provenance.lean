import BlockBuilder.Bidder.Submitting
import BlockBuilder.Builder.Delivery
import BlockBuilder.Builder.Jobs
import BlockBuilder.Bundles.Origins
import BlockBuilder.Primitives.Validator

/-!
# Where a submission comes from

Between an announcement of the consensus layer and the bid a relay is handed lie
four services and as many channels, and any of them may run while the others
wait. A bid that is submitted is nevertheless for attributes that were announced,
before the main service took them up and while their time had not passed: its
block is on their parent, at their time, with their randao and withdrawals, and
it names the proposer that was registered for their slot.

`Announced` says which configurations there can be after a list of events, and
`Provenance` says of every place of the system that what lies there was made from
one of them. Events only add to what can be there (`Announced.concat`), and each
takes what it puts somewhere from another place.
-/

namespace BlockBuilder

open Lib (Channel run run_concat)

/-! ## Announcements -/

/-- Attributes the main service has taken up, with what it read for them. -/
structure Announcement where
  attributes : EthPayloadBuilderAttributes
  slot : UInt64
  inputs : BuilderInputs
  parentBlock : SealedBlock
  validatorInfo : ValidatorScheduleSlotInfo

namespace Announcement

def config (R : Reth) (payloadConfig : PayloadConfig) (a : Announcement) : BuildConfig :=
  .new R payloadConfig.chainSpec a.attributes a.parentBlock a.slot a.validatorInfo

/-- The attributes were announced, and then taken up before their time. -/
structure In (R : Reth) (events : List SystemEvent) (a : Announcement) : Prop where
  announced : ∃ before after, events = before ++ .pollBuilder a.inputs :: after ∧
    .attributes a.attributes a.slot ∈ before
  ahead : a.inputs.now < a.attributes.timestamp
  parentBlock : BlockBuilderService.parentBlock R a.inputs a.attributes = .ok a.parentBlock
  registered : a.inputs.validatorInfo a.slot = some a.validatorInfo

theorem In.concat {R : Reth} {events : List SystemEvent} {a : Announcement} (h : a.In R events)
    (event : SystemEvent) : a.In R (events ++ [event]) := by
  obtain ⟨before, after, hsplit, hmem⟩ := h.announced
  refine ⟨⟨before, after ++ [event], ?_, hmem⟩, h.ahead, h.parentBlock, h.registered⟩
  rw [hsplit, List.append_assoc, List.cons_append]

end Announcement

/-- A configuration that was made for attributes the main service took up. -/
def Announced (R : Reth) (payloadConfig : PayloadConfig) (events : List SystemEvent)
    (config : BuildConfig) : Prop :=
  ∃ a : Announcement, a.In R events ∧ config = a.config R payloadConfig

/-! ## Bundles -/

/-- A bundle that was there at the start or was added, and that no operation has
removed since. -/
def Pooled (bundlePool : BundlePool) (events : List SystemEvent) (bundle : Bundle) : Prop :=
  ∃ before after, events = before ++ after ∧
    (before = [] ∧ bundlePool.inner.Live bundle ∨
      ∃ earlier, before = earlier ++ [.bundlePool (.add bundle)]) ∧
    ∀ op, .bundlePool op ∈ after → ¬ op.Removes bundle

/-- An event that does not remove the bundle. -/
theorem Pooled.concat {bundlePool : BundlePool} {events : List SystemEvent} {bundle : Bundle}
    (h : Pooled bundlePool events bundle) {event : SystemEvent}
    (hevent : ∀ op, event = .bundlePool op → ¬ op.Removes bundle) :
    Pooled bundlePool (events ++ [event]) bundle := by
  obtain ⟨before, after, rfl, hcame, hkept⟩ := h
  refine ⟨before, after ++ [event], List.append_assoc _ _ _, hcame, fun op hop => ?_⟩
  rcases List.mem_append.mp hop with hold | hnew
  · exact hkept op hold
  · exact hevent op (List.mem_singleton.mp hnew).symm

/-! ## Builds -/

/-- A task that ran, on a pool of bundles that were all there. -/
def Ran (bundlePool : BundlePool) (events : List SystemEvent) (args : BuildArguments) : Prop :=
  ∃ before task after,
    events = before ++ .build task args.client args.pool args.acquired args.buildId :: after ∧
    ∀ bundle, args.bundlePool.inner.Live bundle → Pooled bundlePool before bundle

/-- A build state that a task has made for such a configuration. -/
def Made (R : Reth) (payloadConfig : PayloadConfig) (bundlePool : BundlePool)
    (events : List SystemEvent) (bs : BuildState) : Prop :=
  ∃ args : BuildArguments, Announced R payloadConfig events args.buildConfig ∧
    Ran bundlePool events args ∧ (Strategy.bundlesStrat ⟨payloadConfig⟩).tryBuild R args = .ok (.better bs)

/-- A bid with the block of such a build state. -/
def Bids (R : Reth) (payloadConfig : PayloadConfig) (bundlePool : BundlePool)
    (events : List SystemEvent) (publicKey : BlsPublicKey) (bid : Bid) : Prop :=
  ∃ bs value client pool build, Made R payloadConfig bundlePool events bs ∧
    buildSubmissionWithBuilderPayment R client pool bs value = .ok build ∧
    bid = .new build publicKey

section Concat

variable {R : Reth} {payloadConfig : PayloadConfig} {bundlePool : BundlePool} {events : List SystemEvent}

theorem Announced.concat {config : BuildConfig} (h : Announced R payloadConfig events config)
    (event : SystemEvent) : Announced R payloadConfig (events ++ [event]) config := by
  obtain ⟨a, hin, hconfig⟩ := h
  exact ⟨a, hin.concat event, hconfig⟩

theorem Made.concat {bs : BuildState} (h : Made R payloadConfig bundlePool events bs) (event : SystemEvent) :
    Made R payloadConfig bundlePool (events ++ [event]) bs := by
  obtain ⟨args, hannounced, ⟨before, task, after, hsplit, hpooled⟩, hbuilt⟩ := h
  refine ⟨args, hannounced.concat event, ⟨before, task, after ++ [event], ?_, hpooled⟩, hbuilt⟩
  rw [hsplit, List.append_assoc, List.cons_append]

theorem Bids.concat {publicKey : BlsPublicKey} {bid : Bid}
    (h : Bids R payloadConfig bundlePool events publicKey bid) (event : SystemEvent) :
    Bids R payloadConfig bundlePool (events ++ [event]) publicKey bid := by
  obtain ⟨bs, value, client, pool, build, hmade, hbuild, hbid⟩ := h
  exact ⟨bs, value, client, pool, build, hmade.concat event, hbuild, hbid⟩

end Concat

/-! ## The bidder -/

namespace BidderSystem

variable {P : Type}

/-- Every build state and every bid the bidder holds has the property. -/
structure Carries (publicKey : BlsPublicKey) (made : BuildState → Prop) (bids : Bid → Prop)
    (sys : BidderSystem P) : Prop where
  publicKey : sys.publicKey = publicKey
  waiting : ∀ bs ∈ sys.buildsReceiver.queue, made bs
  best : ∀ info bs, sys.auctionBidInfo = some info → info.bestBlock = some bs → made bs
  tasks : ∀ task ∈ sys.tasks, made task.buildState
  broadcasts : ∀ task ∈ sys.tasks, ∀ left bid, task.stage = .broadcasting left bid → bids bid
  commands : ∀ message ∈ sys.commandRx.queue, bids message.2
  submitted : ∀ sub ∈ sys.submitted, bids sub.bid

namespace Carries

variable {publicKey : BlsPublicKey} {made made' : BuildState → Prop} {bids bids' : Bid → Prop}
  {sys : BidderSystem P}

theorem mono (h : sys.Carries publicKey made bids) (hmade : ∀ bs, made bs → made' bs)
    (hbids : ∀ bid, bids bid → bids' bid) : sys.Carries publicKey made' bids' where
  publicKey := h.publicKey
  waiting bs hbs := hmade bs (h.waiting bs hbs)
  best info bs hinfo hbest := hmade bs (h.best info bs hinfo hbest)
  tasks task htask := hmade _ (h.tasks task htask)
  broadcasts task htask left bid hstage := hbids bid (h.broadcasts task htask left bid hstage)
  commands message hmessage := hbids _ (h.commands message hmessage)
  submitted sub hsub := hbids _ (h.submitted sub hsub)

/-- A task goes on to its next stage. -/
theorem setStage (h : sys.Carries publicKey made bids) {index : Nat} {task : SubmitTask}
    (htask : sys.tasks[index]? = some task) {stage : SubmitStage}
    (hstage : ∀ left bid, stage = .broadcasting left bid → bids bid) {commands : Channel (Nat × Bid)}
    (hcommands : ∀ message ∈ commands.queue, bids message.2) {submitted : List Submission}
    (hsubmitted : ∀ sub ∈ submitted, bids sub.bid) :
    Carries publicKey made bids
      { sys with
        tasks := sys.tasks.set index { task with stage := stage }
        commandRx := commands
        submitted := submitted } where
  publicKey := h.publicKey
  waiting := h.waiting
  best := h.best
  tasks other hother := by
    rcases List.mem_or_eq_of_mem_set hother with hold | rfl
    · exact h.tasks other hold
    · exact h.tasks task (List.mem_of_getElem? htask)
  broadcasts other hother left bid hother' := by
    rcases List.mem_or_eq_of_mem_set hother with hold | rfl
    · exact h.broadcasts other hold left bid hother'
    · exact hstage left bid hother'
  commands := hcommands
  submitted := hsubmitted

theorem finalize (R : Reth) (h : sys.Carries publicKey made bids)
    (hbids : ∀ bs value client pool build, made bs →
      buildSubmissionWithBuilderPayment R client pool bs value = .ok build →
      bids (.new build publicKey)) (task : Nat) (client : Client) (pool : Pool) :
    Carries publicKey made bids (sys.finalize R task client pool) := by
  unfold BidderSystem.finalize
  split
  next buildState bidValue htask =>
    split
    next build hbuild =>
      have hmade := h.tasks _ (List.mem_of_getElem? htask)
      refine h.setStage htask (fun _ _ hstage => by cases hstage) (fun message hmessage => ?_)
        h.submitted
      rcases List.mem_append.mp hmessage with hold | hnew
      · exact h.commands message hold
      · rw [List.mem_singleton.mp hnew, h.publicKey]
        exact hbids buildState bidValue client pool build hmade hbuild
    next =>
      exact h.setStage htask (fun _ _ hstage => by cases hstage) h.commands h.submitted
  next => exact h

theorem relayPoll (h : sys.Carries publicKey made bids) :
    Carries publicKey made bids sys.relayPoll := by
  unfold BidderSystem.relayPoll
  split
  next task bid rest hrecv =>
    have hqueue := Channel.pollRecv_message hrecv
    have hbid : bids bid := h.commands (task, bid) (by rw [hqueue]; exact List.mem_cons_self)
    have hrest : ∀ message ∈ rest.queue, bids message.2 := fun message hmessage =>
      h.commands message (by rw [hqueue]; exact List.mem_cons_of_mem _ hmessage)
    split
    next htask =>
      refine h.setStage htask (fun left bid' hstage => ?_) hrest h.submitted
      cases hstage
      exact hbid
    next => exact ⟨h.publicKey, h.waiting, h.best, h.tasks, h.broadcasts, hrest, h.submitted⟩
  next => exact h

theorem post (h : sys.Carries publicKey made bids) (task : Nat) (relay : RelayName) :
    Carries publicKey made bids (sys.post task relay) := by
  unfold BidderSystem.post
  split
  next buildState bidValue left bid htask =>
    split
    next =>
      have hbid : bids bid := h.broadcasts _ (List.mem_of_getElem? htask) left bid rfl
      refine h.setStage htask (fun left' bid' hstage => ?_) h.commands (fun sub hsub => ?_)
      · cases hstage
        exact hbid
      · rcases List.mem_append.mp hsub with hold | hnew
        · exact h.submitted sub hold
        · rw [List.mem_singleton.mp hnew]
          exact hbid
    next => exact h
  next => exact h

theorem pollAuctionStarts (h : sys.Carries publicKey made bids) :
    Carries publicKey made bids sys.pollAuctionStarts := by
  unfold BidderSystem.pollAuctionStarts
  split
  next slot blockNumber rest _ =>
    simp only
    split
    next =>
      -- an auction begins without a block
      refine ⟨h.publicKey, h.waiting, fun info bs hinfo hbest => ?_, h.tasks, h.broadcasts,
        h.commands, h.submitted⟩
      cases hinfo
      cases hbest
    next => exact ⟨h.publicKey, h.waiting, h.best, h.tasks, h.broadcasts, h.commands, h.submitted⟩
  next => exact ⟨h.publicKey, h.waiting, h.best, h.tasks, h.broadcasts, h.commands, h.submitted⟩
  next => exact ⟨h.publicKey, h.waiting, h.best, h.tasks, h.broadcasts, h.commands, h.submitted⟩

theorem pollTopBid (h : sys.Carries publicKey made bids) :
    Carries publicKey made bids sys.pollTopBid := by
  have hbest : ∀ info bs, sys.pollTopBid.auctionBidInfo = some info → info.bestBlock = some bs →
      made bs := by
    unfold BidderSystem.pollTopBid
    split
    next =>
      split
      next reply _ =>
        rw [spawnTopBidRequest_eq]
        cases reply with
        | found topBid =>
          intro info bs hinfo hblock
          obtain ⟨before, hbefore, rfl⟩ := Option.map_eq_some_iff.mp hinfo
          exact h.best before bs hbefore hblock
        | notFound => exact h.best
        | failed => exact h.best
      next => exact h.best
    next =>
      rw [spawnTopBidRequest_eq]
      exact h.best
  rw [pollTopBid_eq]
  exact ⟨h.publicKey, h.waiting, hbest, h.tasks, h.broadcasts, h.commands, h.submitted⟩

variable [BidSelectionPolicy P]

theorem pollBuilds (h : sys.Carries publicKey made bids) :
    Carries publicKey made bids sys.pollBuilds := by
  unfold BidderSystem.pollBuilds
  split
  next received rest hrecv =>
    have hqueue := Channel.pollRecv_message hrecv
    have hreceived : made received := h.waiting received (by rw [hqueue]; exact List.mem_cons_self)
    rw [onBuildState_eq]
    refine ⟨h.publicKey, fun bs hbs => ?_, fun info bs hinfo hblock => ?_, h.tasks, h.broadcasts,
      h.commands, h.submitted⟩
    · exact h.waiting bs (by rw [hqueue]; exact List.mem_cons_of_mem _ hbs)
    · obtain ⟨before, hbefore, rfl⟩ := Option.map_eq_some_iff.mp hinfo
      -- the best block is the one received, or the one that was there
      unfold AuctionBidInfo.onBuild AuctionBidInfo.updateBlockInfo at hblock
      split at hblock
      next =>
        split at hblock
        next =>
          cases hblock
          exact hreceived
        next => exact h.best before bs hbefore hblock
      next => exact h.best before bs hbefore hblock
  next => exact ⟨h.publicKey, h.waiting, h.best, h.tasks, h.broadcasts, h.commands, h.submitted⟩
  next => exact ⟨h.publicKey, h.waiting, h.best, h.tasks, h.broadcasts, h.commands, h.submitted⟩

theorem pollBid (h : sys.Carries publicKey made bids) (currentTime : U128) :
    Carries publicKey made bids (sys.pollBid currentTime) := by
  unfold BidderSystem.pollBid
  split
  next => exact ⟨h.publicKey, h.waiting, h.best, h.tasks, h.broadcasts, h.commands, h.submitted⟩
  next info hinfo =>
    simp only
    split
    next =>
      refine ⟨h.publicKey, h.waiting, fun info bs hnone _ => ?_, h.tasks, h.broadcasts, h.commands,
        h.submitted⟩
      cases hnone
    next =>
      split
      next bidValue buildState hblock _ =>
        have hmade : made buildState := h.best info buildState hinfo hblock
        refine ⟨h.publicKey, h.waiting, fun info' bs hinfo' hblock' => ?_, fun task htask => ?_,
          fun task htask left bid hstage => ?_, h.commands, h.submitted⟩
        · cases hinfo'
          exact h.best info bs hinfo hblock'
        · rcases List.mem_append.mp htask with hold | hnew
          · exact h.tasks task hold
          · rw [List.mem_singleton.mp hnew]
            exact hmade
        · rcases List.mem_append.mp htask with hold | hnew
          · exact h.broadcasts task hold left bid hstage
          · rw [List.mem_singleton.mp hnew] at hstage
            cases hstage
      next =>
        refine ⟨h.publicKey, h.waiting, fun info' bs hinfo' hblock' => ?_, h.tasks, h.broadcasts,
          h.commands, h.submitted⟩
        cases hinfo'
        exact h.best info bs hinfo hblock'

/-- **Every event of the bidder keeps it**, when the build states it is given have the property. -/
theorem step (R : Reth) (h : sys.Carries publicKey made bids)
    (hbids : ∀ bs value client pool build, made bs →
      buildSubmissionWithBuilderPayment R client pool bs value = .ok build →
      bids (.new build publicKey)) {event : BidderEvent}
    (hevent : ∀ bs, event = .makeBid bs → made bs) :
    Carries publicKey made bids (sys.step R event) := by
  cases event with
  | poll currentTime =>
    show Carries publicKey made bids (sys.poll currentTime)
    unfold BidderSystem.poll
    split
    next => exact h.pollAuctionStarts
    next => exact h.pollTopBid
    next => exact h.pollBuilds
    next => exact h.pollBid currentTime
    next => exact h
    next => exact h
  | makeBid buildState =>
    refine ⟨h.publicKey, fun bs hbs => ?_, h.best, h.tasks, h.broadcasts, h.commands, h.submitted⟩
    rcases List.mem_append.mp hbs with hold | hnew
    · exact h.waiting bs hold
    · rw [List.mem_singleton.mp hnew]
      exact hevent buildState rfl
  | onAuctionStart slot blockNumber =>
    exact ⟨h.publicKey, h.waiting, h.best, h.tasks, h.broadcasts, h.commands, h.submitted⟩
  | dropHandles =>
    exact ⟨h.publicKey, h.waiting, h.best, h.tasks, h.broadcasts, h.commands, h.submitted⟩
  | answer request traces =>
    show Carries publicKey made bids (sys.answer request traces)
    unfold BidderSystem.answer
    split
    next => exact ⟨h.publicKey, h.waiting, h.best, h.tasks, h.broadcasts, h.commands, h.submitted⟩
    next => exact h
  | finalize task client pool => exact h.finalize R hbids task client pool
  | relayPoll => exact h.relayPoll
  | post task relay => exact h.post task relay

end Carries

end BidderSystem

/-! ## The main service -/

namespace BlockBuilderService

theorem onAttributes_payloadConfig (R : Reth) (service : BlockBuilderService) (inputs : BuilderInputs)
    (attributes : EthPayloadBuilderAttributes) (slot : UInt64) :
    (service.onAttributes R inputs attributes slot).1.payloadConfig = service.payloadConfig := by
  unfold onAttributes
  split
  next => rfl
  next =>
    split
    next => rfl
    next =>
      simp only
      split
      next => rfl
      next => rfl

/-- A poll of the main service adds no bundle. -/
theorem live_onAttributes (R : Reth) (service : BlockBuilderService) (inputs : BuilderInputs)
    (attributes : EthPayloadBuilderAttributes) (slot : UInt64) {bundle : Bundle}
    (h : (service.onAttributes R inputs attributes slot).1.mevBundlesPool.inner.Live bundle) :
    service.mevBundlesPool.inner.Live bundle := by
  unfold onAttributes at h
  split at h
  next => exact h
  next =>
    split at h
    next => exact h
    next =>
      simp only at h
      split at h
      next => exact h
      next => exact BundlePool.live_prune h

/-- **What a payload is started for**: attributes whose time has not passed, on their
parent, with the registration of their slot. -/
theorem onAttributes_some {R : Reth} {service service' : BlockBuilderService}
    {inputs : BuilderInputs} {attributes : EthPayloadBuilderAttributes} {slot : UInt64}
    {configs : BuildConfig}
    (h : service.onAttributes R inputs attributes slot = (service', some configs)) :
    inputs.now < attributes.timestamp ∧ ∃ parent info,
      parentBlock R inputs attributes = .ok parent ∧ inputs.validatorInfo slot = some info ∧
      configs = .new R service.payloadConfig.chainSpec attributes parent slot info := by
  unfold onAttributes at h
  split at h
  next => cases h
  next =>
    split at h
    next => cases h
    next hahead =>
      simp only at h
      split at h
      next => cases h
      next configs' hconfigs =>
        cases h
        refine ⟨UInt64.not_le.mp hahead, ?_⟩
        unfold buildConfigs at hconfigs
        split at hconfigs
        next => cases hconfigs
        next parent hparent =>
          split at hconfigs
          next => cases hconfigs
          next info hinfo =>
            cases hconfigs
            exact ⟨parent, info, hparent, hinfo, rfl⟩

/-- The parent is the one the attributes name, unless they name none. -/
theorem parentBlock_hash {R : Reth} {inputs : BuilderInputs}
    {attributes : EthPayloadBuilderAttributes} {parent : SealedBlock}
    (h : parentBlock R inputs attributes = .ok parent) (hparent : attributes.parent ≠ 0) :
    parent.hash = attributes.parent := by
  unfold parentBlock at h
  rw [if_neg hparent] at h
  split at h
  next => cases h
  next => cases h
  next =>
    cases h
    rfl

end BlockBuilderService

/-! ## The jobs -/

/-- A job for a configuration that was commanded. -/
structure JobFor (R : Reth) (payloadConfig : PayloadConfig) (events : List SystemEvent)
    (job : StreamBuildJob) : Prop where
  strategy : job.strategy = .bundlesStrat ⟨payloadConfig⟩
  announced : Announced R payloadConfig events job.buildConfig

/-- A task of such a job. -/
structure TaskFor (R : Reth) (payloadConfig : PayloadConfig) (bundlePool : BundlePool)
    (events : List SystemEvent) (task : BuildTask) : Prop where
  strategy : task.strategy = .bundlesStrat ⟨payloadConfig⟩
  announced : Announced R payloadConfig events task.buildConfig
  better : ∀ bs, task.result = .sent (.ok (.better bs)) → Made R payloadConfig bundlePool events bs

section Jobs

variable {R : Reth} {payloadConfig : PayloadConfig} {bundlePool : BundlePool} {events : List SystemEvent}

theorem JobFor.concat {job : StreamBuildJob} (h : JobFor R payloadConfig events job)
    (event : SystemEvent) : JobFor R payloadConfig (events ++ [event]) job :=
  ⟨h.strategy, h.announced.concat event⟩

theorem TaskFor.concat {task : BuildTask} (h : TaskFor R payloadConfig bundlePool events task)
    (event : SystemEvent) : TaskFor R payloadConfig bundlePool (events ++ [event]) task :=
  ⟨h.strategy, h.announced.concat event, fun bs hbs => (h.better bs hbs).concat event⟩

/-- **A task builds for the configuration of its job.** -/
theorem TaskFor.run {task : BuildTask} (h : TaskFor R payloadConfig bundlePool events task)
    (inputs : BuildInputs)
    (hpooled : ∀ bundle, inputs.bundlePool.inner.Live bundle → Pooled bundlePool events bundle)
    (index : Nat) :
    TaskFor R payloadConfig bundlePool
      (events ++ [.build index inputs.client inputs.pool inputs.acquired inputs.buildId])
      (task.run R inputs) := by
  have hannounced := h.announced.concat
    (.build index inputs.client inputs.pool inputs.acquired inputs.buildId)
  unfold BuildTask.run
  split
  next =>
    refine ⟨h.strategy, hannounced, fun bs hbs => ?_⟩
    have hbuilt := TaskResult.sent.inj hbs
    rw [h.strategy] at hbuilt
    exact ⟨task.args inputs, hannounced, ⟨events, index, [], rfl, hpooled⟩, hbuilt⟩
  next => exact h.concat _

theorem TaskFor.drop {task : BuildTask} (h : TaskFor R payloadConfig bundlePool events task) :
    TaskFor R payloadConfig bundlePool events task.drop := by
  unfold BuildTask.drop
  split
  next => exact ⟨h.strategy, h.announced, fun bs hbs => by cases hbs⟩
  next => exact h

theorem StreamBuildJob.pollPending_strategy (job : StreamBuildJob) (builds : List BuildTask) :
    (job.pollPending builds).1.strategy = job.strategy := by
  unfold StreamBuildJob.pollPending
  split
  next => rfl
  next => rfl
  next => rfl
  next => rfl
  next => rfl
  next => rfl
  next => rfl

theorem JobFor.spawnBuild {job : StreamBuildJob} {builds : List BuildTask}
    (h : JobFor R payloadConfig events job) (htasks : ∀ task ∈ builds, TaskFor R payloadConfig bundlePool events task) :
    JobFor R payloadConfig events (job.spawnBuild builds).1 ∧
      ∀ task ∈ (job.spawnBuild builds).2, TaskFor R payloadConfig bundlePool events task := by
  unfold StreamBuildJob.spawnBuild
  split
  next =>
    refine ⟨⟨h.strategy, h.announced⟩, fun task htask => ?_⟩
    rcases List.mem_append.mp htask with hold | hnew
    · exact htasks task hold
    · rw [List.mem_singleton.mp hnew]
      exact ⟨h.strategy, h.announced, fun bs hbs => by cases hbs⟩
  next => exact ⟨h, htasks⟩

end Jobs

/-- What the jobs and the commands of the payload service are for. -/
structure PayloadFor (R : Reth) (payloadConfig : PayloadConfig) (events : List SystemEvent)
    (payload : PayloadBuilderService StreamBuildJob) : Prop where
  jobs : payload.AllJobs (JobFor R payloadConfig events)
  commands : ∀ config, .buildNewPayload config ∈ payload.commandRx.queue →
    Announced R payloadConfig events config

namespace PayloadFor

variable {R : Reth} {payloadConfig : PayloadConfig} {bundlePool : BundlePool} {events : List SystemEvent}
  {payload : PayloadBuilderService StreamBuildJob}

theorem concat (h : PayloadFor R payloadConfig events payload) (event : SystemEvent) :
    PayloadFor R payloadConfig (events ++ [event]) payload where
  jobs := ⟨fun job hjob => (h.jobs.jobs job hjob).concat event,
    fun idx job id hphase => (h.jobs.polling idx job id hphase).concat event⟩
  commands config hconfig := (h.commands config hconfig).concat event

theorem buildNewPayload (h : PayloadFor R payloadConfig events payload) {config : BuildConfig}
    (hconfig : Announced R payloadConfig events config) :
    PayloadFor R payloadConfig events (payload.buildNewPayload config) where
  jobs := h.jobs.buildNewPayload config
  commands other hother := by
    rcases List.mem_append.mp hother with hold | hnew
    · exact h.commands other hold
    · cases List.mem_singleton.mp hnew
      exact hconfig

theorem onCommand (h : PayloadFor R payloadConfig events payload) {cmd : PayloadServiceCommand}
    (hcmd : ∀ config, cmd = .buildNewPayload config → Announced R payloadConfig events config) :
    PayloadFor R payloadConfig events
      (payload.onCommand (StreamJobGenerator.mk payloadConfig).newPayloadJob cmd) := by
  have hqueue : (payload.onCommand (StreamJobGenerator.mk payloadConfig).newPayloadJob cmd).commandRx =
      payload.commandRx := PayloadBuilderService.onCommand_commandRx ..
  refine ⟨?_, fun config hconfig => h.commands config (hqueue ▸ hconfig)⟩
  have hresolve : ∀ job job' alive, PayloadJob.resolve job = some (job', alive) →
      JobFor R payloadConfig events job → JobFor R payloadConfig events job' := by
    intro job job' alive hresolved
    cases hresolved
  cases cmd with
  | buildNewPayload config =>
    unfold PayloadBuilderService.onCommand
    simp only
    split
    next => exact h.jobs
    next =>
      refine ⟨fun other hother => ?_, h.jobs.polling⟩
      rcases List.mem_append.mp hother with hold | hadded
      · exact h.jobs.jobs other hold
      · rw [List.mem_singleton.mp hadded]
        exact ⟨rfl, hcmd config rfl⟩
  | bestPayload id => exact h.jobs.ask id PayloadJob.bestPayload
  | payloadAttributes id => exact h.jobs.ask id PayloadJob.payloadAttributes
  | resolve id => exact h.jobs.resolve hresolve id

/-- A command that is received starts a job for its configuration. -/
theorem receive (h : PayloadFor R payloadConfig events payload) :
    PayloadFor R payloadConfig events
      (payload.receive (StreamJobGenerator.mk payloadConfig).newPayloadJob) := by
  unfold PayloadBuilderService.receive
  split
  next cmd rest hrecv =>
    have hqueue := Channel.pollRecv_message hrecv
    have hrest : PayloadFor R payloadConfig events { payload with commandRx := rest } := by
      refine ⟨⟨h.jobs.jobs, h.jobs.polling⟩, fun config hconfig => h.commands config ?_⟩
      rw [hqueue]
      exact List.mem_cons_of_mem _ hconfig
    refine hrest.onCommand fun config hconfig => h.commands config ?_
    rw [hqueue, hconfig]
    exact List.mem_cons_self
  next => exact ⟨⟨h.jobs.jobs, fun _ _ _ hphase => by cases hphase⟩, h.commands⟩

end PayloadFor

/-! ## The system -/

namespace BuilderSystem

variable {P : Type}

section Pool

variable [BidSelectionPolicy P]

/-- One event leaves no bundle live that it removes, and brings none but the one it adds. -/
theorem live_step {R : Reth} {sys : BuilderSystem P} {event : SystemEvent} {bundle : Bundle}
    (h : (sys.step R event).builder.mevBundlesPool.inner.Live bundle) :
    event = .bundlePool (.add bundle) ∨ sys.builder.mevBundlesPool.inner.Live bundle ∧
      ∀ op, event = .bundlePool op → ¬ op.Removes bundle := by
  suffices hother : (∀ op, event ≠ .bundlePool op) → sys.builder.mevBundlesPool.inner.Live bundle by
    by_cases hpool : ∃ op, event = .bundlePool op
    · obtain ⟨op, rfl⟩ := hpool
      rcases live_apply h with rfl | ⟨hlive, hkept⟩
      · exact .inl rfl
      · refine .inr ⟨hlive, fun op' hop' => ?_⟩
        cases hop'
        exact hkept
    · have hne : ∀ op, event ≠ .bundlePool op := fun op hop => hpool ⟨op, hop⟩
      exact .inr ⟨hother hne, fun op hop => absurd hop (hne op)⟩
  intro hne
  cases event with
  | attributes attributes slot => exact h
  | consensusLayerEnds => exact h
  | bundlePool op => exact absurd rfl (hne op)
  | pollBuilder inputs =>
    simp only [BuilderSystem.step] at h
    unfold BuilderSystem.pollBuilder at h
    split at h
    next => exact h
    next =>
      split at h
      next => exact h
      next attributes slot _ =>
        simp only at h
        split at h
        next service honAttributes =>
          refine BlockBuilderService.live_onAttributes R sys.builder inputs attributes slot ?_
          rw [honAttributes]
          exact h
        next service configs honAttributes =>
          refine BlockBuilderService.live_onAttributes R sys.builder inputs attributes slot ?_
          rw [honAttributes]
          exact h
  | announce =>
    simp only [BuilderSystem.step] at h
    unfold BuilderSystem.announce at h
    split at h
    next => exact h
    next => exact h
  | pollPayload deadlineReached =>
    have hbuilder : (sys.pollPayload R deadlineReached).builder = sys.builder := by
      unfold BuilderSystem.pollPayload BuilderSystem.pollJob BuilderSystem.pollPending
      simp only
      split
      next =>
        split
        next =>
          split
          next => rfl
          next => rfl
        next => rfl
      next =>
        split
        next => rfl
        next => rfl
      next => rfl
      next => rfl
    rw [← hbuilder]
    exact h
  | build task client pool acquired buildId =>
    simp only [BuilderSystem.step] at h
    unfold BuilderSystem.build at h
    split at h
    next => exact h
    next => exact h
  | buildPanics task =>
    simp only [BuilderSystem.step] at h
    unfold BuilderSystem.buildPanics at h
    split at h
    next => exact h
    next => exact h
  | bidder event =>
    simp only [BuilderSystem.step] at h
    split at h
    next => exact h
    next => exact h

/-- **A live bundle was added, and nothing has removed it.** -/
theorem pooled_run (R : Reth) (payloadConfig : PayloadConfig) (bundlePool : BundlePool)
    (bidder : BidderSystem P) (events : List SystemEvent) (bundle : Bundle)
    (h : (Lib.run (step R) (.new payloadConfig bundlePool bidder) events).builder.mevBundlesPool.inner.Live
      bundle) : Pooled bundlePool events bundle := by
  induction events using List.reverseRecOn with
  | nil => exact ⟨[], [], rfl, .inl ⟨rfl, h⟩, fun op hop => by cases hop⟩
  | append_singleton events event ih =>
    rw [run_concat] at h
    rcases live_step h with rfl | ⟨hlive, hkept⟩
    · exact ⟨_, [], (List.append_nil _).symm, .inr ⟨events, rfl⟩, fun op hop => by cases hop⟩
    · exact (ih hlive).concat hkept

end Pool

/-- Everything in the system is for attributes that were announced. -/
structure Provenance (R : Reth) (payloadConfig : PayloadConfig) (bundlePool : BundlePool)
    (publicKey : BlsPublicKey) (events : List SystemEvent) (sys : BuilderSystem P) : Prop where
  builder : sys.builder.payloadConfig = payloadConfig
  generator : sys.generator = ⟨payloadConfig⟩
  attributes : ∀ message ∈ sys.consensusLayer.queue, .attributes message.1 message.2 ∈ events
  payload : PayloadFor R payloadConfig events sys.payload
  tasks : ∀ task ∈ sys.builds, TaskFor R payloadConfig bundlePool events task
  bidder : sys.bidder.Carries publicKey (Made R payloadConfig bundlePool events)
    (Bids R payloadConfig bundlePool events publicKey)

namespace Provenance

variable {R : Reth} {payloadConfig : PayloadConfig} {bundlePool : BundlePool} {publicKey : BlsPublicKey}
  {events : List SystemEvent} {sys : BuilderSystem P}

theorem concat (h : Provenance R payloadConfig bundlePool publicKey events sys) (event : SystemEvent) :
    Provenance R payloadConfig bundlePool publicKey (events ++ [event]) sys where
  builder := h.builder
  generator := h.generator
  attributes message hmessage := List.mem_append_left _ (h.attributes message hmessage)
  payload := h.payload.concat event
  tasks task htask := (h.tasks task htask).concat event
  bidder := h.bidder.mono (fun _ hmade => hmade.concat event) (fun _ hbids => hbids.concat event)

theorem pollJob (h : Provenance R payloadConfig bundlePool publicKey events sys) (idx : Nat)
    (deadlineReached : Bool) :
    Provenance R payloadConfig bundlePool publicKey events (sys.pollJob idx deadlineReached) := by
  have htaken : PayloadFor R payloadConfig events (sys.payload.takeJob idx) := by
    refine ⟨h.payload.jobs.takeJob idx, fun config hconfig => h.payload.commands config ?_⟩
    rw [PayloadBuilderService.takeJob_commandRx] at hconfig
    exact hconfig
  unfold BuilderSystem.pollJob
  simp only
  split
  next idx job id hphase =>
    split
    next =>
      exact ⟨h.builder, h.generator, h.attributes,
        ⟨htaken.jobs.ready idx id (.ok ()), htaken.commands⟩, h.tasks, h.bidder⟩
    next =>
      obtain ⟨hjob, htasks⟩ := (htaken.jobs.polling idx job id hphase).spawnBuild h.tasks
      refine ⟨h.builder, h.generator, h.attributes, ⟨⟨htaken.jobs.jobs, ?_⟩, htaken.commands⟩, htasks,
        h.bidder⟩
      intro _ _ _ hpolling
      cases hpolling
      exact hjob
  next => exact ⟨h.builder, h.generator, h.attributes, htaken, h.tasks, h.bidder⟩

/-- A task is replaced by what it becomes. -/
theorem setTask (h : Provenance R payloadConfig bundlePool publicKey events sys) (i : Nat) {task : BuildTask}
    (htask : TaskFor R payloadConfig bundlePool events task) :
    Provenance R payloadConfig bundlePool publicKey events { sys with builds := sys.builds.set i task } := by
  refine ⟨h.builder, h.generator, h.attributes, h.payload, fun other hother => ?_, h.bidder⟩
  rcases List.mem_or_eq_of_mem_set hother with hold | rfl
  · exact h.tasks other hold
  · exact htask

/-- **The main service commands a payload for attributes that waited for it.** -/
theorem pollBuilder (h : Provenance R payloadConfig bundlePool publicKey events sys) (inputs : BuilderInputs) :
    Provenance R payloadConfig bundlePool publicKey (events ++ [.pollBuilder inputs])
      (sys.pollBuilder R inputs) := by
  have hlater := h.concat (.pollBuilder inputs)
  unfold BuilderSystem.pollBuilder
  split
  next => exact hlater
  next =>
    split
    next => exact hlater
    next attributes slot hlast =>
      have hannounced := h.attributes (attributes, slot) (List.mem_of_getLast? hlast)
      have hkept := sys.builder.onAttributes_payloadConfig R inputs attributes slot
      have hnil : ∀ message ∈ ([] : List (EthPayloadBuilderAttributes × UInt64)),
          .attributes message.1 message.2 ∈ events ++ [.pollBuilder inputs] := List.forall_mem_nil _
      simp only
      split
      next service honAttributes =>
        rw [honAttributes] at hkept
        exact ⟨hkept.trans h.builder, h.generator, hnil, hlater.payload, hlater.tasks, hlater.bidder⟩
      next service configs honAttributes =>
        rw [honAttributes] at hkept
        obtain ⟨hahead, parent, info, hparent, hinfo, hconfigs⟩ :=
          BlockBuilderService.onAttributes_some honAttributes
        rw [h.builder] at hconfigs
        let a : Announcement := ⟨attributes, slot, inputs, parent, info⟩
        have hin : a.In R (events ++ [.pollBuilder inputs]) :=
          ⟨⟨events, [], rfl, hannounced⟩, hahead, hparent, hinfo⟩
        exact ⟨hkept.trans h.builder, h.generator, hnil,
          hlater.payload.buildNewPayload ⟨a, hin, hconfigs⟩, hlater.tasks, hlater.bidder⟩

variable [BidSelectionPolicy P]

theorem bidderStep (h : Provenance R payloadConfig bundlePool publicKey events sys) (event : BidderEvent)
    (hevent : ∀ bs, event = .makeBid bs → Made R payloadConfig bundlePool events bs) :
    Provenance R payloadConfig bundlePool publicKey events
      { sys with bidder := sys.bidder.step R event } where
  builder := h.builder
  generator := h.generator
  attributes := h.attributes
  payload := h.payload
  tasks := h.tasks
  bidder := h.bidder.step R
    (fun bs value client pool build hmade hbuild => ⟨bs, value, client, pool, build, hmade, hbuild, rfl⟩)
    hevent

theorem pollPending (h : Provenance R payloadConfig bundlePool publicKey events sys) {idx : Nat}
    {job : StreamBuildJob} {id : PayloadId} (hphase : sys.payload.phase = .polling idx job id) :
    Provenance R payloadConfig bundlePool publicKey events (sys.pollPending R idx job id) := by
  have hjob := h.payload.jobs.polling idx job id hphase
  have hstrategy := job.pollPending_strategy sys.builds
  obtain ⟨hconfig, -, hsent⟩ := job.pollPending_spec sys.builds
  have hpolled : JobFor R payloadConfig events (job.pollPending sys.builds).1 := by
    refine ⟨hstrategy.trans hjob.strategy, ?_⟩
    rw [hconfig]
    exact hjob.announced
  unfold BuilderSystem.pollPending
  split
  next job' hpoll =>
    rw [hpoll] at hpolled
    exact ⟨h.builder, h.generator, h.attributes,
      ⟨h.payload.jobs.pending idx id hpolled, h.payload.commands⟩, h.tasks, h.bidder⟩
  next job' bs hpoll =>
    rw [hpoll] at hpolled hsent
    obtain ⟨index, task, -, htask, hresult⟩ := hsent bs rfl
    have hmade := (h.tasks task (List.mem_of_getElem? htask)).better bs hresult
    have hbidder := h.bidderStep (.makeBid bs) fun other hother => by
      cases hother
      exact hmade
    exact ⟨h.builder, h.generator, h.attributes,
      ⟨h.payload.jobs.pending idx id hpolled, h.payload.commands⟩, h.tasks, hbidder.bidder⟩

/-- **Every event keeps it.** -/
theorem step (h : Provenance R payloadConfig bundlePool publicKey events sys)
    (hpooled : ∀ bundle, sys.builder.mevBundlesPool.inner.Live bundle → Pooled bundlePool events bundle)
    (event : SystemEvent) :
    Provenance R payloadConfig bundlePool publicKey (events ++ [event]) (sys.step R event) := by
  have hlater := h.concat event
  cases event with
  | attributes attributes slot =>
    refine ⟨hlater.builder, hlater.generator, fun message hmessage => ?_, hlater.payload,
      hlater.tasks, hlater.bidder⟩
    rcases List.mem_append.mp hmessage with hold | hnew
    · exact hlater.attributes message hold
    · rw [List.mem_singleton.mp hnew]
      exact List.mem_concat_self
  | consensusLayerEnds =>
    exact ⟨hlater.builder, hlater.generator, hlater.attributes, hlater.payload, hlater.tasks,
      hlater.bidder⟩
  | pollBuilder inputs => exact h.pollBuilder inputs
  | announce =>
    show Provenance R payloadConfig bundlePool publicKey _ (sys.announce R)
    unfold BuilderSystem.announce
    split
    next slot blockNumber _ =>
      have hbidder := hlater.bidderStep (.onAuctionStart slot blockNumber) fun _ hmake => by
        cases hmake
      exact ⟨hlater.builder, hlater.generator, hlater.attributes, hlater.payload, hlater.tasks,
        hbidder.bidder⟩
    next => exact hlater
  | bundlePool op =>
    exact ⟨hlater.builder, hlater.generator, hlater.attributes, hlater.payload, hlater.tasks,
      hlater.bidder⟩
  | pollPayload deadlineReached =>
    show Provenance R payloadConfig bundlePool publicKey _ (sys.pollPayload R deadlineReached)
    unfold BuilderSystem.pollPayload
    split
    next idx hphase => exact hlater.pollJob idx deadlineReached
    next idx job id hphase => exact hlater.pollPending hphase
    next hphase =>
      refine ⟨hlater.builder, hlater.generator, hlater.attributes, ?_, hlater.tasks, hlater.bidder⟩
      rw [h.generator]
      exact hlater.payload.receive
    next => exact hlater
  | build task client pool acquired buildId =>
    show Provenance R payloadConfig bundlePool publicKey _ (sys.build R task client pool acquired buildId)
    unfold BuilderSystem.build
    split
    next build hbuild =>
      exact hlater.setTask task ((h.tasks build (List.mem_of_getElem? hbuild)).run
        ⟨client, pool, sys.builder.mevBundlesPool, acquired, buildId⟩ hpooled task)
    next => exact hlater
  | buildPanics task =>
    show Provenance R payloadConfig bundlePool publicKey _ (sys.buildPanics task)
    unfold BuilderSystem.buildPanics
    split
    next build hbuild =>
      exact hlater.setTask task (hlater.tasks build (List.mem_of_getElem? hbuild)).drop
    next => exact hlater
  | bidder event =>
    simp only [BuilderSystem.step]
    split
    next => exact hlater
    next hofHandle =>
      refine hlater.bidderStep event fun bs hmake => ?_
      rw [hmake] at hofHandle
      exact absurd rfl hofHandle

theorem run (R : Reth) (payloadConfig : PayloadConfig) (bundlePool : BundlePool) (policy : P)
    (networkClock : NetworkClock) (publicKey : BlsPublicKey) (internalRelayEnabled : Bool)
    (events : List SystemEvent) :
    Provenance R payloadConfig bundlePool publicKey events (Lib.run (BuilderSystem.step R)
      (.new payloadConfig bundlePool (.new policy networkClock publicKey internalRelayEnabled))
      events) := by
  induction events using List.reverseRecOn with
  | nil =>
    refine ⟨rfl, rfl, ?_, ⟨⟨?_, ?_⟩, ?_⟩, ?_, rfl, ?_, ?_, ?_, ?_, ?_, ?_⟩
    · intro _ hnil
      cases hnil
    · intro _ hnil
      cases hnil
    · intro _ _ _ hphase
      cases hphase
    · intro _ hnil
      cases hnil
    · intro _ hnil
      cases hnil
    · intro _ hnil
      cases hnil
    · intro _ _ hnone
      cases hnone
    · intro _ hnil
      cases hnil
    · intro _ hnil
      cases hnil
    · intro _ hnil
      cases hnil
    · intro _ hnil
      cases hnil
  | append_singleton events event ih =>
    rw [run_concat]
    exact ih.step (pooled_run R payloadConfig bundlePool _ events) event

end Provenance

end BuilderSystem

end BlockBuilder
