import BlockBuilder.Bidder.BestBlock
import BlockBuilder.Builder.System

/-!
# Build states on their way to the bidder

The bidder is told of an auction over one channel and of its build states over
another, and nothing orders the two. A build state that is read before the
auction of its slot has begun is dropped, while its job has kept it as its best
build and goes on to send better ones only.

A build state that was sent waits in the channel, or was received in the auction
of its slot, or is of an older slot, as long as the bidder reads none of a slot
whose auction has not begun (`ReadsInAuction`).
-/

namespace BlockBuilder

open Lib (Channel run Along run_induct)
open BidSelectionPolicy (blockValue)

/-! ## The bidder -/

namespace BidderSystem

variable {P : Type}

/-- The next poll reads a build state of a slot whose auction has not begun. -/
def readsFutureBuild (sys : BidderSystem P) : Bool :=
  match sys.phase, sys.buildsReceiver.queue with
  | .builds, buildState :: _ =>
    sys.auctionBidInfo.all fun info => info.slot < buildState.buildConfig.slot
  | _, _ => false

theorem exists_auction {sys : BidderSystem P} {bs : BuildState} {queue : List BuildState}
    (hphase : sys.phase = .builds) (hqueue : sys.buildsReceiver.queue = bs :: queue)
    (hread : sys.readsFutureBuild = false) :
    ∃ info, sys.auctionBidInfo = some info ∧ bs.buildConfig.slot ≤ info.slot := by
  unfold readsFutureBuild at hread
  rw [hphase, hqueue] at hread
  simp only at hread
  cases hinfo : sys.auctionBidInfo with
  | none =>
    rw [hinfo] at hread
    cases hread
  | some info =>
    rw [hinfo] at hread
    exact ⟨info, rfl, UInt64.not_lt.mp (of_decide_eq_false hread)⟩

/-- A build state of the auction, or of an older slot. -/
def Holds (sys : BidderSystem P) (bs : BuildState) : Prop :=
  (sys.phase = .panicked ∧ sys.auctionBidInfo = none) ∨ ∃ info, sys.auctionBidInfo = some info ∧
    bs.buildConfig.slot ≤ info.slot ∧ (bs.buildConfig.slot = info.slot → bs ∈ sys.received)

/-- An auction that goes on, with the builds received so far and maybe more. -/
theorem Holds.map {sys sys' : BidderSystem P} {bs : BuildState} (h : sys.Holds bs)
    {f : AuctionBidInfo → AuctionBidInfo} (hinfo : sys'.auctionBidInfo = sys.auctionBidInfo.map f)
    (hslot : ∀ info, (f info).slot = info.slot)
    (hreceived : ∀ bs ∈ sys.received, bs ∈ sys'.received)
    (hphase : sys.phase = .panicked → sys'.phase = .panicked) : sys'.Holds bs := by
  rcases h with ⟨hpanicked, hnone⟩ | ⟨info, hsome, hle, hmem⟩
  · refine .inl ⟨hphase hpanicked, ?_⟩
    rw [hinfo, hnone]
    rfl
  · refine .inr ⟨f info, ?_, ?_, fun heq => ?_⟩
    · rw [hinfo, hsome]
      rfl
    · rw [hslot]
      exact hle
    · exact hreceived bs (hmem (heq.trans (hslot info)))

/-- A build state that was sent is not lost. -/
def Keeps (sys : BidderSystem P) (bs : BuildState) : Prop :=
  bs ∈ sys.buildsReceiver.queue ∨ sys.Holds bs

variable [BidSelectionPolicy P]

/-- A turn of the loop over the build states reads one, or there is none. -/
theorem pollBuilds_waiting (sys : BidderSystem P) :
    (∀ bs ∈ sys.buildsReceiver.queue, bs ∈ sys.pollBuilds.buildsReceiver.queue) ∨
    ∃ bs, sys.buildsReceiver.queue = bs :: sys.pollBuilds.buildsReceiver.queue ∧
      sys.pollBuilds.received = sys.received ++ [bs] ∧
      sys.pollBuilds.auctionBidInfo = sys.auctionBidInfo.map (·.onBuild sys.policy bs) := by
  unfold pollBuilds
  split
  next bs rest hrecv =>
    rw [onBuildState_eq]
    exact .inr ⟨bs, Channel.pollRecv_message hrecv, rfl, rfl⟩
  next => exact .inl fun _ hbs => hbs
  next => exact .inl fun _ hbs => hbs

/-- Every other step leaves what waits there. -/
theorem step_waiting (R : Reth) (sys : BidderSystem P) (event : BidderEvent) :
    (∀ bs ∈ sys.buildsReceiver.queue, bs ∈ (sys.step R event).buildsReceiver.queue) ∨
    ∃ currentTime bs, event = .poll currentTime ∧ sys.phase = .builds ∧
      sys.buildsReceiver.queue = bs :: (sys.step R event).buildsReceiver.queue ∧
      (sys.step R event).received = sys.received ++ [bs] ∧
      (sys.step R event).auctionBidInfo = sys.auctionBidInfo.map (·.onBuild sys.policy bs) := by
  rcases sys.step_cases R event with ⟨currentTime, rfl⟩ | ⟨huntouched, -⟩
  · by_cases hphase : sys.phase = .builds
    · have hpoll : sys.step R (.poll currentTime) = sys.pollBuilds := by
        show sys.poll currentTime = _
        unfold poll
        rw [hphase]
      rw [hpoll]
      rcases sys.pollBuilds_waiting with hwaiting | ⟨bs, hread⟩
      · exact .inl hwaiting
      · exact .inr ⟨currentTime, bs, rfl, hphase, hread⟩
    · refine .inl fun bs hbs => ?_
      show bs ∈ (sys.poll currentTime).buildsReceiver.queue
      rw [(sys.poll_frame currentTime).buildsReceiver hphase]
      exact hbs
  · exact .inl huntouched.waiting

theorem Holds.step (R : Reth) {sys : BidderSystem P} (event : BidderEvent) {bs : BuildState}
    (h : sys.Holds bs) : (sys.step R event).Holds bs := by
  cases sys.step_auction R event with
  | same hinfo hbegun hreceived hphase =>
    exact h.map (hinfo.trans Option.map_id'.symm) (fun _ => rfl) (hreceived ▸ fun _ => id) hphase
  | began slot blockNumber hpolled hphase hmessage hnewer hinfo hbegun hreceived =>
    rcases h with ⟨hpanicked, -⟩ | ⟨info, hsome, hle, -⟩
    · rw [hphase] at hpanicked
      cases hpanicked
    · -- it becomes a build state of an older slot
      have hlt : bs.buildConfig.slot < slot := UInt64.lt_of_le_of_lt hle (hnewer info hsome)
      exact .inr ⟨_, hinfo, UInt64.le_of_lt hlt, fun heq => absurd heq (UInt64.ne_of_lt hlt)⟩
  | topBid request topBid hheld hreply hinfo hbegun hreceived hphase =>
    exact h.map hinfo (fun _ => rfl) (hreceived ▸ fun _ => id) (absurd · hphase)
  | build buildState hinfo hbegun hreceived hphase =>
    exact h.map hinfo (fun info => info.onBuild_slot ..)
      (hreceived ▸ fun _ => List.mem_append_left _) (absurd · hphase)
  | bid timeLeft bid hinfo hbegun hreceived hphase =>
    refine h.map hinfo (fun info => ?_) (hreceived ▸ fun _ => id) (absurd · hphase)
    cases bid <;> rfl
  | panicked hinfo hbegun hreceived hphase => exact .inl ⟨hphase, hinfo⟩

/-- **A build state that was sent is kept**, unless the bidder reads one of a slot
whose auction has not begun. -/
theorem Keeps.step (R : Reth) {sys : BidderSystem P} {event : BidderEvent} {bs : BuildState}
    (hinAuction : ∀ currentTime, event = .poll currentTime → sys.readsFutureBuild = false)
    (h : sys.Keeps bs) : (sys.step R event).Keeps bs := by
  rcases h with hqueue | hholds
  · rcases sys.step_waiting R event with hwaiting |
      ⟨currentTime, read, hpoll, hphase, hread, hreceived, hinfo⟩
    · exact .inl (hwaiting bs hqueue)
    · rw [hread] at hqueue
      rcases List.mem_cons.mp hqueue with rfl | hmem
      · -- it is read now, and its auction has begun
        obtain ⟨info, hsome, hle⟩ := exists_auction hphase hread (hinAuction currentTime hpoll)
        refine .inr (.inr ⟨info.onBuild sys.policy bs, ?_, ?_, fun _ => ?_⟩)
        · rw [hinfo, hsome]
          rfl
        · rw [info.onBuild_slot]
          exact hle
        · rw [hreceived]
          exact List.mem_concat_self
      · exact .inl hmem
  · exact .inr (hholds.step R event)

end BidderSystem

/-! ## The system -/

def SystemEvent.pollsBidder : SystemEvent → Bool
  | .bidder (.poll _) => true
  | _ => false

namespace BuilderSystem

variable {P : Type} [BidSelectionPolicy P]

/-- A poll of the bidder reads no build state of a slot whose auction has not begun. -/
def ReadsInAuction (sys : BuilderSystem P) (event : SystemEvent) : Prop :=
  event.pollsBidder = true → sys.bidder.readsFutureBuild = false

instance (sys : BuilderSystem P) (event : SystemEvent) : Decidable (sys.ReadsInAuction event) :=
  inferInstanceAs (Decidable (_ → _))

/-- What holds between two steps. -/
structure Delivers (policy : P) (sys : BuilderSystem P) : Prop where
  policy : sys.bidder.policy = policy
  tasks : ∀ task ∈ sys.builds, task.OwnSlot
  jobs : sys.payload.AllJobs (StreamBuildJob.WaitsIn sys.builds)
  best : sys.bidder.HoldsBest
  produced : ∀ slot bs, (slot, bs) ∈ sys.produced →
    bs.buildConfig.slot = slot ∧ sys.bidder.Keeps bs

namespace Delivers

variable {policy : P} {sys : BuilderSystem P}

/-- A step of the bidder. -/
theorem bidder (R : Reth) (h : Delivers policy sys) (event : BidderEvent)
    (hinAuction : ∀ currentTime, event = .poll currentTime →
      sys.bidder.readsFutureBuild = false) :
    Delivers policy { sys with bidder := sys.bidder.step R event } where
  policy := (sys.bidder.step_policy R event).trans h.policy
  tasks := h.tasks
  jobs := h.jobs
  best := h.best.step R event
  produced slot bs hproduced :=
    ⟨(h.produced slot bs hproduced).1, (h.produced slot bs hproduced).2.step R hinAuction⟩

theorem pollBuilder (R : Reth) (h : Delivers policy sys) (inputs : BuilderInputs) :
    Delivers policy (sys.pollBuilder R inputs) := by
  unfold BuilderSystem.pollBuilder
  split
  next => exact h
  next =>
    split
    next => exact h
    next =>
      simp only
      split
      next => exact ⟨h.policy, h.tasks, h.jobs, h.best, h.produced⟩
      next _ configs _ =>
        exact ⟨h.policy, h.tasks, h.jobs.buildNewPayload configs, h.best, h.produced⟩

theorem announce (R : Reth) (h : Delivers policy sys) : Delivers policy (sys.announce R) := by
  unfold BuilderSystem.announce
  split
  next slot blockNumber _ =>
    have hbidder := h.bidder R (.onAuctionStart slot blockNumber) fun _ hpoll => by cases hpoll
    exact ⟨hbidder.policy, hbidder.tasks, hbidder.jobs, hbidder.best, hbidder.produced⟩
  next => exact h

theorem pollJob (h : Delivers policy sys) (idx : Nat) (deadlineReached : Bool) :
    Delivers policy (sys.pollJob idx deadlineReached) := by
  have htaken := h.jobs.takeJob idx
  unfold BuilderSystem.pollJob
  simp only
  split
  next idx job id hphase =>
    split
    next =>
      exact ⟨h.policy, h.tasks, htaken.ready idx id (.ok ()), h.best, h.produced⟩
    next =>
      have hjob := htaken.polling idx job id hphase
      refine ⟨h.policy, job.spawnBuild_ownSlot h.tasks, ⟨fun other hother => ?_, ?_⟩, h.best,
        h.produced⟩
      · exact (htaken.jobs other hother).grows (job.spawnBuild_grows sys.builds)
      · intro _ _ _ hpolling
        cases hpolling
        exact hjob.spawnBuild
  next => exact ⟨h.policy, h.tasks, htaken, h.best, h.produced⟩

/-- **A job sends a build state of its slot**, which waits for the bidder. -/
theorem pollPending (R : Reth) (h : Delivers policy sys) {idx : Nat} {job : StreamBuildJob}
    {id : PayloadId} (hphase : sys.payload.phase = .polling idx job id) :
    Delivers policy (sys.pollPending R idx job id) := by
  have hjob := h.jobs.polling idx job id hphase
  obtain ⟨hconfig, hwaits, hsent⟩ := job.pollPending_spec sys.builds
  unfold BuilderSystem.pollPending
  split
  next job' hpoll =>
    rw [hpoll] at hwaits
    exact ⟨h.policy, h.tasks, h.jobs.pending idx id (hwaits hjob), h.best, h.produced⟩
  next job' bs hpoll =>
    rw [hpoll] at hconfig hwaits hsent
    have hbidder := h.bidder R (.makeBid bs) fun _ hpoll => by cases hpoll
    refine ⟨hbidder.policy, h.tasks, h.jobs.pending idx id (hwaits hjob), hbidder.best, ?_⟩
    intro slot bs' hproduced
    rcases List.mem_append.mp hproduced with hold | hnew
    · exact hbidder.produced slot bs' hold
    · cases List.mem_singleton.mp hnew
      obtain ⟨index, task, hpending, htask, hresult⟩ := hsent bs rfl
      obtain ⟨task', htask', hown⟩ := hjob index hpending
      cases htask.symm.trans htask'
      refine ⟨?_, .inl List.mem_concat_self⟩
      rw [h.tasks task (List.mem_of_getElem? htask) bs hresult, hown, ← hconfig]

/-- A task is replaced by what it becomes. -/
theorem setTask (h : Delivers policy sys) {i : Nat} {task task' : BuildTask}
    (htask : sys.builds[i]? = some task) (honward : task.Onward task') (hown : task'.OwnSlot) :
    Delivers policy { sys with builds := sys.builds.set i task' } := by
  have hgrows : Lib.Grows BuildTask.Onward sys.builds (sys.builds.set i task') :=
    .set BuildTask.onward_refl htask honward
  refine ⟨h.policy, fun other hother => ?_, ⟨fun job hjob => ?_, fun idx job id hphase => ?_⟩,
    h.best, h.produced⟩
  · rcases List.mem_or_eq_of_mem_set hother with hold | rfl
    · exact h.tasks other hold
    · exact hown
  · exact (h.jobs.jobs job hjob).grows hgrows
  · exact (h.jobs.polling idx job id hphase).grows hgrows

theorem build (R : Reth) (h : Delivers policy sys) (i : Nat) (client : Client) (pool : Pool)
    (acquired : Bool) (buildId : BuildId) :
    Delivers policy (sys.build R i client pool acquired buildId) := by
  unfold BuilderSystem.build
  split
  next task htask =>
    have hown := h.tasks task (List.mem_of_getElem? htask)
    exact h.setTask htask (task.run_buildConfig R _) (BuildTask.run_ownSlot R _ hown)
  next => exact h

theorem buildPanics (h : Delivers policy sys) (i : Nat) :
    Delivers policy (sys.buildPanics i) := by
  unfold BuilderSystem.buildPanics
  split
  next task htask =>
    have hown := h.tasks task (List.mem_of_getElem? htask)
    exact h.setTask htask task.drop_buildConfig (BuildTask.drop_ownSlot hown)
  next => exact h

/-- **Every event keeps it**, unless the bidder reads a build state too early. -/
theorem step (R : Reth) {event : SystemEvent} (hinAuction : sys.ReadsInAuction event)
    (h : Delivers policy sys) : Delivers policy (sys.step R event) := by
  cases event with
  | attributes attributes slot => exact ⟨h.policy, h.tasks, h.jobs, h.best, h.produced⟩
  | consensusLayerEnds => exact ⟨h.policy, h.tasks, h.jobs, h.best, h.produced⟩
  | pollBuilder inputs => exact h.pollBuilder R inputs
  | announce => exact h.announce R
  | bundlePool op => exact ⟨h.policy, h.tasks, h.jobs, h.best, h.produced⟩
  | pollPayload deadlineReached =>
    show Delivers policy (sys.pollPayload R deadlineReached)
    unfold BuilderSystem.pollPayload
    split
    next idx hphase => exact h.pollJob idx deadlineReached
    next idx job id hphase => exact h.pollPending R hphase
    next hphase =>
      refine ⟨h.policy, h.tasks, h.jobs.receive ?_ ?_, h.best, h.produced⟩
      · intro job job' alive hresolve
        cases hresolve
      · intro config job hjob index hpending
        cases hjob
        cases hpending
    next => exact h
  | build task client pool acquired buildId => exact h.build R task client pool acquired buildId
  | buildPanics task => exact h.buildPanics task
  | bidder event =>
    simp only [BuilderSystem.step]
    split
    next => exact h
    next =>
      refine h.bidder R event fun currentTime hpoll => hinAuction ?_
      rw [hpoll]
      rfl

end Delivers

/-- **The best build of a slot is not lost between its jobs and the bidder**, in a
run in which the bidder reads no build state of a slot whose auction has not
begun: in the auction of a slot, when none of its build states is waiting, the
bidder's best block is worth at least every build state sent for the slot. -/
theorem best_build_delivered (R : Reth) (payloadConfig : PayloadConfig) (bundlePool : BundlePool)
    (policy : P) (networkClock : NetworkClock) (publicKey : BlsPublicKey)
    (internalRelayEnabled : Bool) (events : List SystemEvent)
    (hinAuction : Along (step R) ReadsInAuction
      (new payloadConfig bundlePool (.new policy networkClock publicKey internalRelayEnabled))
      events) :
    let sys := run (step R)
      (new payloadConfig bundlePool (.new policy networkClock publicKey internalRelayEnabled))
      events
    ∀ info, sys.bidder.auctionBidInfo = some info →
      (∀ bs ∈ sys.bidder.buildsReceiver.queue, bs.buildConfig.slot ≠ info.slot) →
      ∀ bs, (info.slot, bs) ∈ sys.produced → ∃ best, info.bestBlock = some best ∧
        blockValue policy bs.execDetails ≤ blockValue policy best.execDetails := by
  intro sys info hinfo hdelivered bs hproduced
  have h : Delivers policy sys := by
    refine run_induct (I := Delivers policy) (fun _ _ hinAuction h => h.step R hinAuction) events
      hinAuction ⟨rfl, ?_, ⟨?_, ?_⟩, .of_new .., ?_⟩
    · intro task htask
      cases htask
    · intro job hjob
      cases hjob
    · intro idx job id hphase
      cases hphase
    · intro slot bs hproduced
      cases hproduced
  obtain ⟨hslot, hqueue | ⟨-, hnone⟩ | ⟨info', hinfo', -, hreceived⟩⟩ :=
    h.produced info.slot bs hproduced
  · exact absurd hslot (hdelivered bs hqueue)
  · rw [hinfo] at hnone
    cases hnone
  · cases hinfo.symm.trans hinfo'
    have hbest := h.best.best info hinfo
    rw [h.policy] at hbest
    exact hbest.le_bestBlock (hreceived hslot) hslot

/-- What the main service finds for the transfer slot. -/
def transferInputs : BuilderInputs where
  now := 100
  latestBlock := .ok none
  findBlockByHash hash :=
    .ok (if hash = transferParent.hash then
      some ⟨transferParent.header, transferParent.body, transferParent.withdrawals⟩ else none)
  validatorInfo slot := if slot = 1 then some (transferProposer 5 30000000) else none
  acquired := true

/-- The attributes of the slot are announced, and the main service commands a payload. -/
def commands : List SystemEvent := [.attributes (transferAttributes 4) 1, .pollBuilder transferInputs]

/-- The payload service takes `n` steps. -/
def payloadPolls (n : Nat) : List SystemEvent := List.replicate n (.pollPayload false)

/-- The job gets as far as a task, which builds with one transaction, and takes the outcome. -/
def jobBuilds (task steps : Nat) : List SystemEvent :=
  payloadPolls steps ++
    [.build task transferClient (transferPool [TransferChain.transfer 1 0 2 5 10 21000]) true 0,
      .pollPayload false]

def bidderPolls (n : Nat) : List SystemEvent := List.replicate n (.bidder (.poll 0))

/-- A build state that is read before its auction is announced is lost: the job
has nothing better to send, and the bidder is left without a block. -/
theorem future_build_lost :
    let sys := run (step transferChain) (new transferConfig .new .devnet)
      (commands ++ jobBuilds 0 4 ++ bidderPolls 4 ++ [.announce] ++ jobBuilds 1 3 ++ bidderPolls 7)
    (sys.bidder.auctionBidInfo.map fun info => (info.slot, info.bestBlock.isSome)) =
      some (1, false) ∧
    sys.bidder.buildsReceiver.queue.length = 0 ∧
    (sys.payload.payloadJobs.map fun job => (job.1.pendingBuild, job.1.bestBuild.isSome)) =
      [(none, true)] ∧
    (sys.produced.map fun sent => (sent.1, blockValue DevnetPolicy.mk sent.2.execDetails)) =
      [(1, 63000)] ∧
    ¬ ∀ info ∈ sys.bidder.auctionBidInfo, ∀ sent ∈ sys.produced, sent.1 = info.slot →
      (info.bestBlock.any fun best => blockValue DevnetPolicy.mk sent.2.execDetails ≤
        blockValue DevnetPolicy.mk best.execDetails) = true := by
  decide +kernel

/-- The same build state, sent after the auction began. -/
theorem build_delivered :
    let sys := run (step transferChain) (new transferConfig .new .devnet)
      (commands ++ [.announce] ++ bidderPolls 2 ++ jobBuilds 0 4 ++ bidderPolls 3)
    (sys.produced.map (·.1)) = [1] ∧
    ∀ info, sys.bidder.auctionBidInfo = some info →
      (∀ bs ∈ sys.bidder.buildsReceiver.queue, bs.buildConfig.slot ≠ info.slot) →
      ∀ bs, (info.slot, bs) ∈ sys.produced → ∃ best, info.bestBlock = some best ∧
        blockValue DevnetPolicy.mk bs.execDetails ≤
          blockValue DevnetPolicy.mk best.execDetails :=
  ⟨by decide +kernel, best_build_delivered transferChain transferConfig .new DevnetPolicy.mk
    (.new 0 12) [7] false _ (by decide +kernel)⟩

end BuilderSystem

end BlockBuilder
