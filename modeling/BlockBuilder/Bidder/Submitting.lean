import BlockBuilder.Bidder.BestBlock
import BlockBuilder.Lib.Grows

/-!
# The order in which bids reach the relays

Each bid is finalized and submitted by a task of its own, and nothing orders the
tasks: a bid that was decided later may be built, commanded and posted first,
and a relay keeps what it was handed last.

A task posts in turn when no bid of its slot that was decided earlier is still on
its way to the relay. In a run in which every post is in turn the bids of a slot
reach each relay in the order they were decided.
-/

namespace BlockBuilder

open Lib (Channel Grows run Along run_induct)

/-! ## Tasks -/

namespace SubmitStage

/-- The relays the bid is still to be posted to. -/
def relaysLeft : SubmitStage → List RelayName
  | broadcasting relays _ => relays
  | _ => []

/-- The task will not post to this relay any more. -/
def doneWith (relay : RelayName) : SubmitStage → Bool
  | spawned => false
  | commanded => false
  | broadcasting relays _ => relay ∉ relays
  | failed => true

/-- A relay that is taken from the list is not added for another. -/
theorem doneWith_erase {left : List RelayName} {bid : Bid} {other : RelayName}
    (relay : RelayName) (h : (broadcasting left bid).doneWith other = true) :
    (broadcasting (left.erase relay) bid).doneWith other = true :=
  decide_eq_true fun herase => of_decide_eq_true h (List.mem_of_mem_erase herase)

end SubmitStage

namespace SubmitTask

/-- A task moves on, and does not come back to a relay. -/
structure Onward (task task' : SubmitTask) : Prop where
  slot : task'.slot = task.slot
  bidValue : task'.bidValue = task.bidValue
  done : ∀ relay, task.stage.doneWith relay = true → task'.stage.doneWith relay = true

theorem onward_refl (task : SubmitTask) : task.Onward task := ⟨rfl, rfl, fun _ => id⟩

/-- A task goes on to its next stage. -/
theorem grows_stage {tasks : List SubmitTask} {index : Nat} {task : SubmitTask}
    {stage : SubmitStage} (htask : tasks[index]? = some task)
    (hdone : ∀ relay, task.stage.doneWith relay = true → stage.doneWith relay = true) :
    Grows Onward tasks (tasks.set index { task with stage := stage }) :=
  .set onward_refl htask ⟨rfl, rfl, hdone⟩

end SubmitTask

/-- The slot of a task. -/
def slotOf (tasks : List SubmitTask) (index : Nat) : Option UInt64 :=
  (tasks[index]?).map (·.slot)

theorem slotOf_grows {tasks tasks' : List SubmitTask} (h : Grows SubmitTask.Onward tasks tasks')
    {index : Nat} {task : SubmitTask} (htask : tasks[index]? = some task) :
    slotOf tasks' index = slotOf tasks index := by
  obtain ⟨task', htask', honward⟩ := h index task htask
  simp [slotOf, htask, htask', honward.slot]

/-! ## What was handed to the relays -/

/-- Submissions that came in turn. -/
structure SubmittedInOrder (tasks : List SubmitTask) (submitted : List Submission) : Prop where
  /-- Each is of a task that is done with the relay, and so are the earlier ones of its slot. -/
  done : ∀ sub ∈ submitted, ∃ task, tasks[sub.task]? = some task ∧
    sub.bid.value = task.bidValue ∧ task.stage.doneWith sub.relay = true ∧
    ∀ index earlier, index < sub.task → tasks[index]? = some earlier → earlier.slot = task.slot →
      earlier.stage.doneWith sub.relay = true
  order : submitted.Pairwise fun before after => before.relay = after.relay →
    slotOf tasks before.task = slotOf tasks after.task → before.task < after.task

namespace SubmittedInOrder

variable {tasks tasks' : List SubmitTask} {submitted : List Submission}

/-- Tasks that move on change nothing of what was handed over. -/
theorem grows (h : SubmittedInOrder tasks submitted)
    (hgrows : Grows SubmitTask.Onward tasks tasks') :
    SubmittedInOrder tasks' submitted := by
  constructor
  · intro sub hsub
    obtain ⟨task, htask, hvalue, hdone, hearlier⟩ := h.done sub hsub
    obtain ⟨task', htask', hslot, hbidValue, hdone'⟩ := hgrows _ task htask
    refine ⟨task', htask', hvalue.trans hbidValue.symm, hdone' _ hdone, ?_⟩
    intro index earlier' hlt hearlier' hslot'
    obtain ⟨earlier, hget, hmovedSlot, -, hmovedDone⟩ := hgrows.earlier hlt htask hearlier'
    exact hmovedDone _ (hearlier index earlier hlt hget (by rw [← hmovedSlot, hslot', hslot]))
  · refine h.order.imp_of_mem fun {before after} hbefore hafter hlt hrelay hslot => ?_
    obtain ⟨task, htask, -⟩ := h.done before hbefore
    obtain ⟨task', htask', -⟩ := h.done after hafter
    rw [slotOf_grows hgrows htask, slotOf_grows hgrows htask'] at hslot
    exact hlt hrelay hslot

/-- **A bid is handed over in turn.** -/
theorem post (h : SubmittedInOrder tasks submitted)
    (hgrows : Grows SubmitTask.Onward tasks tasks') {index : Nat}
    {task task' : SubmitTask} {relay : RelayName} {bid : Bid}
    (htask : tasks[index]? = some task) (hleft : task.stage.doneWith relay = false)
    (hturn : ∀ earlier ∈ tasks.take index, earlier.slot = task.slot →
      earlier.stage.doneWith relay = true)
    (htask' : tasks'[index]? = some task') (hdone : task'.stage.doneWith relay = true)
    (hvalue : bid.value = task'.bidValue) :
    SubmittedInOrder tasks' (submitted ++ [⟨relay, index, bid⟩]) := by
  have hafter := h.grows hgrows
  obtain ⟨task'', htask'', hslot, -, -⟩ := hgrows index task htask
  cases htask''.symm.trans htask'
  constructor
  · intro sub hsub
    rcases List.mem_append.mp hsub with hold | hnew
    · exact hafter.done sub hold
    · rw [List.mem_singleton.mp hnew]
      refine ⟨task', htask', hvalue, hdone, ?_⟩
      intro other earlier' hlt hearlier' hslot'
      obtain ⟨earlier, hget, hmovedSlot, -, hmovedDone⟩ := hgrows.earlier hlt htask hearlier'
      refine hmovedDone relay (hturn earlier ?_ (by rw [← hmovedSlot, hslot', hslot]))
      obtain ⟨hlength, rfl⟩ := List.getElem?_eq_some_iff.mp hget
      exact List.mem_take_iff_getElem.mpr ⟨other, Nat.lt_min.mpr ⟨hlt, hlength⟩, rfl⟩
  · refine List.pairwise_append.mpr ⟨hafter.order, List.pairwise_singleton .., ?_⟩
    intro sub hsub new hnew hrelay hslotEq
    cases List.mem_singleton.mp hnew
    obtain ⟨subTask, hsubTask, -, hsubDone, hsubEarlier⟩ := h.done sub hsub
    rw [slotOf_grows hgrows hsubTask, slotOf_grows hgrows htask] at hslotEq
    simp only [slotOf, hsubTask, htask, Option.map_some, Option.some.injEq] at hslotEq
    simp only at hrelay
    rw [hrelay] at hsubDone hsubEarlier
    rcases Nat.lt_trichotomy sub.task index with hlt | heq | hgt
    · exact hlt
    · -- the task would have posted to the relay before
      rw [heq, htask] at hsubTask
      cases hsubTask
      rw [hleft] at hsubDone
      cases hsubDone
    · -- the task would have been done when the later one posted
      have hdoneBefore := hsubEarlier index task hgt htask hslotEq.symm
      rw [hleft] at hdoneBefore
      cases hdoneBefore

end SubmittedInOrder

/-! ## What is on its way -/

/-- The bids on their way to the relays, and the ones that have arrived. -/
structure OnTheWay (relays : List RelayName) (tasks : List SubmitTask) (queue : List (Nat × Bid))
    (submitted : List Submission) : Prop where
  commands : ∀ message ∈ queue, ∃ task, tasks[message.1]? = some task ∧
    message.2.value = task.bidValue
  broadcasts : ∀ (index : Nat) (task : SubmitTask) left bid, tasks[index]? = some task →
    task.stage = .broadcasting left bid →
    left.Nodup ∧ bid.value = task.bidValue ∧
      ∀ relay ∈ relays, relay ∉ left → ∃ sub ∈ submitted, sub.relay = relay ∧ sub.task = index

namespace OnTheWay

variable {relays : List RelayName} {tasks : List SubmitTask} {queue : List (Nat × Bid)}
  {submitted : List Submission}

/-- A task is spawned. -/
theorem spawned (h : OnTheWay relays tasks queue submitted) (buildState : BuildState)
    (bidValue : U256) :
    OnTheWay relays (tasks ++ [⟨buildState, bidValue, .spawned⟩]) queue submitted := by
  constructor
  · intro message hmessage
    obtain ⟨task, htask, hvalue⟩ := h.commands message hmessage
    obtain ⟨task', htask', -, hbidValue, -⟩ := Grows.append SubmitTask.onward_refl tasks _ _ task htask
    exact ⟨task', htask', hvalue.trans hbidValue.symm⟩
  · intro index task left bid htask hstage
    rw [List.getElem?_append] at htask
    split at htask
    next => exact h.broadcasts index task left bid htask hstage
    next =>
      rw [List.mem_singleton.mp (List.mem_of_getElem? htask)] at hstage
      cases hstage

/-- A task goes on to its next stage. -/
theorem set (h : OnTheWay relays tasks queue submitted) {index : Nat} {task : SubmitTask}
    {stage : SubmitStage} (htask : tasks[index]? = some task)
    (hdone : ∀ relay, task.stage.doneWith relay = true → stage.doneWith relay = true)
    (hstage : ∀ left bid, stage = .broadcasting left bid →
      left.Nodup ∧ bid.value = task.bidValue ∧
        ∀ relay ∈ relays, relay ∉ left → ∃ sub ∈ submitted, sub.relay = relay ∧ sub.task = index) :
    OnTheWay relays (tasks.set index { task with stage := stage }) queue submitted := by
  constructor
  · intro message hmessage
    obtain ⟨other, hother, hvalue⟩ := h.commands message hmessage
    obtain ⟨other', hother', -, hbidValue, -⟩ :=
      SubmitTask.grows_stage htask hdone _ other hother
    exact ⟨other', hother', hvalue.trans hbidValue.symm⟩
  · intro other task' left bid htask' hstage'
    rw [List.getElem?_set] at htask'
    split at htask'
    next heq =>
      split at htask'
      next =>
        cases htask'
        exact heq ▸ hstage left bid hstage'
      next => cases htask'
    next => exact h.broadcasts other task' left bid htask' hstage'

/-- A bid is sent to the relay service. -/
theorem send (h : OnTheWay relays tasks queue submitted) {index : Nat} {task : SubmitTask}
    {bid : Bid} (htask : tasks[index]? = some task) (hvalue : bid.value = task.bidValue) :
    OnTheWay relays tasks (queue ++ [(index, bid)]) submitted := by
  refine ⟨fun message hmessage => ?_, h.broadcasts⟩
  rcases List.mem_append.mp hmessage with hold | hnew
  · exact h.commands message hold
  · rw [List.mem_singleton.mp hnew]
    exact ⟨task, htask, hvalue⟩

/-- The relay service takes a command. -/
theorem receive {message : Nat × Bid} (h : OnTheWay relays tasks (message :: queue) submitted) :
    OnTheWay relays tasks queue submitted :=
  ⟨fun other hother => h.commands other (List.mem_cons_of_mem _ hother), h.broadcasts⟩

/-- A bid is handed over. -/
theorem submit (h : OnTheWay relays tasks queue submitted) (sub : Submission) :
    OnTheWay relays tasks queue (submitted ++ [sub]) := by
  refine ⟨h.commands, fun index task left bid htask hstage => ?_⟩
  obtain ⟨hnodup, hvalue, hhanded⟩ := h.broadcasts index task left bid htask hstage
  refine ⟨hnodup, hvalue, fun relay hrelay hleft => ?_⟩
  obtain ⟨other, hother, hsub⟩ := hhanded relay hrelay hleft
  exact ⟨other, List.mem_append_left _ hother, hsub⟩

/-- A task hands its bid to a relay. -/
theorem post (h : OnTheWay relays tasks queue submitted) {index : Nat} {task : SubmitTask}
    {left : List RelayName} {bid : Bid} (htask : tasks[index]? = some task)
    (hstage : task.stage = .broadcasting left bid) (relay : RelayName) :
    OnTheWay relays (tasks.set index { task with stage := .broadcasting (left.erase relay) bid })
      queue (submitted ++ [⟨relay, index, bid⟩]) := by
  obtain ⟨hnodup, hvalue, hhanded⟩ := h.broadcasts index task left bid htask hstage
  refine (h.submit ⟨relay, index, bid⟩).set htask ?_ fun left' bid' hstage' => ?_
  · intro other hdone
    rw [hstage] at hdone
    exact SubmitStage.doneWith_erase relay hdone
  · cases hstage'
    refine ⟨hnodup.erase relay, hvalue, fun other hother hleft => ?_⟩
    by_cases heq : other = relay
    · exact ⟨⟨relay, index, bid⟩, by simp, heq.symm, rfl⟩
    · -- a relay the bid was handed to before
      obtain ⟨sub, hsub, hfound⟩ := hhanded other hother fun hmem' =>
        hleft ((hnodup.mem_erase_iff).mpr ⟨heq, hmem'⟩)
      exact ⟨sub, List.mem_append_left _ hsub, hfound⟩

end OnTheWay

namespace BidderSystem

variable {P : Type}

/-! ## Posting in turn -/

/-- A bid is handed to a relay only once the bids of its slot that were decided
earlier are done with that relay. -/
def InTurn (sys : BidderSystem P) : BidderEvent → Prop
  | .post index relay =>
    ∀ task ∈ sys.tasks[index]?, relay ∈ task.stage.relaysLeft →
      ∀ earlier ∈ sys.tasks.take index, earlier.slot = task.slot →
        earlier.stage.doneWith relay = true
  | _ => True

instance (sys : BidderSystem P) : ∀ event, Decidable (sys.InTurn event)
  | .post index _ => inferInstanceAs (Decidable (∀ task ∈ sys.tasks[index]?, _ → _))
  | .onAuctionStart _ _ => .isTrue trivial
  | .makeBid _ => .isTrue trivial
  | .dropHandles => .isTrue trivial
  | .poll _ => .isTrue trivial
  | .answer _ _ => .isTrue trivial
  | .finalize _ _ _ => .isTrue trivial
  | .relayPoll => .isTrue trivial

/-- What holds between two steps. -/
structure PostsInTurn (sys : BidderSystem P) : Prop where
  relays : sys.relays.Nodup
  inOrder : SubmittedInOrder sys.tasks sys.submitted
  onTheWay : OnTheWay sys.relays sys.tasks sys.commandRx.queue sys.submitted

theorem relays_nodup (internalRelayEnabled : Bool) : (RelayPool.new internalRelayEnabled).Nodup := by
  cases internalRelayEnabled with
  | false => decide
  | true => decide

theorem PostsInTurn.of_new (policy : P) (networkClock : NetworkClock) (publicKey : BlsPublicKey)
    (internalRelayEnabled : Bool) :
    PostsInTurn (new policy networkClock publicKey internalRelayEnabled) where
  relays := relays_nodup internalRelayEnabled
  inOrder := ⟨fun sub hsub => (by cases hsub), .nil⟩
  onTheWay := ⟨fun message hmessage => (by cases hmessage),
    fun index task left bid htask => (by cases htask)⟩

/-- The bid that stands at a relay for a slot: the one that was handed over last. -/
def standing (sys : BidderSystem P) (relay : RelayName) (slot : UInt64) : Option Submission :=
  (sys.submitted.filter fun sub =>
    sub.relay = relay ∧ slotOf sys.tasks sub.task = some slot).getLast?

/-- What was handed to a relay in order stands there last. -/
theorem standing_latest {sys : BidderSystem P} (h : SubmittedInOrder sys.tasks sys.submitted)
    {relay : RelayName} {slot : UInt64} {sub : Submission}
    (hstanding : sys.standing relay slot = some sub) :
    sub ∈ sys.submitted ∧ ∀ other ∈ sys.submitted, other.relay = relay →
      slotOf sys.tasks other.task = some slot → other.task ≤ sub.task := by
  obtain ⟨before, hsplit⟩ := List.getLast?_eq_some_iff.mp hstanding
  have hmem := List.mem_filter.mp (hsplit ▸ List.mem_concat_self)
  obtain ⟨hrelay, hslot⟩ : sub.relay = relay ∧ slotOf sys.tasks sub.task = some slot :=
    of_decide_eq_true hmem.2
  refine ⟨hmem.1, fun other hother hotherRelay hotherSlot => ?_⟩
  have hfilter : other ∈ sys.submitted.filter fun sub =>
      sub.relay = relay ∧ slotOf sys.tasks sub.task = some slot :=
    List.mem_filter.mpr ⟨hother, decide_eq_true ⟨hotherRelay, hotherSlot⟩⟩
  rw [hsplit] at hfilter
  rcases List.mem_append.mp hfilter with hbefore | hlast
  · have hpairwise := h.order.filter
      (fun sub => sub.relay = relay ∧ slotOf sys.tasks sub.task = some slot)
    rw [hsplit] at hpairwise
    have hlt := (List.pairwise_append.mp hpairwise).2.2 other hbefore sub (by simp)
    exact Nat.le_of_lt (hlt (hotherRelay.trans hrelay.symm) (hotherSlot.trans hslot.symm))
  · rw [List.mem_singleton.mp hlast]

/-! ## What an event does to the tasks -/

/-- What an event does to the tasks. -/
inductive TaskStep (sys : BidderSystem P) (event : BidderEvent) (sys' : BidderSystem P) :
    Prop where
  /-- Nothing. -/
  | same (tasks : sys'.tasks = sys.tasks) (queue : sys'.commandRx.queue = sys.commandRx.queue)
      (submitted : sys'.submitted = sys.submitted)
  /-- A bid is decided. -/
  | decided (buildState : BuildState) (bidValue : U256)
      (tasks : sys'.tasks = sys.tasks ++ [⟨buildState, bidValue, .spawned⟩])
      (queue : sys'.commandRx.queue = sys.commandRx.queue)
      (submitted : sys'.submitted = sys.submitted)
  /-- The block of a bid is built, and the bid is sent to the relay service. -/
  | finalized (index : Nat) (task : SubmitTask) (bid : Bid)
      (current : sys.tasks[index]? = some task) (stage : task.stage = .spawned)
      (value : bid.value = task.bidValue)
      (tasks : sys'.tasks = sys.tasks.set index { task with stage := .commanded })
      (queue : sys'.commandRx.queue = sys.commandRx.queue ++ [(index, bid)])
      (submitted : sys'.submitted = sys.submitted)
  /-- The block of a bid is not built. -/
  | failed (index : Nat) (task : SubmitTask) (current : sys.tasks[index]? = some task)
      (tasks : sys'.tasks = sys.tasks.set index { task with stage := .failed })
      (queue : sys'.commandRx.queue = sys.commandRx.queue)
      (submitted : sys'.submitted = sys.submitted)
  /-- The relay service takes the bid of a task. -/
  | taken (index : Nat) (task : SubmitTask) (bid : Bid)
      (current : sys.tasks[index]? = some task) (stage : task.stage = .commanded)
      (tasks : sys'.tasks = sys.tasks.set index { task with stage := .broadcasting sys.relays bid })
      (queue : sys.commandRx.queue = (index, bid) :: sys'.commandRx.queue)
      (submitted : sys'.submitted = sys.submitted)
  /-- The relay service takes a bid that no task waits for. -/
  | dropped (message : Nat × Bid) (tasks : sys'.tasks = sys.tasks)
      (queue : sys.commandRx.queue = message :: sys'.commandRx.queue)
      (submitted : sys'.submitted = sys.submitted)
  /-- A bid is handed to a relay. -/
  | posted (index : Nat) (task : SubmitTask) (relay : RelayName) (left : List RelayName)
      (bid : Bid) (post : event = .post index relay) (current : sys.tasks[index]? = some task)
      (stage : task.stage = .broadcasting left bid) (mem : relay ∈ left)
      (tasks : sys'.tasks =
        sys.tasks.set index { task with stage := .broadcasting (left.erase relay) bid })
      (queue : sys'.commandRx.queue = sys.commandRx.queue)
      (submitted : sys'.submitted = sys.submitted ++ [⟨relay, index, bid⟩])

theorem finalize_tasks (R : Reth) (sys : BidderSystem P) (index : Nat) (client : Client)
    (pool : Pool) (event : BidderEvent) :
    TaskStep sys event (sys.finalize R index client pool) := by
  unfold finalize
  split
  next buildState bidValue htask =>
    split
    next build hbuild =>
      refine .finalized index _ (Bid.new build sys.publicKey) htask rfl ?_ rfl rfl rfl
      -- the bid that was decided is the payment of the build
      unfold buildSubmissionWithBuilderPayment at hbuild
      split at hbuild
      next => cases hbuild
      next built hinto =>
        cases hbuild
        obtain ⟨_, _, _, _, _, _, _, _, _, _, _, _, _, rfl⟩ := BuildState.intoBuild_ok hinto
        rfl
    next => exact .failed index _ htask rfl rfl rfl
  next => exact .same rfl rfl rfl

theorem relayPoll_tasks (sys : BidderSystem P) (event : BidderEvent) :
    TaskStep sys event sys.relayPoll := by
  unfold relayPoll
  split
  next index bid rest hrecv =>
    have hqueue := Channel.pollRecv_message hrecv
    split
    next buildState bidValue htask => exact .taken index _ bid htask rfl rfl hqueue rfl
    next => exact .dropped (index, bid) rfl hqueue rfl
  next => exact .same rfl rfl rfl

theorem post_tasks (sys : BidderSystem P) (index : Nat) (relay : RelayName) :
    TaskStep sys (.post index relay) (sys.post index relay) := by
  unfold post
  split
  next buildState bidValue left bid htask =>
    split
    next hmem => exact .posted index _ relay left bid rfl htask rfl hmem rfl rfl rfl
    next => exact .same rfl rfl rfl
  next => exact .same rfl rfl rfl

variable [BidSelectionPolicy P]

/-- A bid is decided at the end of a poll. -/
theorem pollBid_tasks (sys : BidderSystem P) (currentTime : U128) (event : BidderEvent) :
    TaskStep sys event (sys.pollBid currentTime) := by
  unfold pollBid
  split
  next => exact .same rfl rfl rfl
  next =>
    simp only
    split
    next => exact .same rfl rfl rfl
    next =>
      split
      next bidValue buildState _ _ => exact .decided buildState bidValue rfl rfl rfl
      next => exact .same rfl rfl rfl

theorem poll_tasks (sys : BidderSystem P) (currentTime : U128) (event : BidderEvent) :
    TaskStep sys event (sys.poll currentTime) := by
  by_cases hphase : sys.phase = .bid
  · have hpoll : sys.poll currentTime = sys.pollBid currentTime := by
      unfold poll
      rw [hphase]
    rw [hpoll]
    exact sys.pollBid_tasks currentTime event
  · have hframe := sys.poll_frame currentTime
    exact .same (hframe.tasks hphase) (by rw [hframe.commandRx]) hframe.submitted

/-- **What an event does to the tasks.** -/
theorem step_tasks (R : Reth) (sys : BidderSystem P) (event : BidderEvent) :
    TaskStep sys event (sys.step R event) := by
  cases event with
  | poll currentTime => exact sys.poll_tasks currentTime _
  | finalize task client pool => exact sys.finalize_tasks R task client pool _
  | relayPoll => exact sys.relayPoll_tasks _
  | post task relay => exact sys.post_tasks task relay
  | onAuctionStart slot blockNumber => exact .same rfl rfl rfl
  | makeBid buildState => exact .same rfl rfl rfl
  | dropHandles => exact .same rfl rfl rfl
  | answer request traces =>
    simp only [step, answer]
    split
    next => exact .same rfl rfl rfl
    next => exact .same rfl rfl rfl

theorem step_relays (R : Reth) (sys : BidderSystem P) (event : BidderEvent) :
    (sys.step R event).relays = sys.relays := by
  cases event with
  | poll currentTime => exact (sys.poll_frame currentTime).relays
  | finalize task client pool => grind [step, finalize]
  | relayPoll => grind [step, relayPoll]
  | post task relay => grind [step, post]
  | onAuctionStart slot blockNumber => rfl
  | makeBid buildState => rfl
  | dropHandles => rfl
  | answer request traces =>
    simp only [step, answer]
    split
    next => rfl
    next => rfl

/-! ## Over a run -/

theorem PostsInTurn.step (R : Reth) {sys : BidderSystem P} {event : BidderEvent}
    (hturn : sys.InTurn event) (h : PostsInTurn sys) : PostsInTurn (sys.step R event) := by
  have hrelays := sys.step_relays R event
  suffices SubmittedInOrder (sys.step R event).tasks (sys.step R event).submitted ∧
      OnTheWay sys.relays (sys.step R event).tasks (sys.step R event).commandRx.queue
        (sys.step R event).submitted from
    ⟨hrelays ▸ h.relays, this.1, hrelays ▸ this.2⟩
  cases sys.step_tasks R event with
  | same htasks hqueue hsubmitted =>
    rw [htasks, hqueue, hsubmitted]
    exact ⟨h.inOrder, h.onTheWay⟩
  | decided buildState bidValue htasks hqueue hsubmitted =>
    rw [htasks, hqueue, hsubmitted]
    exact ⟨h.inOrder.grows (.append SubmitTask.onward_refl sys.tasks _), h.onTheWay.spawned buildState bidValue⟩
  | finalized index task bid hcurrent hstage hvalue htasks hqueue hsubmitted =>
    have hdone relay (hdone : task.stage.doneWith relay = true) :
        SubmitStage.commanded.doneWith relay = true := by
      rw [hstage] at hdone
      cases hdone
    rw [htasks, hqueue, hsubmitted]
    refine ⟨h.inOrder.grows (SubmitTask.grows_stage hcurrent hdone), ?_⟩
    have hsent := h.onTheWay.send hcurrent hvalue
    exact hsent.set hcurrent hdone fun left bid hstage' => by cases hstage'
  | failed index task hcurrent htasks hqueue hsubmitted =>
    rw [htasks, hqueue, hsubmitted]
    refine ⟨h.inOrder.grows (SubmitTask.grows_stage hcurrent fun _ _ => rfl), ?_⟩
    exact h.onTheWay.set hcurrent (fun _ _ => rfl) fun left bid hstage' => by cases hstage'
  | taken index task bid hcurrent hstage htasks hqueue hsubmitted =>
    have hdone relay (hdone : task.stage.doneWith relay = true) :
        (SubmitStage.broadcasting sys.relays bid).doneWith relay = true := by
      rw [hstage] at hdone
      cases hdone
    have honTheWay := h.onTheWay
    rw [hqueue] at honTheWay
    rw [htasks, hsubmitted]
    refine ⟨h.inOrder.grows (SubmitTask.grows_stage hcurrent hdone), honTheWay.receive.set hcurrent hdone ?_⟩
    intro left bid' hstage'
    cases hstage'
    obtain ⟨commanded, hcommanded, hvalue⟩ := honTheWay.commands _ (List.mem_cons_self ..)
    cases hcurrent.symm.trans hcommanded
    exact ⟨h.relays, hvalue, fun relay hrelay hleft => absurd hrelay hleft⟩
  | dropped message htasks hqueue hsubmitted =>
    have honTheWay := h.onTheWay
    rw [hqueue] at honTheWay
    rw [htasks, hsubmitted]
    exact ⟨h.inOrder, honTheWay.receive⟩
  | posted index task relay left bid hpost hcurrent hstage hmem htasks hqueue hsubmitted =>
    cases hpost
    obtain ⟨hnodup, hvalue, -⟩ := h.onTheWay.broadcasts index task left bid hcurrent hstage
    have hdone other (hdone : task.stage.doneWith other = true) :
        (SubmitStage.broadcasting (left.erase relay) bid).doneWith other = true := by
      rw [hstage] at hdone
      exact SubmitStage.doneWith_erase relay hdone
    have hleft : relay ∈ task.stage.relaysLeft := by
      rw [hstage]
      exact hmem
    have hlength := (List.getElem?_eq_some_iff.mp hcurrent).1
    rw [htasks, hqueue, hsubmitted]
    refine ⟨?_, h.onTheWay.post hcurrent hstage relay⟩
    refine h.inOrder.post (SubmitTask.grows_stage hcurrent hdone) hcurrent ?_
      (hturn task hcurrent hleft) (List.getElem?_set_self hlength) ?_ hvalue
    · rw [hstage]
      exact decide_eq_false (not_not_intro hmem)
    · exact decide_eq_true fun herase => ((hnodup.mem_erase_iff).mp herase).1 rfl

/-- **Bids reach the relays in the order they were decided, in a run in which
every post is in turn.** What stands at a relay is then the bid decided last
among those whose block was built, as soon as none is on its way. -/
theorem bids_in_order (R : Reth) (policy : P) (networkClock : NetworkClock)
    (publicKey : BlsPublicKey) (internalRelayEnabled : Bool) (events : List BidderEvent)
    (hturn : Along (BidderSystem.step R) InTurn
      (new policy networkClock publicKey internalRelayEnabled) events) :
    let sys := run (BidderSystem.step R)
      (new policy networkClock publicKey internalRelayEnabled) events
    (sys.submitted.Pairwise fun before after => before.relay = after.relay →
      slotOf sys.tasks before.task = slotOf sys.tasks after.task → before.task < after.task) ∧
    ∀ relay ∈ sys.relays, ∀ slot sub, sys.standing relay slot = some sub →
      (∃ task, sys.tasks[sub.task]? = some task ∧ sub.bid.value = task.bidValue) ∧
      ∀ (index : Nat) (later : SubmitTask), sub.task < index → sys.tasks[index]? = some later →
        later.slot = slot → later.stage.doneWith relay = true → later.stage = .failed := by
  intro sys
  have h : PostsInTurn sys :=
    run_induct (I := PostsInTurn) (fun _ _ hturn h => h.step R hturn) events hturn (.of_new ..)
  refine ⟨h.inOrder.order, fun relay hrelay slot sub hstanding => ?_⟩
  obtain ⟨hsub, hlatest⟩ := standing_latest h.inOrder hstanding
  obtain ⟨task, htask, hvalue, -, -⟩ := h.inOrder.done sub hsub
  refine ⟨⟨task, htask, hvalue⟩, fun index later hlt hlater hslot hdone => ?_⟩
  cases hstage : later.stage with
  | failed => rfl
  | spawned =>
    rw [hstage] at hdone
    cases hdone
  | commanded =>
    rw [hstage] at hdone
    cases hdone
  | broadcasting left bid =>
    -- the later bid was handed over, so it would stand there
    rw [hstage] at hdone
    obtain ⟨-, -, hhanded⟩ := h.onTheWay.broadcasts index later left bid hlater hstage
    obtain ⟨other, hother, hotherRelay, hotherTask⟩ :=
      hhanded relay hrelay (of_decide_eq_true hdone)
    have hle := hlatest other hother hotherRelay (by simp [slotOf, hotherTask, hlater, hslot])
    omega

/-- Two bids of one auction are decided, of 10 and then of 20 wei. -/
def decidesTwice : List BidderEvent :=
  [.onAuctionStart 1 11, .makeBid (feeBuild 10)] ++ polls 6 ++ [.makeBid (feeBuild 20)] ++ polls 5

/-- The events from the build of a task's block to its post at the relay. -/
def submits (task : Nat) : List BidderEvent :=
  [.finalize task transferClient (transferPool []), .relayPoll, .post task .merkle]

/-- The task of the second bid is done first, and the lower bid is left standing. -/
theorem stale_bid_stands :
    let sys := run (BidderSystem.step transferChain) devnet
      (decidesTwice ++ submits 1 ++ submits 0)
    (sys.tasks.map fun task => (task.slot, task.bidValue)) = [(1, 10), (1, 20)] ∧
    (sys.submitted.map fun sub => (sub.relay, sub.task, sub.bid.value)) =
      [(.merkle, 1, 20), (.merkle, 0, 10)] ∧
    ((sys.standing .merkle 1).map fun sub => (sub.task, sub.bid.value)) = some (0, 10) ∧
    ¬ (sys.submitted.Pairwise fun before after => before.relay = after.relay →
      slotOf sys.tasks before.task = slotOf sys.tasks after.task → before.task < after.task) := by
  decide +kernel

/-- The same tasks, one after the other. -/
theorem bids_in_order_devnet :
    let sys := run (BidderSystem.step transferChain) devnet
      (decidesTwice ++ submits 0 ++ submits 1)
    (sys.submitted.Pairwise fun before after => before.relay = after.relay →
      slotOf sys.tasks before.task = slotOf sys.tasks after.task → before.task < after.task) ∧
    ∀ relay ∈ sys.relays, ∀ slot sub, sys.standing relay slot = some sub →
      (∃ task, sys.tasks[sub.task]? = some task ∧ sub.bid.value = task.bidValue) ∧
      ∀ (index : Nat) (later : SubmitTask), sub.task < index → sys.tasks[index]? = some later →
        later.slot = slot → later.stage.doneWith relay = true → later.stage = .failed :=
  bids_in_order transferChain DevnetPolicy.mk (.new 0 12) [7] false _ (by decide +kernel)

end BidderSystem

end BlockBuilder
