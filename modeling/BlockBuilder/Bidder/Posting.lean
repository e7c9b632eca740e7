import BlockBuilder.Bidder.Submitting

/-!
# Each bid is posted once (`crates/payload/src/bidder/service.rs`, `crates/relay/src/services/relay.rs`)

A bid that was decided passes from its task to the relay service and back, and
then to the relays, in an order of its own for each. On this way it is neither
lost nor doubled: at every moment it is with its task, in one command, or has
been posted to the relays that are not left, and to each of them once.

Unlike the order of the bids (`PostsInTurn`) this depends on no condition. It is
the stage of a task that says where its bid is, so that `At` is by the stages.
-/

namespace BlockBuilder

open Lib (Channel run run_invariant)

/-- The relays the bid of a task was posted to. -/
def postedTo (submitted : List Submission) (index : Nat) : List RelayName :=
  (submitted.filter (·.task = index)).map (·.relay)

/-- Where the bid of a task is. -/
def SubmitStage.At (relays : List RelayName) (queue : List (Nat × Bid))
    (submitted : List Submission) (index : Nat) : SubmitStage → Prop
  | .commanded => index ∈ queue.map (·.1) ∧ postedTo submitted index = []
  | .broadcasting left bid => index ∉ queue.map (·.1) ∧
      (postedTo submitted index ++ left).Perm relays ∧
      ∀ sub ∈ submitted, sub.task = index → sub.bid = bid
  | .spawned | .failed => index ∉ queue.map (·.1) ∧ postedTo submitted index = []

theorem postedTo_concat (submitted : List Submission) (sub : Submission) (index : Nat) :
    postedTo (submitted ++ [sub]) index =
      postedTo submitted index ++ if sub.task = index then [sub.relay] else [] := by
  unfold postedTo
  rw [List.filter_append, List.map_append]
  by_cases heq : sub.task = index
  · simp [heq]
  · simp [heq]

theorem postedTo_eq_nil {submitted : List Submission} {index : Nat}
    (h : ∀ sub ∈ submitted, sub.task ≠ index) : postedTo submitted index = [] := by
  unfold postedTo
  rw [List.filter_eq_nil_iff.mpr fun sub hsub heq => h sub hsub (of_decide_eq_true heq)]
  rfl

/-- What was posted, counted by task. -/
theorem count_postedTo (submitted : List Submission) (relay : RelayName) (index : Nat) :
    (submitted.map fun sub => (sub.relay, sub.task)).count (relay, index) =
      (postedTo submitted index).count relay := by
  induction submitted with
  | nil => rfl
  | cons sub submitted ih =>
    rw [List.map_cons, List.count_cons, ih]
    by_cases htask : sub.task = index
    · simp [postedTo, htask, List.count_cons]
    · simp [postedTo, htask]

/-- A task that posts to no relay twice, for each. -/
theorem nodup_of_postedTo {submitted : List Submission}
    (h : ∀ sub ∈ submitted, (postedTo submitted sub.task).Nodup) :
    (submitted.map fun sub => (sub.relay, sub.task)).Nodup := by
  refine List.nodup_iff_count_le_one.mpr fun (relay, index) => ?_
  by_cases hmem : (relay, index) ∈ submitted.map fun sub => (sub.relay, sub.task)
  · obtain ⟨sub, hsub, heq⟩ := List.mem_map.mp hmem
    cases heq
    rw [count_postedTo]
    exact List.nodup_iff_count_le_one.mp (h sub hsub) sub.relay
  · rw [List.count_eq_zero_of_not_mem hmem]
    exact Nat.zero_le 1

namespace SubmitStage.At

variable {relays : List RelayName} {queue queue' : List (Nat × Bid)}
  {submitted submitted' : List Submission} {index : Nat} {stage : SubmitStage}

theorem nodup (h : stage.At relays queue submitted index) (hrelays : relays.Nodup) :
    (postedTo submitted index).Nodup := by
  cases stage with
  | spawned => exact h.2 ▸ .nil
  | failed => exact h.2 ▸ .nil
  | commanded => exact h.2 ▸ .nil
  | broadcasting left bid => exact (List.nodup_append.mp (h.2.1.nodup_iff.mpr hrelays)).1

/-- What concerns other tasks does not move the bid. -/
theorem other (h : stage.At relays queue submitted index)
    (hqueue : index ∈ queue'.map (·.1) ↔ index ∈ queue.map (·.1))
    (hposted : postedTo submitted' index = postedTo submitted index)
    (hsubmitted : ∀ sub ∈ submitted', sub.task = index → sub ∈ submitted) :
    stage.At relays queue' submitted' index := by
  cases stage with
  | spawned => exact ⟨fun hmem => h.1 (hqueue.mp hmem), hposted.trans h.2⟩
  | failed => exact ⟨fun hmem => h.1 (hqueue.mp hmem), hposted.trans h.2⟩
  | commanded => exact ⟨hqueue.mpr h.1, hposted.trans h.2⟩
  | broadcasting left bid =>
    obtain ⟨hidle, hperm, hbid⟩ := h
    refine ⟨fun hmem => hidle (hqueue.mp hmem), ?_, fun sub hsub htask => ?_⟩
    · rw [hposted]
      exact hperm
    · exact hbid sub (hsubmitted sub hsub htask) htask

/-- A command of another task is sent. -/
theorem send (h : stage.At relays queue submitted index) {message : Nat × Bid}
    (hne : message.1 ≠ index) : stage.At relays (queue ++ [message]) submitted index := by
  refine h.other ?_ rfl fun sub hsub _ => hsub
  rw [List.map_append, List.mem_append]
  refine or_iff_left fun hmem => hne (List.mem_singleton.mp hmem).symm

/-- A command of another task is received. -/
theorem receive {message : Nat × Bid} (h : stage.At relays (message :: queue) submitted index)
    (hne : message.1 ≠ index) : stage.At relays queue submitted index := by
  refine h.other ?_ rfl fun sub hsub _ => hsub
  rw [List.map_cons, List.mem_cons]
  exact (or_iff_right hne.symm).symm

/-- A bid of another task is posted. -/
theorem submit (h : stage.At relays queue submitted index) {sub : Submission}
    (hne : sub.task ≠ index) : stage.At relays queue (submitted ++ [sub]) index := by
  refine h.other Iff.rfl ?_ fun other hother htask => ?_
  · rw [postedTo_concat, if_neg hne, List.append_nil]
  · rcases List.mem_append.mp hother with hold | hnew
    · exact hold
    · rw [List.mem_singleton.mp hnew] at htask
      exact absurd htask hne

end SubmitStage.At

namespace BidderSystem

section Posting

variable {P : Type}

/-- Every bid is in one place, and there is none without a task. -/
structure EachOnce (sys : BidderSystem P) : Prop where
  relays : sys.relays.Nodup
  once : (sys.commandRx.queue.map (·.1)).Nodup
  stages : ∀ (index : Nat) (task : SubmitTask), sys.tasks[index]? = some task →
    task.stage.At sys.relays sys.commandRx.queue sys.submitted index
  commands : ∀ message ∈ sys.commandRx.queue, message.1 < sys.tasks.length
  submitted : ∀ sub ∈ sys.submitted, sub.task < sys.tasks.length

namespace EachOnce

variable {sys : BidderSystem P}

theorem of_new (policy : P) (networkClock : NetworkClock) (publicKey : BlsPublicKey)
    (internalRelayEnabled : Bool) :
    EachOnce (new policy networkClock publicKey internalRelayEnabled) where
  relays := relays_nodup internalRelayEnabled
  once := .nil
  stages index task htask := by cases htask
  commands message hmessage := by cases hmessage
  submitted sub hsub := by cases hsub

theorem of_eq (h : EachOnce sys) {sys' : BidderSystem P} (hrelays : sys'.relays = sys.relays)
    (htasks : sys'.tasks = sys.tasks) (hcommands : sys'.commandRx = sys.commandRx)
    (hsubmitted : sys'.submitted = sys.submitted) : EachOnce sys' := by
  constructor
  · rw [hrelays]
    exact h.relays
  · rw [hcommands]
    exact h.once
  · rw [hrelays, htasks, hcommands, hsubmitted]
    exact h.stages
  · rw [htasks, hcommands]
    exact h.commands
  · rw [htasks, hsubmitted]
    exact h.submitted

/-- A bid is decided. -/
theorem decided (h : EachOnce sys) (buildState : BuildState) (bidValue : U256) :
    EachOnce { sys with tasks := sys.tasks ++ [⟨buildState, bidValue, .spawned⟩] } where
  relays := h.relays
  once := h.once
  stages index task htask := by
    rw [List.getElem?_append] at htask
    split at htask
    next => exact h.stages index task htask
    next hle =>
      rw [List.mem_singleton.mp (List.mem_of_getElem? htask)]
      refine ⟨fun hmem => ?_, postedTo_eq_nil fun sub hsub heq => ?_⟩
      · obtain ⟨message, hmessage, heq⟩ := List.mem_map.mp hmem
        have hlt := h.commands message hmessage
        omega
      · have hlt := h.submitted sub hsub
        omega
  commands message hmessage := by
    have hlt := h.commands message hmessage
    rw [List.length_append]
    omega
  submitted sub hsub := by
    have hlt := h.submitted sub hsub
    rw [List.length_append]
    omega

/-- A task goes on to its next stage, and takes its bid along. -/
theorem setStage (h : EachOnce sys) {index : Nat} {task : SubmitTask}
    (htask : sys.tasks[index]? = some task) {stage : SubmitStage} {commands : Channel (Nat × Bid)}
    {submitted : List Submission}
    (honce : (commands.queue.map (·.1)).Nodup)
    (hstage : stage.At sys.relays commands.queue submitted index)
    (hothers : ∀ (other : Nat) (task' : SubmitTask), other ≠ index → sys.tasks[other]? = some task' →
      task'.stage.At sys.relays commands.queue submitted other)
    (hcommands : ∀ message ∈ commands.queue, message ∈ sys.commandRx.queue ∨ message.1 = index)
    (hsubmitted : ∀ sub ∈ submitted, sub ∈ sys.submitted ∨ sub.task = index) :
    EachOnce
      { sys with
        tasks := sys.tasks.set index { task with stage := stage }
        commandRx := commands
        submitted := submitted } := by
  have hlt := (List.getElem?_eq_some_iff.mp htask).1
  refine ⟨h.relays, honce, fun other task' hother => ?_, fun message hmessage => ?_, fun sub hsub => ?_⟩
  · by_cases heq : other = index
    · rw [heq] at hother
      cases (List.getElem?_set_self hlt).symm.trans hother
      rw [heq]
      exact hstage
    · simp only at hother
      rw [List.getElem?_set_ne (Ne.symm heq)] at hother
      exact hothers other task' heq hother
  · simp only
    rw [List.length_set]
    rcases hcommands message hmessage with hold | heq
    · exact h.commands message hold
    · rw [heq]
      exact hlt
  · simp only
    rw [List.length_set]
    rcases hsubmitted sub hsub with hold | heq
    · exact h.submitted sub hold
    · rw [heq]
      exact hlt

/-- **The bid of a task goes to the relay service**, or is given up. -/
theorem finalize (R : Reth) (h : EachOnce sys) (task : Nat) (client : Client) (pool : Pool) :
    EachOnce (sys.finalize R task client pool) := by
  unfold BidderSystem.finalize
  split
  next buildState bidValue htask =>
    obtain ⟨hidle, hposted⟩ := h.stages task _ htask
    split
    next build _ =>
      refine h.setStage htask ?_ ⟨?_, hposted⟩ (fun other task' hne hother => ?_)
        (fun message hmessage => ?_) fun _ hsub => .inl hsub
      · show (List.map (·.1) (sys.commandRx.queue ++ _)).Nodup
        rw [List.map_append]
        refine List.nodup_append.mpr ⟨h.once, List.nodup_singleton _, fun index hmem other hother heq => ?_⟩
        rw [heq, List.mem_singleton.mp hother] at hmem
        exact hidle hmem
      · exact List.mem_map_of_mem (List.mem_concat_self (a := (task, Bid.new build sys.publicKey)))
      · exact (h.stages other task' hother).send hne.symm
      · rcases List.mem_append.mp hmessage with hold | hnew
        · exact .inl hold
        · rw [List.mem_singleton.mp hnew]
          exact .inr rfl
    next =>
      exact h.setStage htask h.once ⟨hidle, hposted⟩ (fun other task' _ => h.stages other task')
        (fun _ hmessage => .inl hmessage) fun _ hsub => .inl hsub
  next => exact h

/-- **The relay service takes a command**, and there is no other of its task. -/
theorem relayPoll (h : EachOnce sys) : EachOnce sys.relayPoll := by
  unfold BidderSystem.relayPoll
  split
  next task bid rest hrecv =>
    have hqueue := Channel.pollRecv_message hrecv
    have honce := h.once
    rw [hqueue] at honce
    obtain ⟨hnotin, hrest⟩ := List.nodup_cons.mp honce
    split
    next buildState bidValue htask =>
      obtain ⟨-, hposted⟩ := h.stages task _ htask
      refine h.setStage htask hrest ⟨hnotin, ?_, fun sub hsub heq => ?_⟩
        (fun other task' hne hother => ?_) (fun message hmessage => .inl ?_) fun _ hsub => .inl hsub
      · rw [hposted]
        exact .refl _
      · have hmem : sub.relay ∈ postedTo sys.submitted task :=
          List.mem_map_of_mem (List.mem_filter.mpr ⟨hsub, decide_eq_true heq⟩)
        rw [hposted] at hmem
        cases hmem
      · have hbefore := h.stages other task' hother
        rw [hqueue] at hbefore
        exact hbefore.receive hne.symm
      · rw [hqueue]
        exact List.mem_cons_of_mem _ hmessage
    next hnone =>
      -- every command is of a task that awaits its answer
      have hlt := h.commands (task, bid) (hqueue ▸ List.mem_cons_self)
      obtain ⟨⟨buildState, bidValue, stage⟩, htask⟩ :
          ∃ commanded, sys.tasks[task]? = some commanded := ⟨_, List.getElem?_eq_getElem hlt⟩
      have hplace := h.stages task _ htask
      have hmem : task ∈ sys.commandRx.queue.map (·.1) := by
        rw [hqueue]
        exact List.mem_cons_self
      cases stage with
      | spawned => exact absurd hmem hplace.1
      | failed => exact absurd hmem hplace.1
      | broadcasting left bid => exact absurd hmem hplace.1
      | commanded => exact absurd htask (hnone buildState bidValue)
  next => exact h

/-- **A bid is posted to a relay that was left**, and to no other. -/
theorem post (h : EachOnce sys) (task : Nat) (relay : RelayName) : EachOnce (sys.post task relay) := by
  unfold BidderSystem.post
  split
  next buildState bidValue left bid htask =>
    split
    next hmem =>
      obtain ⟨hidle, hperm, hbid⟩ := h.stages task _ htask
      refine h.setStage htask h.once ⟨hidle, ?_, fun sub hsub heq => ?_⟩
        (fun other task' hne hother => ?_) (fun _ hmessage => .inl hmessage) fun sub hsub => ?_
      · rw [postedTo_concat, if_pos rfl, List.append_assoc]
        refine .trans (.append_left _ ?_) hperm
        exact (List.perm_cons_erase hmem).symm
      · rcases List.mem_append.mp hsub with hold | hnew
        · exact hbid sub hold heq
        · rw [List.mem_singleton.mp hnew]
      · exact (h.stages other task' hother).submit hne.symm
      · rcases List.mem_append.mp hsub with hold | hnew
        · exact .inl hold
        · rw [List.mem_singleton.mp hnew]
          exact .inr rfl
    next => exact h
  next => exact h

variable [BidSelectionPolicy P]

theorem poll (h : EachOnce sys) (currentTime : U128) : EachOnce (sys.poll currentTime) := by
  have hframe := sys.poll_frame currentTime
  have htasks : (sys.poll currentTime).tasks = sys.tasks ∨ ∃ buildState bidValue,
      (sys.poll currentTime).tasks = sys.tasks ++ [⟨buildState, bidValue, .spawned⟩] := by
    by_cases hphase : sys.phase = .bid
    · unfold BidderSystem.poll pollBid
      rw [hphase]
      simp only
      split
      next => exact .inl rfl
      next =>
        split
        next => exact .inl rfl
        next =>
          split
          next bidValue buildState _ _ => exact .inr ⟨buildState, bidValue, rfl⟩
          next => exact .inl rfl
    · exact .inl (hframe.tasks hphase)
  rcases htasks with hsame | ⟨buildState, bidValue, hdecided⟩
  · exact h.of_eq hframe.relays hsame hframe.commandRx hframe.submitted
  · exact (h.decided buildState bidValue).of_eq hframe.relays hdecided hframe.commandRx hframe.submitted

/-- **Every event keeps it.** -/
theorem step (R : Reth) (h : EachOnce sys) (event : BidderEvent) : EachOnce (sys.step R event) := by
  cases event with
  | poll currentTime => exact h.poll currentTime
  | finalize task client pool => exact h.finalize R task client pool
  | relayPoll => exact h.relayPoll
  | post task relay => exact h.post task relay
  | onAuctionStart slot blockNumber => exact h.of_eq rfl rfl rfl rfl
  | makeBid buildState => exact h.of_eq rfl rfl rfl rfl
  | dropHandles => exact h.of_eq rfl rfl rfl rfl
  | answer request traces =>
    show EachOnce (sys.answer request traces)
    unfold answer
    split
    next => exact h.of_eq rfl rfl rfl rfl
    next => exact h

end EachOnce

end Posting

variable {P : Type} [BidSelectionPolicy P]

/-- **Every bid is handed to every relay once**, or to none. However the tasks, the
relay service and the relays follow each other: no bid is posted to a relay twice,
what is posted is the bid of the task's one command, a bid whose block could not be
built reaches no relay, and a bid that no relay is left for has reached them all. -/
theorem bids_posted_once (R : Reth) (policy : P) (networkClock : NetworkClock)
    (publicKey : BlsPublicKey) (internalRelayEnabled : Bool) (events : List BidderEvent) :
    let sys := run (BidderSystem.step R) (new policy networkClock publicKey internalRelayEnabled) events
    (sys.submitted.map fun sub => (sub.relay, sub.task)).Nodup ∧
    (sys.commandRx.queue.map (·.1)).Nodup ∧
    (∀ sub ∈ sys.submitted, sub.task < sys.tasks.length) ∧
    ∀ (index : Nat) (task : SubmitTask), sys.tasks[index]? = some task →
      task.stage.At sys.relays sys.commandRx.queue sys.submitted index := by
  intro sys
  have h : EachOnce sys := run_invariant (fun _ event h => h.step R event) events
    (.of_new policy networkClock publicKey internalRelayEnabled)
  refine ⟨nodup_of_postedTo fun sub hsub => ?_, h.once, h.submitted, h.stages⟩
  have htask := List.getElem?_eq_getElem (h.submitted sub hsub)
  exact (h.stages sub.task _ htask).nodup h.relays

end BidderSystem

end BlockBuilder
