import BlockBuilder.Lib.Oneshot
import BlockBuilder.Payload.IntervalJob
import BlockBuilder.Payload.ServiceRuns
import BlockBuilder.Payload.TransferSlot

/-!
# What the handles of the payload service are answered (`crates/payload/src/service/mod.rs`)

A handle sends a command together with the sender of a oneshot, and waits for what
comes over it. The service answers a command where it takes it from the channel, and
says what it finds then: the payload is being built, or there is no job for it.

`HandleSystem` puts the handles beside the service. `answered_in_order` says of every
run that the commands are answered in the order in which they were sent, each once,
by an answer that was true when it was given; `answered_within` that a command does not
wait for longer than two turns for each job and one for each command before it.

Mirroring notes:
- The senders that wait in the channel are numbers of requests, in a list of their own
  beside the commands.
- `requests` and `notes` are history: what was sent, and what had become of the jobs
  when a command was answered.
- A service that panics drops the channel and every sender in it, and refuses what is
  sent to it afterwards.
-/

namespace BlockBuilder

open Lib (Channel Oneshot run run_concat run_append run_invariant)

/-- The future that a job hands out when it is resolved. -/
class HandsOut (Job : Type) (Fut : outParam Type) where
  future : Job → Fut

/-- What an interval job answers, by the state that its client and pool show. -/
@[reducible] def intervalPayloadJob (R : Reth) (strat : EmptyStrat) (inputs : BuildInputs) :
    PayloadJob IntervalBuildJob where
  bestPayload job := some (job.bestPayload R strat inputs)
  payloadAttributes job := some job.payloadAttributes
  resolve job := some ((job.resolve R inputs.client inputs.pool).1, .no)

/-- The future of an interval job. -/
@[reducible] def intervalHandsOut (R : Reth) (inputs : BuildInputs) :
    HandsOut IntervalBuildJob ResolveBestPayload where
  future job := (job.resolve R inputs.client inputs.pool).2

/-- What the service sends back. -/
inductive Reply (Fut : Type) where
  | newPayload (res : Except PayloadBuilderError PayloadId)
  | bestPayload (best : Option (Except PayloadBuilderError Build))
  | payloadAttributes (attributes : Option (Except PayloadBuilderError EthPayloadBuilderAttributes))
  | resolve (fut : Option Fut)

variable {Job Fut : Type}

/-- The jobs that the notes say are alive are what an answer is about. An `ok` for a new
payload says that there is a job for it now. -/
def Reply.Fits (note trace : List JobNote) : PayloadServiceCommand → Reply Fut → Prop
  | .buildNewPayload config, .newPayload (.ok id) => id = config.attributes.id ∧
      (id ∈ liveIds note ∨ note ++ [.created id] <+: trace)
  | .buildNewPayload config, .newPayload (.error _) => config.attributes.id ∉ liveIds note
  | .bestPayload id, .bestPayload best => best.isSome ↔ id ∈ liveIds note
  | .payloadAttributes id, .payloadAttributes attributes => attributes.isSome ↔ id ∈ liveIds note
  | .resolve id, .resolve fut => fut.isSome ↔ id ∈ liveIds note
  | _, _ => False

/-- What an answer says stays true. -/
theorem Reply.Fits.mono {note trace trace' : List JobNote} {cmd : PayloadServiceCommand}
    {reply : Reply Fut} (h : reply.Fits note trace cmd) (hgrows : trace <+: trace') :
    reply.Fits note trace' cmd := by
  unfold Reply.Fits at h
  split at h
  next =>
    obtain ⟨hid, halive | hcreated⟩ := h
    · exact ⟨hid, .inl halive⟩
    · exact ⟨hid, .inr (hcreated.trans hgrows)⟩
  next => exact h
  next => exact h
  next => exact h
  next => exact h
  next => cases h

namespace PayloadBuilderService

variable [PayloadJob Job] [HandsOut Job Fut]

/-- The first job of a payload is asked for something; it may not implement that. -/
def asked {α : Type} (service : PayloadBuilderService Job) (id : PayloadId) (method : Job → Option α) :
    Option (Option α) :=
  match service.payloadJobs.find? fun job => job.2 = id with
  | some (job, _) => (method job).map some
  | none => some none

/-- The answer to a command; `none` is a job that does not implement what it is asked. -/
def answer (newPayloadJob : BuildConfig → Except PayloadBuilderError Job)
    (service : PayloadBuilderService Job) : PayloadServiceCommand → Option (Reply Fut)
  | .buildNewPayload config =>
    let id := config.attributes.id
    if service.containsPayload id then some (.newPayload (.ok id))
    else
      match newPayloadJob config with
      | .ok _ => some (.newPayload (.ok id))
      | .error err => some (.newPayload (.error err))
  | .bestPayload id => (service.asked id PayloadJob.bestPayload).map .bestPayload
  | .payloadAttributes id => (service.asked id PayloadJob.payloadAttributes).map .payloadAttributes
  | .resolve id =>
    (service.asked id fun job => (PayloadJob.resolve job).map fun _ => HandsOut.future job).map .resolve

end PayloadBuilderService

/-! ## The handles -/

/-- The service, its handles and what they have been answered. -/
structure HandleSystem (Job Fut : Type) where
  service : ServiceRun Job
  /-- The requests whose commands are in the channel. -/
  senders : List Nat
  replies : List (Oneshot (Reply Fut))
  requests : List PayloadServiceCommand
  notes : List (List JobNote)

namespace HandleSystem

def new : HandleSystem Job Fut := ⟨.new, [], [], [], []⟩

variable [PayloadJob Job] [HandsOut Job Fut]

/-- A handle sends a command. -/
def send (sys : HandleSystem Job Fut) (cmd : PayloadServiceCommand) : HandleSystem Job Fut :=
  match sys.service.service.phase with
  | .panicked => sys
  | _ =>
    { sys with
      service := sys.service.step (.send cmd)
      senders := sys.senders ++ [sys.replies.length]
      replies := sys.replies ++ [.pending]
      requests := sys.requests ++ [cmd] }

/-- The service takes a command, and answers it. -/
def receive (sys : HandleSystem Job Fut) (newPayloadJob : BuildConfig → Except PayloadBuilderError Job)
    (service : ServiceRun Job) : HandleSystem Job Fut :=
  match sys.service.service.commandRx.pollRecv.1, sys.senders with
  | .message cmd, sender :: senders =>
    match sys.service.service.answer newPayloadJob cmd with
    | some reply =>
      { sys with
        service := service
        senders := senders
        replies := sys.replies.modify sender (·.send reply)
        notes := sys.notes ++ [sys.service.trace] }
    | none => { sys with service := service, senders := [], replies := sys.replies.map Oneshot.drop }
  | _, _ => { sys with service := service }

def step (sys : HandleSystem Job Fut) : ServiceEvent Job → HandleSystem Job Fut
  | .send cmd => sys.send cmd
  | .turn poll newPayloadJob =>
    let service := sys.service.step (.turn poll newPayloadJob)
    match sys.service.service.phase with
    | .commands => sys.receive newPayloadJob service
    | _ => { sys with service := service }

end HandleSystem

/-! ## One command -/

namespace PayloadBuilderService

variable [PayloadJob Job]

omit [PayloadJob Job] in
/-- The place of a job and the job. -/
theorem find_eq_getElem {service : PayloadBuilderService Job} {id : PayloadId} {idx : Nat}
    (h : service.payloadJobs.findIdx? (fun job => job.2 = id) = some idx) :
    service.payloadJobs.find? (fun job => job.2 = id) = service.payloadJobs[idx]? := by
  obtain ⟨hlt, hid, hfirst⟩ := List.findIdx?_eq_some_iff_getElem.mp h
  rw [List.getElem?_eq_getElem hlt, List.find?_eq_some_iff_getElem]
  exact ⟨hid, idx, hlt, rfl, fun j hj => by simpa using hfirst j hj⟩

/-- A service goes on if there is an answer, and panics if there is none. -/
def GoesOn (answer : Option Fut) (service : PayloadBuilderService Job) : Prop :=
  answer.isSome ∧ service.phase = .commands ∨ answer = none ∧ service.phase = .panicked

omit [PayloadJob Job] in
theorem GoesOn.map {α : Type} {answer : Option Fut} {service : PayloadBuilderService Job}
    (h : GoesOn answer service) (f : Fut → α) : GoesOn (answer.map f) service := by
  rcases h with ⟨hsome, hphase⟩ | ⟨hnone, hphase⟩
  · exact .inl ⟨by rw [Option.isSome_map, hsome], hphase⟩
  · exact .inr ⟨by rw [hnone, Option.map_none], hphase⟩

omit [PayloadJob Job] in
theorem ask_goesOn {service : PayloadBuilderService Job} (hphase : service.phase = .commands)
    (id : PayloadId) (method : Job → Option Fut) :
    GoesOn (service.asked id method) (service.ask id method) := by
  unfold ask asked
  cases service.payloadJobs.find? fun job => job.2 = id with
  | none => exact .inl ⟨rfl, hphase⟩
  | some found =>
    simp only
    cases method found.1 with
    | some a => exact .inl ⟨rfl, hphase⟩
    | none => exact .inr ⟨rfl, rfl⟩

theorem resolve_goesOn {service : PayloadBuilderService Job} (hphase : service.phase = .commands)
    (id : PayloadId) (future : Job → Fut) :
    GoesOn (service.asked id fun job => (PayloadJob.resolve job).map fun _ => future job)
      (service.resolve id) := by
  unfold resolve asked
  cases hidx : service.payloadJobs.findIdx? fun job => job.2 = id with
  | none =>
    rw [List.find?_eq_none.mpr (by simpa [List.findIdx?_eq_none_iff] using hidx)]
    exact .inl ⟨rfl, hphase⟩
  | some idx =>
    have hlt := (List.findIdx?_eq_some_iff_getElem.mp hidx).1
    simp only [find_eq_getElem hidx, List.getElem?_eq_getElem hlt, Option.bind_some]
    cases PayloadJob.resolve service.payloadJobs[idx].1 with
    | none => exact .inr ⟨rfl, rfl⟩
    | some resolved =>
      obtain ⟨job, alive⟩ := resolved
      cases alive with
      | yes => exact .inl ⟨rfl, hphase⟩
      | no => exact .inl ⟨rfl, hphase⟩

variable [HandsOut Job Fut]

/-- **A command that is answered lets the service go on.** -/
theorem onCommand_goesOn (newPayloadJob : BuildConfig → Except PayloadBuilderError Job)
    {service : PayloadBuilderService Job} (hphase : service.phase = .commands)
    (cmd : PayloadServiceCommand) :
    GoesOn (service.answer newPayloadJob cmd) (service.onCommand newPayloadJob cmd) := by
  cases cmd with
  | buildNewPayload config =>
    unfold onCommand answer
    by_cases hthere : service.containsPayload config.attributes.id = true
    · simp only [if_pos hthere]
      exact .inl ⟨rfl, hphase⟩
    · simp only [if_neg hthere]
      cases newPayloadJob config with
      | ok job => exact .inl ⟨rfl, hphase⟩
      | error err => exact .inl ⟨rfl, hphase⟩
  | bestPayload id => exact (ask_goesOn hphase id PayloadJob.bestPayload).map _
  | payloadAttributes id => exact (ask_goesOn hphase id PayloadJob.payloadAttributes).map _
  | resolve id => exact (resolve_goesOn hphase id HandsOut.future).map _

end PayloadBuilderService

namespace ServiceRun

variable [PayloadJob Job] [HandsOut Job Fut] {r : ServiceRun Job}

omit [PayloadJob Job] in
/-- A job is found if and only if its payload is being built. -/
theorem find_isSome_iff (h : JobsExact r) (hphase : r.service.phase = .commands) (id : PayloadId) :
    (r.service.payloadJobs.find? fun job => job.2 = id).isSome ↔ id ∈ liveIds r.trace := by
  have hidle : ∀ idx job id, r.service.phase ≠ .polling idx job id := by
    intro idx job id hpolling
    rw [hphase] at hpolling
    cases hpolling
  rw [← (h.noted.held hidle).2 id, List.find?_isSome]
  simp

omit [PayloadJob Job] in
/-- Something is answered for a payload if and only if it is being built. -/
theorem asked_isSome_iff (h : JobsExact r) (hphase : r.service.phase = .commands) {α : Type}
    {id : PayloadId} {method : Job → Option α} {found : Option α}
    (hasked : r.service.asked id method = some found) : found.isSome ↔ id ∈ liveIds r.trace := by
  rw [← find_isSome_iff h hphase]
  unfold PayloadBuilderService.asked at hasked
  split at hasked
  next hfind =>
    obtain ⟨a, -, rfl⟩ := Option.map_eq_some_iff.mp hasked
    rw [hfind]
    rfl
  next hfind =>
    cases hasked
    rw [hfind]
    rfl

/-- The turn of the service in which a command is taken. -/
theorem step_received (hphase : r.service.phase = .commands) {cmd : PayloadServiceCommand}
    {rest : Channel PayloadServiceCommand} (hrecv : r.service.commandRx.pollRecv = (.message cmd, rest))
    (poll : JobPoll Job) (newPayloadJob : BuildConfig → Except PayloadBuilderError Job) :
    r.step (.turn poll newPayloadJob) =
      { r with
        service := { r.service with commandRx := rest }.onCommand newPayloadJob cmd
        trace := r.trace ++ r.service.commandEvents newPayloadJob } := by
  have hcmd : Commanded r.service ({ r.service with commandRx := rest }.onCommand newPayloadJob cmd)
      (r.service.commandEvents newPayloadJob) := commanded_onCommand hphase hrecv
  have hreceive : r.service.receive newPayloadJob =
      { r.service with commandRx := rest }.onCommand newPayloadJob cmd := by
    unfold PayloadBuilderService.receive
    rw [hrecv]
  unfold step
  rw [hphase]
  simp only [hreceive]
  split
  next idx hjobs => exact absurd hjobs (hcmd.outside idx)
  next => rfl

omit [HandsOut Job Fut] in
/-- A turn in which no command is taken: it leaves the channel, and does not panic. -/
theorem quiet_turn (h : JobsExact r) (halive : r.service.phase ≠ .panicked)
    (hnone : r.service.phase = .commands → ∀ cmd rest, r.service.commandRx.pollRecv ≠ (.message cmd, rest))
    (poll : JobPoll Job) (newPayloadJob : BuildConfig → Except PayloadBuilderError Job) :
    (r.step (.turn poll newPayloadJob)).service.phase ≠ .panicked ∧
    (r.step (.turn poll newPayloadJob)).service.commandRx = r.service.commandRx ∧
    r.trace <+: (r.step (.turn poll newPayloadJob)).trace := by
  unfold ServiceRun.step
  simp only
  cases hphase : r.service.phase with
  | jobs idx => exact ⟨(h.takeJob hphase).2, r.service.takeJob_commandRx idx, List.prefix_refl _⟩
  | polling idx job id =>
    refine ⟨?_, ?_, List.prefix_append _ _⟩
    · cases poll with
      | ready result => exact fun hpanicked => by cases hpanicked
      | pending job' => exact fun hpanicked => by cases hpanicked
    · cases poll with
      | ready result => rfl
      | pending job' => rfl
  | panicked => exact absurd hphase halive
  | commands =>
    have hreceive : r.service.receive newPayloadJob =
        { r.service with phase := .jobs r.service.payloadJobs.length } := by
      unfold PayloadBuilderService.receive
      split
      next cmd rest hrecv => exact absurd hrecv (hnone hphase cmd rest)
      next => rfl
    simp only [hreceive]
    exact ⟨fun hpanicked => (by cases hpanicked), trivial, List.prefix_append _ _⟩

/-- **An answer fits.** -/
theorem answer_fits (h : JobsExact r) (hphase : r.service.phase = .commands) {cmd : PayloadServiceCommand}
    {rest : Channel PayloadServiceCommand} (hrecv : r.service.commandRx.pollRecv = (.message cmd, rest))
    {newPayloadJob : BuildConfig → Except PayloadBuilderError Job} {reply : Reply Fut}
    (hreply : r.service.answer newPayloadJob cmd = some reply) :
    reply.Fits r.trace (r.trace ++ r.service.commandEvents newPayloadJob) cmd := by
  have hfound := find_isSome_iff h hphase
  cases cmd with
  | buildNewPayload config =>
    have hcontains : r.service.containsPayload config.attributes.id = true ↔
        config.attributes.id ∈ liveIds r.trace := by
      rw [← hfound, List.find?_isSome]
      simp [PayloadBuilderService.containsPayload]
    unfold PayloadBuilderService.answer at hreply
    unfold PayloadBuilderService.commandEvents
    rw [hrecv]
    by_cases hthere : r.service.containsPayload config.attributes.id = true
    · simp only [if_pos hthere] at hreply
      cases hreply
      exact ⟨rfl, .inl (hcontains.mp hthere)⟩
    · simp only [if_neg hthere] at hreply ⊢
      cases hnew : newPayloadJob config with
      | ok job =>
        rw [hnew] at hreply
        cases hreply
        exact ⟨rfl, .inr (List.prefix_refl _)⟩
      | error err =>
        rw [hnew] at hreply
        cases hreply
        exact fun halive => hthere (hcontains.mpr halive)
  | bestPayload id =>
    obtain ⟨best, hasked, rfl⟩ := Option.map_eq_some_iff.mp hreply
    exact asked_isSome_iff h hphase hasked
  | payloadAttributes id =>
    obtain ⟨attributes, hasked, rfl⟩ := Option.map_eq_some_iff.mp hreply
    exact asked_isSome_iff h hphase hasked
  | resolve id =>
    obtain ⟨fut, hasked, rfl⟩ := Option.map_eq_some_iff.mp hreply
    exact asked_isSome_iff h hphase hasked

end ServiceRun

/-! ## Every request -/

namespace HandleSystem

variable {sys : HandleSystem Job Fut}

/-- A request that was answered, by an answer that fits what the notes said then. -/
def AnsweredAt (sys : HandleSystem Job Fut) (i : Nat) (note : List JobNote) : Prop :=
  note <+: sys.service.trace ∧ ∃ cmd reply, sys.requests[i]? = some cmd ∧
    sys.replies[i]? = some (.sent reply) ∧ reply.Fits note sys.service.trace cmd

/-- As many requests are answered as there are notes, and the others wait in the channel
or were dropped with it. -/
structure Answering (sys : HandleSystem Job Fut) : Prop where
  exact : JobsExact sys.service
  length : sys.replies.length = sys.requests.length
  handled : sys.notes.length ≤ sys.requests.length
  answered : ∀ i note, sys.notes[i]? = some note → sys.AnsweredAt i note
  ordered : sys.notes.Pairwise (· <+: ·)
  waiting : sys.service.service.phase ≠ .panicked →
    sys.service.service.commandRx.queue = sys.requests.drop sys.notes.length ∧
    sys.senders = List.range' sys.notes.length (sys.requests.length - sys.notes.length) ∧
    ∀ i, sys.notes.length ≤ i → i < sys.requests.length → sys.replies[i]? = some .pending
  dropped : sys.service.service.phase = .panicked →
    ∀ i, sys.notes.length ≤ i → i < sys.requests.length → sys.replies[i]? = some .closed

namespace Answering

/-- The service does something that is not about the requests. -/
theorem keep (h : sys.Answering) {service : ServiceRun Job} (hexact : JobsExact service)
    (hbefore : sys.service.service.phase ≠ .panicked) (hafter : service.service.phase ≠ .panicked)
    (hqueue : service.service.commandRx.queue = sys.service.service.commandRx.queue)
    (htrace : sys.service.trace <+: service.trace) :
    Answering { sys with service := service } where
  exact := hexact
  length := h.length
  handled := h.handled
  answered i note hnote := by
    obtain ⟨hgrows, cmd, reply, hcmd, hreply, hfits⟩ := h.answered i note hnote
    exact ⟨hgrows.trans htrace, cmd, reply, hcmd, hreply, hfits.mono htrace⟩
  ordered := h.ordered
  waiting _ := by
    obtain ⟨hwaits, hsenders, hpending⟩ := h.waiting hbefore
    exact ⟨hqueue.trans hwaits, hsenders, hpending⟩
  dropped hpanicked := absurd hpanicked hafter

variable [PayloadJob Job]

/-- A handle sends a command. -/
theorem send (h : sys.Answering) (cmd : PayloadServiceCommand) : (sys.send cmd).Answering := by
  unfold HandleSystem.send
  split
  next => exact h
  next hphase =>
    have halive : sys.service.service.phase ≠ .panicked := hphase
    obtain ⟨hwaits, hsenders, hpending⟩ := h.waiting halive
    have hhandled := h.handled
    have hlength := h.length
    refine ⟨jobsExact_step sys.service (.send cmd) h.exact, ?_, ?_, fun i note hnote => ?_, h.ordered, fun _ => ⟨?_, ?_, ?_⟩,
      fun hpanicked => absurd hpanicked halive⟩
    · rw [List.length_append, List.length_append, h.length]
      rfl
    · rw [List.length_append]
      exact Nat.le_add_right_of_le h.handled
    · obtain ⟨hgrows, cmd', reply, hcmd, hreply, hfits⟩ := h.answered i note hnote
      refine ⟨hgrows, cmd', reply, ?_, ?_, hfits⟩
      · exact (List.getElem?_append_left (List.getElem?_eq_some_iff.mp hcmd).1).trans hcmd
      · exact (List.getElem?_append_left (List.getElem?_eq_some_iff.mp hreply).1).trans hreply
    · show sys.service.service.commandRx.queue ++ [cmd] = (sys.requests ++ [cmd]).drop sys.notes.length
      rw [hwaits, List.drop_append_of_le_length h.handled]
    · show sys.senders ++ [sys.replies.length] =
        List.range' sys.notes.length ((sys.requests ++ [cmd]).length - sys.notes.length)
      have hcount : (sys.requests ++ [cmd]).length - sys.notes.length =
          sys.requests.length - sys.notes.length + 1 := by
        rw [List.length_append, List.length_singleton]
        omega
      rw [hcount, List.range'_1_concat, hsenders, h.length]
      congr 2
      omega
    · intro i hge hlt
      rw [List.length_append, List.length_singleton] at hlt
      by_cases hlast : i < sys.replies.length
      · rw [List.getElem?_append_left hlast]
        exact hpending i hge (by omega)
      · obtain rfl : i = sys.replies.length := by omega
        exact List.getElem?_concat_length

omit [PayloadJob Job] in
/-- The request whose command is taken is the first that waits. -/
theorem first_waits (h : sys.Answering) (halive : sys.service.service.phase ≠ .panicked)
    {cmd : PayloadServiceCommand} {rest : Channel PayloadServiceCommand}
    (hrecv : sys.service.service.commandRx.pollRecv = (.message cmd, rest)) :
    sys.requests[sys.notes.length]? = some cmd ∧ rest.queue = sys.requests.drop (sys.notes.length + 1) ∧
    sys.notes.length < sys.requests.length := by
  have hqueue := Channel.pollRecv_message hrecv
  rw [(h.waiting halive).1] at hqueue
  refine ⟨?_, ?_, ?_⟩
  · rw [← List.head?_drop, hqueue]
    rfl
  · rw [← List.tail_drop, hqueue]
    rfl
  · by_contra hge
    rw [List.drop_eq_nil_of_le (by omega)] at hqueue
    cases hqueue

variable [HandsOut Job Fut]

/-- **A command is answered**, or the service panics and every request that waits is dropped. -/
theorem receive (h : sys.Answering) (hphase : sys.service.service.phase = .commands)
    {cmd : PayloadServiceCommand} {rest : Channel PayloadServiceCommand}
    (hrecv : sys.service.service.commandRx.pollRecv = (.message cmd, rest)) (poll : JobPoll Job)
    (newPayloadJob : BuildConfig → Except PayloadBuilderError Job) :
    (sys.receive newPayloadJob (sys.service.step (.turn poll newPayloadJob))).Answering := by
  have halive : sys.service.service.phase ≠ .panicked := by
    rw [hphase]
    exact fun hpanicked => by cases hpanicked
  obtain ⟨-, hsenders, hpending⟩ := h.waiting halive
  obtain ⟨hcmd, hrest, hlt⟩ := h.first_waits halive hrecv
  have hlength := h.length
  have hexact := jobsExact_step sys.service (.turn poll newPayloadJob) h.exact
  have hstep := ServiceRun.step_received hphase hrecv poll newPayloadJob
  have hgoes : PayloadBuilderService.GoesOn (sys.service.service.answer newPayloadJob cmd)
      (sys.service.step (.turn poll newPayloadJob)).service := by
    rw [hstep]
    exact PayloadBuilderService.onCommand_goesOn newPayloadJob
      (show { sys.service.service with commandRx := rest }.phase = .commands from hphase) cmd
  have htrace : (sys.service.step (.turn poll newPayloadJob)).trace =
      sys.service.trace ++ sys.service.service.commandEvents newPayloadJob := by rw [hstep]
  have hchannel : (sys.service.step (.turn poll newPayloadJob)).service.commandRx = rest := by
    rw [hstep]
    exact PayloadBuilderService.onCommand_commandRx newPayloadJob _ cmd
  have hfirst : sys.senders = sys.notes.length ::
      List.range' (sys.notes.length + 1) (sys.requests.length - (sys.notes.length + 1)) := by
    obtain ⟨count, hcount⟩ : ∃ count, sys.requests.length - sys.notes.length = count + 1 :=
      ⟨sys.requests.length - (sys.notes.length + 1), by omega⟩
    rw [hsenders, hcount, List.range'_succ]
    congr 2
    omega
  generalize sys.service.step (.turn poll newPayloadJob) = service at *
  unfold HandleSystem.receive
  rw [hrecv, hfirst]
  simp only
  split
  next reply hreply =>
    have hcommands : service.service.phase = .commands := by
      rcases hgoes with ⟨-, hcommands⟩ | ⟨hnone, -⟩
      · exact hcommands
      · rw [hreply] at hnone
        cases hnone
    have hgrows : sys.service.trace <+: service.trace := htrace ▸ List.prefix_append _ _
    -- the reply goes to the request that waited first
    have hsent : (sys.replies.modify sys.notes.length (·.send reply))[sys.notes.length]? =
        some (.sent reply) := by
      rw [List.getElem?_modify, hpending _ (Nat.le_refl _) hlt]
      simp [Oneshot.send]
    have hother : ∀ i, i ≠ sys.notes.length →
        (sys.replies.modify sys.notes.length (·.send reply))[i]? = sys.replies[i]? := by
      intro i hne
      rw [List.getElem?_modify]
      simp [Ne.symm hne]
    refine ⟨hexact, ?_, ?_, fun i note hnote => ?_, ?_, fun _ => ⟨?_, ?_, ?_⟩, fun hpanicked => ?_⟩
    · rw [List.length_modify]
      exact hlength
    · rw [List.length_append]
      exact hlt
    · by_cases hlast : i = sys.notes.length
      · rw [hlast, List.getElem?_concat_length] at hnote
        cases hnote
        refine ⟨hgrows, cmd, reply, ?_, ?_, ?_⟩
        · rw [hlast]
          exact hcmd
        · rw [hlast]
          exact hsent
        · show reply.Fits sys.service.trace service.trace cmd
          rw [htrace]
          exact ServiceRun.answer_fits h.exact hphase hrecv hreply
      · have hold : sys.notes[i]? = some note := by
          have hbound := (List.getElem?_eq_some_iff.mp hnote).1
          rw [List.length_append, List.length_singleton] at hbound
          rw [← hnote, List.getElem?_append_left (by omega)]
        obtain ⟨hbefore, cmd', reply', hcmd', hreply', hfits⟩ := h.answered i note hold
        exact ⟨hbefore.trans hgrows, cmd', reply', hcmd', (hother i hlast).trans hreply', hfits.mono hgrows⟩
    · refine List.pairwise_append.mpr ⟨h.ordered, List.pairwise_singleton _ _, fun note hnote later hlater => ?_⟩
      obtain ⟨i, hi⟩ := List.getElem?_of_mem hnote
      rw [List.mem_singleton.mp hlater]
      exact (h.answered i note hi).1
    · rw [hchannel, hrest, List.length_append]
      rfl
    · rw [List.length_append]
      rfl
    · intro i hge hi
      rw [List.length_append, List.length_singleton] at hge
      exact (hother i (by omega)).trans (hpending i (by omega) hi)
    · rw [hcommands] at hpanicked
      cases hpanicked
  next hnone =>
    have hpanicked : service.service.phase = .panicked := by
      rcases hgoes with ⟨hsome, -⟩ | ⟨-, hpanicked⟩
      · rw [hnone] at hsome
        cases hsome
      · exact hpanicked
    have hgrows : sys.service.trace <+: service.trace := htrace ▸ List.prefix_append _ _
    refine ⟨hexact, ?_, h.handled, fun i note hnote => ?_, h.ordered, fun halive' => absurd hpanicked halive',
      fun _ i hge hi => ?_⟩
    · rw [List.length_map]
      exact hlength
    · obtain ⟨hbefore, cmd', reply', hcmd', hreply', hfits⟩ := h.answered i note hnote
      refine ⟨hbefore.trans hgrows, cmd', reply', hcmd', ?_, hfits.mono hgrows⟩
      rw [List.getElem?_map, hreply']
      rfl
    · rw [List.getElem?_map, hpending i hge hi]
      rfl

omit [HandsOut Job Fut] in
/-- A turn in which no command is taken. -/
theorem turn (h : sys.Answering) (halive : sys.service.service.phase ≠ .panicked)
    (hnone : sys.service.service.phase = .commands →
      ∀ cmd rest, sys.service.service.commandRx.pollRecv ≠ (.message cmd, rest))
    (poll : JobPoll Job) (newPayloadJob : BuildConfig → Except PayloadBuilderError Job) :
    Answering { sys with service := sys.service.step (.turn poll newPayloadJob) } := by
  obtain ⟨hafter, hchannel, htrace⟩ := ServiceRun.quiet_turn h.exact halive hnone poll newPayloadJob
  exact h.keep (jobsExact_step sys.service (.turn poll newPayloadJob) h.exact) halive hafter
    (congrArg _ hchannel) htrace

/-- **Every event keeps it.** -/
theorem step (h : sys.Answering) (event : ServiceEvent Job) : (sys.step event).Answering := by
  cases event with
  | send cmd => exact h.send cmd
  | turn poll newPayloadJob =>
    unfold HandleSystem.step
    simp only
    split
    next hphase =>
      have halive : sys.service.service.phase ≠ .panicked := by
        rw [hphase]
        exact fun hpanicked => by cases hpanicked
      by_cases hmessage : ∃ cmd rest, sys.service.service.commandRx.pollRecv = (.message cmd, rest)
      · obtain ⟨cmd, rest, hrecv⟩ := hmessage
        exact h.receive hphase hrecv poll newPayloadJob
      · have hsame : sys.receive newPayloadJob (sys.service.step (.turn poll newPayloadJob)) =
            { sys with service := sys.service.step (.turn poll newPayloadJob) } := by
          unfold HandleSystem.receive
          split
          next cmd _ _ hrecv _ => exact absurd ⟨cmd, _, Prod.ext hrecv rfl⟩ hmessage
          next => rfl
        rw [hsame]
        exact h.turn halive (fun _ cmd rest hrecv => hmessage ⟨cmd, rest, hrecv⟩) poll newPayloadJob
    next hother =>
      by_cases halive : sys.service.service.phase = .panicked
      · have hsame : sys.service.step (.turn poll newPayloadJob) = sys.service := by
          unfold ServiceRun.step
          rw [halive]
        rw [hsame]
        exact h
      · exact h.turn halive (fun hphase => absurd hphase hother) poll newPayloadJob

end Answering

theorem answering_new : (new : HandleSystem Job Fut).Answering where
  exact := jobsExact_new
  length := rfl
  handled := Nat.le_refl _
  answered i note hnote := by cases hnote
  ordered := .nil
  waiting _ := ⟨rfl, rfl, fun i _ hlt => absurd hlt (Nat.not_lt_zero i)⟩
  dropped _ i _ hlt := absurd hlt (Nat.not_lt_zero i)

variable [PayloadJob Job] [HandsOut Job Fut]

theorem answering_run (events : List (ServiceEvent Job)) :
    (run step (new : HandleSystem Job Fut) events).Answering :=
  run_invariant (fun _ event h => h.step event) events answering_new

/-- **Requests are answered in order.** In every run the requests that were answered are
the first ones, as many as there are notes, which succeed each other; the answer of each
fits its command and what the notes said of the jobs when it was given. The others have
no answer yet, and never will have one if a job has panicked. -/
theorem answered_in_order (events : List (ServiceEvent Job)) :
    let sys := run step (new : HandleSystem Job Fut) events
    sys.notes.length ≤ sys.requests.length ∧ sys.notes.Pairwise (· <+: ·) ∧
    (∀ i note, sys.notes[i]? = some note → sys.AnsweredAt i note) ∧
    ∀ i, sys.notes.length ≤ i → i < sys.requests.length →
      sys.replies[i]? = some .pending ∧ sys.service.service.phase ≠ .panicked ∨
      sys.replies[i]? = some .closed ∧ sys.service.service.phase = .panicked := by
  intro sys
  have h : sys.Answering := answering_run events
  refine ⟨h.handled, h.ordered, h.answered, fun i hge hlt => ?_⟩
  by_cases hpanicked : sys.service.service.phase = .panicked
  · exact .inr ⟨h.dropped hpanicked i hge hlt, hpanicked⟩
  · exact .inl ⟨(h.waiting hpanicked).2.2 i hge hlt, hpanicked⟩

/-! ## How long a request waits -/

/-- A job type that implements what it is asked for. -/
structure Implemented (Job : Type) [PayloadJob Job] : Prop where
  bestPayload : ∀ job : Job, (PayloadJob.bestPayload job).isSome
  payloadAttributes : ∀ job : Job, (PayloadJob.payloadAttributes job).isSome
  resolve : ∀ job : Job, (PayloadJob.resolve job).isSome

/-- The turns up to the commands. -/
def turnsToCommands (service : PayloadBuilderService Job) : Nat :=
  match service.phase with
  | .jobs idx => 2 * idx + 1
  | .polling idx _ _ => 2 * idx + 2
  | .commands | .panicked => 0

/-- The turns up to the answer of a request. -/
def turnsLeft (sys : HandleSystem Job Fut) (i : Nat) : Nat :=
  turnsToCommands sys.service.service + (i + 1 - sys.notes.length)

/-- The turns of the service among the events. -/
def turns (events : List (ServiceEvent Job)) : Nat :=
  (events.filter fun event => match event with
    | .turn _ _ => true
    | .send _ => false).length

/-- Every job that is asked has an answer. -/
theorem answer_isSome (h : Implemented Job) (newPayloadJob : BuildConfig → Except PayloadBuilderError Job)
    (service : PayloadBuilderService Job) (cmd : PayloadServiceCommand) :
    (service.answer newPayloadJob cmd).isSome := by
  have hasked : ∀ {α : Type} (id : PayloadId) (method : Job → Option α),
      (∀ job, (method job).isSome) → (service.asked id method).isSome := by
    intro α id method hmethod
    unfold PayloadBuilderService.asked
    split
    next job _ _ =>
      rw [Option.isSome_map]
      exact hmethod job
    next => rfl
  cases cmd with
  | buildNewPayload config =>
    unfold PayloadBuilderService.answer
    simp only
    split
    next => rfl
    next =>
      split
      next => rfl
      next => rfl
  | bestPayload id =>
    simp only [PayloadBuilderService.answer, Option.isSome_map]
    exact hasked id _ h.bestPayload
  | payloadAttributes id =>
    simp only [PayloadBuilderService.answer, Option.isSome_map]
    exact hasked id _ h.payloadAttributes
  | resolve id =>
    simp only [PayloadBuilderService.answer, Option.isSome_map]
    refine hasked id _ fun job => ?_
    rw [Option.isSome_map]
    exact h.resolve job

/-- The service goes on after a command that is answered. -/
theorem received_commands (himpl : Implemented Job) {r : ServiceRun Job}
    (hphase : r.service.phase = .commands) {cmd : PayloadServiceCommand}
    {rest : Channel PayloadServiceCommand} (hrecv : r.service.commandRx.pollRecv = (.message cmd, rest))
    (poll : JobPoll Job) (newPayloadJob : BuildConfig → Except PayloadBuilderError Job) :
    (r.step (.turn poll newPayloadJob)).service.phase = .commands := by
  -- the future that a job hands out has no part in this
  let _ : HandsOut Job Unit := ⟨fun _ => ()⟩
  have hanswer := answer_isSome himpl newPayloadJob { r.service with commandRx := rest } cmd
  rw [ServiceRun.step_received hphase hrecv poll newPayloadJob]
  rcases PayloadBuilderService.onCommand_goesOn newPayloadJob
    (show { r.service with commandRx := rest }.phase = .commands from hphase) cmd with
    ⟨-, hcommands⟩ | ⟨hnone, -⟩
  · exact hcommands
  · rw [hnone] at hanswer
    cases hanswer

/-- A service whose jobs implement what they are asked for does not panic. -/
theorem alive_turn (himpl : Implemented Job) {r : ServiceRun Job} (h : JobsExact r)
    (halive : r.service.phase ≠ .panicked) (poll : JobPoll Job)
    (newPayloadJob : BuildConfig → Except PayloadBuilderError Job) :
    (r.step (.turn poll newPayloadJob)).service.phase ≠ .panicked := by
  by_cases hmessage : r.service.phase = .commands ∧
      ∃ cmd rest, r.service.commandRx.pollRecv = (.message cmd, rest)
  · obtain ⟨hphase, cmd, rest, hrecv⟩ := hmessage
    rw [received_commands himpl hphase hrecv poll newPayloadJob]
    exact fun hpanicked => by cases hpanicked
  · refine (ServiceRun.quiet_turn h halive (fun hphase cmd rest hrecv => ?_) poll newPayloadJob).1
    exact hmessage ⟨hphase, cmd, rest, hrecv⟩

omit [PayloadJob Job] [HandsOut Job Fut] in
/-- A turn of the loop over the jobs. -/
theorem turnsToCommands_turn [PayloadJob Job] {r : ServiceRun Job} (h : JobsExact r)
    (halive : r.service.phase ≠ .panicked) (hphase : r.service.phase ≠ .commands) (poll : JobPoll Job)
    (newPayloadJob : BuildConfig → Except PayloadBuilderError Job) :
    turnsToCommands (r.step (.turn poll newPayloadJob)).service < turnsToCommands r.service := by
  unfold ServiceRun.step
  simp only
  cases hat : r.service.phase with
  | jobs idx =>
    obtain ⟨-, htaken⟩ := h.takeJob hat
    unfold turnsToCommands
    rw [hat]
    unfold PayloadBuilderService.takeJob at htaken ⊢
    cases idx with
    | zero => exact Nat.zero_lt_one
    | succ idx =>
      simp only at htaken ⊢
      split at htaken
      next =>
        show 2 * idx + 2 < 2 * (idx + 1) + 1
        omega
      next => exact absurd rfl htaken
  | polling idx job id =>
    have hback : (r.service.putBack idx id poll).phase = .jobs idx := by
      cases poll with
      | ready result => rfl
      | pending job' => rfl
    show turnsToCommands (r.service.putBack idx id poll) < _
    unfold turnsToCommands
    rw [hback, hat]
    show 2 * idx + 1 < 2 * idx + 2
    omega
  | commands => exact absurd hat hphase
  | panicked => exact absurd hat halive

/-- What the service does in a turn does not depend on the requests. -/
theorem service_turn (sys : HandleSystem Job Fut) (poll : JobPoll Job)
    (newPayloadJob : BuildConfig → Except PayloadBuilderError Job) :
    (sys.step (.turn poll newPayloadJob)).service = sys.service.step (.turn poll newPayloadJob) := by
  unfold HandleSystem.step
  simp only
  split
  next =>
    unfold HandleSystem.receive
    split
    next =>
      split
      next => rfl
      next => rfl
    next => rfl
  next => rfl

/-- **Every turn brings an answer nearer.** -/
theorem turnsLeft_turn (h : sys.Answering) (himpl : Implemented Job)
    (halive : sys.service.service.phase ≠ .panicked) {i : Nat} (hwaits : sys.notes.length ≤ i)
    (hi : i < sys.requests.length) (poll : JobPoll Job)
    (newPayloadJob : BuildConfig → Except PayloadBuilderError Job) :
    turnsLeft (sys.step (.turn poll newPayloadJob)) i < turnsLeft sys i := by
  unfold HandleSystem.step
  simp only
  split
  next hphase =>
    -- the channel is not empty, as the request is in it
    obtain ⟨cmd, rest, hrecv⟩ : ∃ cmd rest, sys.service.service.commandRx.pollRecv = (.message cmd, rest) := by
      have hqueue := (h.waiting halive).1
      unfold Channel.pollRecv
      rw [hqueue, List.drop_eq_getElem_cons (by omega)]
      exact ⟨_, _, rfl⟩
    obtain ⟨reply, hreply⟩ := Option.isSome_iff_exists.mp
      (answer_isSome himpl newPayloadJob sys.service.service cmd)
    obtain ⟨sender, senders, hsenders⟩ : ∃ sender senders, sys.senders = sender :: senders := by
      obtain ⟨count, hcount⟩ : ∃ count, sys.requests.length - sys.notes.length = count + 1 :=
        ⟨sys.requests.length - (sys.notes.length + 1), by omega⟩
      rw [(h.waiting halive).2.1, hcount, List.range'_succ]
      exact ⟨_, _, rfl⟩
    unfold HandleSystem.receive
    rw [hrecv, hsenders]
    simp only [hreply]
    unfold turnsLeft turnsToCommands
    simp only [received_commands himpl hphase hrecv poll newPayloadJob, hphase, List.length_append,
      List.length_singleton]
    omega
  next hother =>
    unfold turnsLeft
    exact Nat.add_lt_add_right (turnsToCommands_turn h.exact halive hother poll newPayloadJob) _

omit [HandsOut Job Fut] in
/-- A send makes no request wait longer. -/
theorem turnsLeft_send (halive : sys.service.service.phase ≠ .panicked) (cmd : PayloadServiceCommand)
    (i : Nat) :
    (sys.send cmd).service.service.phase ≠ .panicked ∧ turnsLeft (sys.send cmd) i = turnsLeft sys i := by
  unfold HandleSystem.send
  split
  next hpanicked => exact absurd hpanicked halive
  next => exact ⟨halive, rfl⟩

theorem alive_step (h : sys.Answering) (himpl : Implemented Job)
    (halive : sys.service.service.phase ≠ .panicked) (event : ServiceEvent Job) :
    (sys.step event).service.service.phase ≠ .panicked := by
  cases event with
  | send cmd => exact (turnsLeft_send halive cmd 0).1
  | turn poll newPayloadJob =>
    rw [sys.service_turn poll newPayloadJob]
    exact alive_turn himpl h.exact halive poll newPayloadJob

/-- Requests and answers only come. -/
theorem step_grows (sys : HandleSystem Job Fut) (event : ServiceEvent Job) :
    sys.notes.length ≤ (sys.step event).notes.length ∧
    sys.requests.length ≤ (sys.step event).requests.length := by
  cases event with
  | send cmd =>
    simp only [step]
    unfold HandleSystem.send
    split
    next => exact ⟨Nat.le_refl _, Nat.le_refl _⟩
    next =>
      rw [List.length_append]
      exact ⟨Nat.le_refl _, Nat.le_add_right _ _⟩
  | turn poll newPayloadJob =>
    unfold HandleSystem.step
    simp only
    split
    next =>
      unfold HandleSystem.receive
      split
      next =>
        split
        next =>
          rw [List.length_append]
          exact ⟨Nat.le_add_right _ _, Nat.le_refl _⟩
        next => exact ⟨Nat.le_refl _, Nat.le_refl _⟩
      next => exact ⟨Nat.le_refl _, Nat.le_refl _⟩
    next => exact ⟨Nat.le_refl _, Nat.le_refl _⟩

/-- As many turns as are left bring the answer. -/
theorem answered_from (himpl : Implemented Job) (i : Nat) : ∀ (events : List (ServiceEvent Job))
    {sys : HandleSystem Job Fut}, sys.Answering → sys.service.service.phase ≠ .panicked →
    i < sys.requests.length → turnsLeft sys i ≤ turns events →
    i < (run step sys events).notes.length := by
  intro events
  induction events with
  | nil =>
    intro sys _ _ _ hturns
    unfold turnsLeft at hturns
    replace hturns : _ ≤ 0 := hturns
    show i < sys.notes.length
    omega
  | cons event events ih =>
    intro sys h halive hi hturns
    obtain ⟨hnotes, hrequests⟩ := sys.step_grows event
    have hnext : turnsLeft (sys.step event) i ≤ turns events → i < (run step (sys.step event) events).notes.length :=
      ih (h.step event) (alive_step h himpl halive event) (Nat.lt_of_lt_of_le hi hrequests)
    rw [Lib.run_cons]
    cases event with
    | send cmd => exact hnext ((turnsLeft_send halive cmd i).2 ▸ hturns)
    | turn poll newPayloadJob =>
      replace hturns : turnsLeft sys i ≤ turns events + 1 := hturns
      by_cases hwaits : sys.notes.length ≤ i
      · have hless := turnsLeft_turn h himpl halive hwaits hi poll newPayloadJob
        exact hnext (by omega)
      · -- it is answered already
        have hkept : i < (run step (sys.step (.turn poll newPayloadJob)) events).notes.length :=
          run_invariant (I := fun later : HandleSystem Job Fut => i < later.notes.length)
            (fun later event hlt => Nat.lt_of_lt_of_le hlt (later.step_grows event).1) events
            (Nat.lt_of_lt_of_le (Nat.lt_of_not_le hwaits) hnotes)
        exact hkept

omit [PayloadJob Job] [HandsOut Job Fut] in
/-- The loop over the jobs has two turns for each of them and one more. -/
theorem turnsToCommands_le {r : ServiceRun Job} (h : JobsExact r) :
    turnsToCommands r.service ≤ 2 * r.service.heldIds.length + 1 := by
  have hpass := h.pass
  unfold PassAt at hpass
  unfold turnsToCommands PayloadBuilderService.heldIds
  cases hphase : r.service.phase with
  | jobs idx =>
    rw [hphase] at hpass
    have hbound := hpass.bound
    simp only [List.append_nil, List.length_map]
    omega
  | polling idx job id =>
    rw [hphase] at hpass
    have hbound := hpass.1.bound
    simp only [List.length_append, List.length_map, List.length_singleton]
    omega
  | commands => exact Nat.zero_le _
  | panicked => exact Nat.zero_le _

theorem alive_run (himpl : Implemented Job) (events : List (ServiceEvent Job)) :
    (run step (new : HandleSystem Job Fut) events).service.service.phase ≠ .panicked := by
  induction events using List.reverseRecOn with
  | nil => exact fun hpanicked => by cases hpanicked
  | append_singleton events event ih =>
    rw [run_concat]
    exact alive_step (answering_run events) himpl ih event

/-- **No request waits for long.** Let the jobs implement what they are asked for. However
the requests and the turns of the service interleave, a request is answered once the service
has had two turns for each job that there was when the request was sent, one turn for each
command before it, and two more. -/
theorem answered_within (himpl : Implemented Job) (before after : List (ServiceEvent Job)) (i : Nat) :
    let sys := run step (new : HandleSystem Job Fut) before
    i < sys.requests.length →
    2 * sys.service.service.heldIds.length + (i - sys.notes.length) + 2 ≤ turns after →
    let sys' := run step sys after
    ∃ note, sys'.notes[i]? = some note ∧ sys'.AnsweredAt i note := by
  intro sys hi hturns sys'
  have h : sys.Answering := answering_run before
  have hpass := turnsToCommands_le h.exact
  have hdone : i < sys'.notes.length := by
    refine answered_from himpl i after h (alive_run himpl before) hi ?_
    unfold turnsLeft
    omega
  have hnote : sys'.notes[i]? = some sys'.notes[i] := List.getElem?_eq_getElem hdone
  have h' : sys'.Answering := run_invariant (fun _ event h => h.step event) after h
  exact ⟨sys'.notes[i], hnote, h'.answered i _ hnote⟩

/-- An interval job implements what it is asked for. -/
theorem interval_implemented (R : Reth) (strat : EmptyStrat) (inputs : BuildInputs) :
    @Implemented IntervalBuildJob (intervalPayloadJob R strat inputs) :=
  @Implemented.mk _ (intervalPayloadJob R strat inputs) (fun _ => rfl) (fun _ => rfl) (fun _ => rfl)

/-- A job is asked for and resolved at once, and the second answer takes three turns. -/
theorem answered_within_interval :
    let inputs := BuildInputs.mk transferClient (transferPool []) .new true 0
    let _ := intervalPayloadJob transferChain ⟨transferConfig⟩ inputs
    let _ := intervalHandsOut transferChain inputs
    let config := (transferArguments (transferProposer 5 30000000) 4 [] []).buildConfig
    let turn : ServiceEvent IntervalBuildJob := .turn (.ready (.ok ())) fun config => .ok
      ⟨config, 12000, .new 0 1000 (by decide), none, none, .bundlesStrat ⟨transferConfig⟩⟩
    let sys := run step (new : HandleSystem IntervalBuildJob ResolveBestPayload)
      [.send (.buildNewPayload config), .send (.resolve config.attributes.id)]
    let sys' := run step sys [turn, turn, turn]
    ∃ note, sys'.notes[1]? = some note ∧ sys'.AnsweredAt 1 note := by
  intro inputs _ _ config turn sys
  exact answered_within (interval_implemented transferChain ⟨transferConfig⟩ inputs)
    [.send (.buildNewPayload config), .send (.resolve config.attributes.id)] [turn, turn, turn] 1
    (by decide) (by decide)

end HandleSystem

end BlockBuilder
