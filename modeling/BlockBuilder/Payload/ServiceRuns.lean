import BlockBuilder.Lib.Run
import BlockBuilder.Payload.Service
import Mathlib.Data.List.Perm.Basic

/-!
# No job is lost, duplicated or skipped (`crates/payload/src/service/mod.rs`)

A pass of the service walks the places of its jobs downwards. Taking the job in
a place moves the last job there, and a job that is still pending goes to the
end. So at every moment of a pass the places before the current one hold what
they held at its start, untouched and still to be polled, and the places from
there on hold the pending jobs among those already polled, in some order.
`InPass` is that statement, which no line of the source makes.

`ServiceRun` puts beside the service what an observer would write down: which
jobs were created and which have ended, and, for the pass under way, the jobs at
its start and the polls made since. `jobs_exact` reads the service off these
notes, for any jobs, any results of their polls and any commands.
-/

namespace BlockBuilder

open Lib (Channel run run_invariant)

/-! ## Taking a job out -/

/-- Taking the element in a place leaves the places before it alone; behind it the others
stay, in some order. -/
theorem swapRemove_spec {α : Type} {l : List α} {idx : Nat} (h : idx < l.length) :
    ∃ a rest, swapRemove l idx = some (a, rest) ∧ l[idx]? = some a ∧ l.Perm (a :: rest) ∧
      idx ≤ rest.length ∧ rest.take idx = l.take idx ∧
      (rest.drop idx).Perm (l.drop (idx + 1)) := by
  obtain ⟨pre, a, post, rfl, rfl⟩ : ∃ pre a post, l = pre ++ a :: post ∧ pre.length = idx :=
    ⟨l.take idx, l[idx], l.drop (idx + 1), by simp, by simp; omega⟩
  have ha : (pre ++ a :: post)[pre.length]? = some a := by simp
  rcases List.eq_nil_or_concat post with rfl | ⟨post', last, hpost⟩
  · -- the last place: nothing moves
    refine ⟨a, pre, ?_, ha, List.perm_append_singleton a pre, Nat.le_refl _, by simp, by simp⟩
    unfold swapRemove
    rw [ha]
    simp
  · rw [List.concat_eq_append] at hpost
    have hlast : (pre ++ a :: post).getLast? = some last := by
      rw [hpost, ← List.cons_append, ← List.append_assoc, List.getLast?_concat]
    have hset : (pre ++ a :: post).set pre.length last = (pre ++ last :: post') ++ [last] := by
      simp [hpost]
    have hmoved : (last :: post').Perm post := by
      rw [hpost]
      exact (List.perm_append_singleton last post').symm
    refine ⟨a, pre ++ last :: post', ?_, ha, ?_, by simp, by simp, by simpa using hmoved⟩
    · unfold swapRemove
      rw [ha, hlast]
      show some (a, List.dropLast _) = _
      rw [hset, List.dropLast_concat]
    · exact List.perm_middle.trans (.cons a (.append_left pre hmoved.symm))

/-! ## Runs -/

/-- What an observer notes of a job. -/
inductive JobNote where
  | created (id : PayloadId)
  | finished (id : PayloadId)
  | failed (id : PayloadId)
  /-- Resolved with `KeepPayloadJobAlive::No`. -/
  | resolved (id : PayloadId)
  deriving DecidableEq, Repr

/-- The jobs that are alive after an event. -/
def JobNote.apply (live : List PayloadId) : JobNote → List PayloadId
  | .created id => live ++ [id]
  | .finished id | .failed id | .resolved id => live.erase id

/-- The jobs that were created and have not ended. -/
def liveIds (trace : List JobNote) : List PayloadId := trace.foldl JobNote.apply []

theorem liveIds_concat (trace : List JobNote) (e : JobNote) :
    liveIds (trace ++ [e]) = e.apply (liveIds trace) := by
  simp [liveIds]

/-- What happens to the service: a handle sends a command, or the service runs up to the
next place where it takes a job, has polled it, or receives a command. -/
inductive ServiceEvent (Job : Type) where
  | send (cmd : PayloadServiceCommand)
  | turn (poll : JobPoll Job) (newPayloadJob : BuildConfig → Except PayloadBuilderError Job)

/-- The service and the observer's notes. -/
structure ServiceRun (Job : Type) where
  service : PayloadBuilderService Job
  trace : List JobNote
  /-- The jobs at the start of the pass. -/
  start : List (Job × PayloadId)
  /-- The jobs polled since, each with what its poll came to. -/
  polls : List ((Job × PayloadId) × JobPoll Job)

variable {Job : Type}

/-- What the poll of a job says of it. -/
def JobPoll.events (id : PayloadId) : JobPoll Job → List JobNote
  | .ready (.ok _) => [.finished id]
  | .ready (.error _) => [.failed id]
  | .pending _ => []

/-- The polls that found their job pending, with the job as they left it. -/
def stillPending (polls : List ((Job × PayloadId) × JobPoll Job)) : List (Job × PayloadId) :=
  polls.filterMap fun p =>
    match p.2 with
    | .ready _ => none
    | .pending job => some (job, p.1.2)

namespace PayloadBuilderService

/-- The jobs of the service, the one being polled among them. -/
def heldIds (service : PayloadBuilderService Job) : List PayloadId :=
  service.payloadJobs.map (·.2) ++
    match service.phase with
    | .polling _ _ id => [id]
    | _ => []

/-- What a command that is received says of the jobs. -/
def commandEvents [PayloadJob Job] (newPayloadJob : BuildConfig → Except PayloadBuilderError Job)
    (service : PayloadBuilderService Job) : List JobNote :=
  match service.commandRx.pollRecv.1 with
  | .message (.buildNewPayload config) =>
    if service.containsPayload config.attributes.id then []
    else
      match newPayloadJob config with
      | .ok _ => [.created config.attributes.id]
      | .error _ => []
  | .message (.resolve id) =>
    match (service.payloadJobs.find? fun job => job.2 = id).bind fun job =>
        PayloadJob.resolve job.1 with
    | some (_, .no) => [.resolved id]
    | _ => []
  | _ => []

end PayloadBuilderService

namespace ServiceRun

def new : ServiceRun Job := ⟨.new, [], [], []⟩

def step [PayloadJob Job] (r : ServiceRun Job) : ServiceEvent Job → ServiceRun Job
  | .send cmd => { r with service.commandRx := r.service.commandRx.send cmd }
  | .turn poll newPayloadJob =>
    match r.service.phase with
    | .jobs idx => { r with service := r.service.takeJob idx }
    | .polling idx job id =>
      { r with
        service := r.service.putBack idx id poll
        trace := r.trace ++ poll.events id
        polls := r.polls ++ [((job, id), poll)] }
    | .commands =>
      let service := r.service.receive newPayloadJob
      let r' := { r with
        service := service
        trace := r.trace ++ r.service.commandEvents newPayloadJob }
      match service.phase with
      | .jobs _ => { r' with start := service.payloadJobs, polls := [] }
      | _ => r'
    | .panicked => r

end ServiceRun

/-! ## The invariant -/

/-- In a pass, with the first `idx` places still to be taken and the jobs from `upTo` on
polled: the places before are as they were, the places behind hold what is pending. -/
structure InPass (idx upTo : Nat) (r : ServiceRun Job) : Prop where
  bound : idx ≤ r.service.payloadJobs.length
  bound_start : idx ≤ r.start.length
  ahead : r.service.payloadJobs.take idx = r.start.take idx
  behind : (r.service.payloadJobs.drop idx).Perm (stillPending r.polls)
  polled : r.polls.map (·.1) = (r.start.drop upTo).reverse

/-- Where the pass is, by the phase of the service. -/
def PassAt (r : ServiceRun Job) : Prop :=
  match r.service.phase with
  | .jobs idx => InPass idx idx r
  | .polling idx job id => InPass idx (idx + 1) r ∧ r.start[idx]? = some (job, id)
  | .commands | .panicked => True

/-- The jobs held are the jobs alive, each once, and the pass is where it should be. -/
structure JobsExact (r : ServiceRun Job) : Prop where
  nodup : r.service.heldIds.Nodup
  live : r.service.heldIds.Perm (liveIds r.trace)
  start : (r.start.map (·.2)).Nodup
  pass : PassAt r

theorem jobsExact_new : JobsExact (ServiceRun.new : ServiceRun Job) where
  nodup := .nil
  live := .nil
  start := .nil
  pass := ⟨Nat.le_refl _, Nat.le_refl _, rfl, .nil, rfl⟩

/-! ## One turn of the loop over the jobs -/

open PayloadBuilderService

/-- The head of the loop takes out a job of the service, in the place it is at. -/
theorem takeJob_spec {r : ServiceRun Job} {idx : Nat} (hpass : InPass (idx + 1) (idx + 1) r) :
    ∃ job id rest, r.service.takeJob (idx + 1) =
        { r.service with payloadJobs := rest, phase := .polling idx job id } ∧
      r.service.payloadJobs.Perm ((job, id) :: rest) ∧
      InPass idx (idx + 1) { r with service := r.service.takeJob (idx + 1) } ∧
      r.start[idx]? = some (job, id) := by
  obtain ⟨⟨job, id⟩, rest, htaken, hat, hperm, hlen, htake, hdrop⟩ := swapRemove_spec hpass.bound
  have hservice : r.service.takeJob (idx + 1) =
      { r.service with payloadJobs := rest, phase := .polling idx job id } := by
    unfold takeJob
    simp only [htaken]
  have hstart := hpass.bound_start
  have hahead := congrArg (List.take idx) hpass.ahead
  rw [List.take_take, List.take_take, Nat.min_eq_left (by omega), ← htake] at hahead
  -- this place, like those before it, is as it was at the start
  have hsame : r.start[idx]? = some (job, id) := by
    have hget := congrArg (·[idx]?) hpass.ahead
    simp only [List.getElem?_take, Nat.lt_succ_self, if_true, hat] at hget
    exact hget.symm
  refine ⟨job, id, rest, hservice, hperm, ?_, hsame⟩
  rw [hservice]
  exact ⟨hlen, Nat.le_of_succ_le hstart, hahead, hdrop.trans hpass.behind, hpass.polled⟩

theorem heldIds_idle {service : PayloadBuilderService Job}
    (h : ∀ idx job id, service.phase ≠ .polling idx job id) :
    service.heldIds = service.payloadJobs.map (·.2) := by
  unfold heldIds
  split
  next idx job id hphase => exact absurd hphase (h idx job id)
  next => exact List.append_nil _

theorem heldIds_polling {service : PayloadBuilderService Job} {idx : Nat} {job : Job}
    {id : PayloadId} (h : service.phase = .polling idx job id) :
    service.heldIds = service.payloadJobs.map (·.2) ++ [id] := by
  unfold heldIds
  rw [h]

/-- A step that moves the jobs held around, and ends none. -/
theorem JobsExact.of_perm {r r' : ServiceRun Job} (h : JobsExact r)
    (hheld : r'.service.heldIds.Perm r.service.heldIds) (htrace : r'.trace = r.trace)
    (hstart : (r'.start.map (·.2)).Nodup) (hpass : PassAt r') : JobsExact r' where
  nodup := hheld.nodup_iff.mpr h.nodup
  live := by
    rw [htrace]
    exact hheld.trans h.live
  start := hstart
  pass := hpass

/-- A step that ends one of the jobs held. -/
theorem JobsExact.of_ended {r r' : ServiceRun Job} (h : JobsExact r) {id : PayloadId}
    (hheld : r.service.heldIds.Perm (id :: r'.service.heldIds)) {e : JobNote}
    (he : ∀ live, e.apply live = live.erase id) (htrace : r'.trace = r.trace ++ [e])
    (hstart : (r'.start.map (·.2)).Nodup) (hpass : PassAt r') : JobsExact r' where
  nodup := (hheld.nodup_iff.mp h.nodup).of_cons
  live := by
    rw [htrace, liveIds_concat, he]
    have herase := (hheld.symm.trans h.live).erase id
    rwa [List.erase_cons_head] at herase
  start := hstart
  pass := hpass

/-- **Taking a job keeps the invariant**, and there is one to take. -/
theorem JobsExact.takeJob {r : ServiceRun Job} (h : JobsExact r) {idx : Nat}
    (hphase : r.service.phase = .jobs idx) :
    JobsExact { r with service := r.service.takeJob idx } ∧
      (r.service.takeJob idx).phase ≠ .panicked := by
  have hpass : InPass idx idx r := by
    have hat := h.pass
    unfold PassAt at hat
    rw [hphase] at hat
    exact hat
  have hheld : r.service.heldIds = r.service.payloadJobs.map (·.2) := by
    refine heldIds_idle fun idx' job id hpolling => ?_
    rw [hphase] at hpolling
    cases hpolling
  cases idx with
  | zero =>
    refine ⟨h.of_perm ?_ rfl h.start trivial, by simp [PayloadBuilderService.takeJob]⟩
    rw [hheld]
    exact .of_eq (heldIds_idle (fun idx job id hpolling => by cases hpolling))
  | succ idx =>
    obtain ⟨job, id, rest, hservice, hperm, hpass', hat⟩ := takeJob_spec hpass
    rw [hservice] at hpass' ⊢
    refine ⟨h.of_perm ?_ rfl h.start ⟨hpass', hat⟩, by simp⟩
    rw [hheld]
    exact (List.perm_append_singleton id _).trans (hperm.map Prod.snd).symm

/-- **Putting a job back, or leaving it out, keeps the invariant.** -/
theorem JobsExact.putBack {r : ServiceRun Job} (h : JobsExact r) {idx : Nat} {job : Job}
    {id : PayloadId} (hphase : r.service.phase = .polling idx job id) (poll : JobPoll Job) :
    JobsExact
      { r with
        service := r.service.putBack idx id poll
        trace := r.trace ++ poll.events id
        polls := r.polls ++ [((job, id), poll)] } := by
  obtain ⟨hpass, hat⟩ : InPass idx (idx + 1) r ∧ r.start[idx]? = some (job, id) := by
    have hwhere := h.pass
    unfold PassAt at hwhere
    rw [hphase] at hwhere
    exact hwhere
  have hheld := heldIds_polling hphase
  have hpolled : (r.polls ++ [((job, id), poll)]).map (·.1) = (r.start.drop idx).reverse := by
    obtain ⟨hlt, hget⟩ := List.getElem?_eq_some_iff.mp hat
    rw [List.map_append, hpass.polled, List.drop_eq_getElem_cons hlt, hget, List.reverse_cons]
    rfl
  cases poll with
  | ready result =>
    have hpending : stillPending (r.polls ++ [((job, id), .ready result)]) =
        stillPending r.polls := by
      simp [stillPending]
    have hpass' : InPass idx idx
        { r with
          service := r.service.putBack idx id (.ready result)
          trace := r.trace ++ (JobPoll.ready result : JobPoll Job).events id
          polls := r.polls ++ [((job, id), .ready result)] } :=
      ⟨hpass.bound, hpass.bound_start, hpass.ahead, by rw [hpending]; exact hpass.behind, hpolled⟩
    have hleft : r.service.heldIds.Perm (id :: (r.service.putBack idx id (.ready result)).heldIds) := by
      rw [hheld, heldIds_idle (fun idx job id hpolling => by cases hpolling)]
      exact List.perm_append_singleton id _
    cases result with
    | ok _ => exact h.of_ended hleft (fun _ => rfl) rfl h.start hpass'
    | error _ => exact h.of_ended hleft (fun _ => rfl) rfl h.start hpass'
  | pending job' =>
    refine h.of_perm ?_ (List.append_nil _) h.start ⟨?_, hpass.bound_start, ?_, ?_, hpolled⟩
    · rw [hheld, heldIds_idle (fun idx job id hpolling => by cases hpolling)]
      exact .of_eq List.map_append
    · show idx ≤ (r.service.payloadJobs ++ [(job', id)]).length
      rw [List.length_append]
      have := hpass.bound
      omega
    · show (r.service.payloadJobs ++ [(job', id)]).take idx = _
      rw [List.take_append_of_le_length hpass.bound]
      exact hpass.ahead
    · show ((r.service.payloadJobs ++ [(job', id)]).drop idx).Perm _
      rw [List.drop_append_of_le_length hpass.bound]
      simp only [stillPending, List.filterMap_append]
      exact hpass.behind.append_right _

/-! ## One turn of the loop over the commands -/

/-- What a command does to the jobs of a service that is not polling one. -/
structure Commanded (service service' : PayloadBuilderService Job) (events : List JobNote) :
    Prop where
  idle : ∀ idx job id, service'.phase ≠ .polling idx job id
  outside : ∀ idx, service'.phase ≠ .jobs idx
  effect : events = [] ∧ service'.payloadJobs.map (·.2) = service.payloadJobs.map (·.2) ∨
    (∃ id, events = [.created id] ∧ id ∉ service.payloadJobs.map (·.2) ∧
      service'.payloadJobs.map (·.2) = service.payloadJobs.map (·.2) ++ [id]) ∨
    ∃ id, events = [.resolved id] ∧
      (service.payloadJobs.map (·.2)).Perm (id :: service'.payloadJobs.map (·.2))

theorem containsPayload_iff (service : PayloadBuilderService Job) (id : PayloadId) :
    service.containsPayload id = true ↔ id ∈ service.payloadJobs.map (·.2) := by
  unfold containsPayload
  rw [List.any_eq_true]
  simp [eq_comm]

theorem commanded_ask {service : PayloadBuilderService Job} (hphase : service.phase = .commands)
    {α : Type} (id : PayloadId) (method : Job → Option α) :
    Commanded service (service.ask id method) [] := by
  unfold ask
  split
  next =>
    split
    next => exact ⟨by simp [hphase], by simp [hphase], .inl ⟨rfl, rfl⟩⟩
    next => exact ⟨by simp, by simp, .inl ⟨rfl, rfl⟩⟩
  next => exact ⟨by simp [hphase], by simp [hphase], .inl ⟨rfl, rfl⟩⟩

/-- A command keeps the jobs held exact. -/
theorem JobsExact.of_commanded {r : ServiceRun Job} (h : JobsExact r)
    (hphase : r.service.phase = .commands) {service' : PayloadBuilderService Job}
    {events : List JobNote} (hcmd : Commanded r.service service' events) :
    JobsExact { r with service := service', trace := r.trace ++ events } := by
  have hheld : r.service.heldIds = r.service.payloadJobs.map (·.2) := by
    refine heldIds_idle fun idx job id hpolling => ?_
    rw [hphase] at hpolling
    cases hpolling
  have hheld' := heldIds_idle hcmd.idle
  have hpass : PassAt { r with service := service', trace := r.trace ++ events } := by
    unfold PassAt
    split
    next idx hjobs => exact absurd hjobs (hcmd.outside idx)
    next idx job id hpolling => exact absurd hpolling (hcmd.idle idx job id)
    next => trivial
    next => trivial
  rcases hcmd.effect with ⟨rfl, hsame⟩ | ⟨id, rfl, hnew, hadded⟩ | ⟨id, rfl, hremoved⟩
  · refine h.of_perm ?_ (List.append_nil _) h.start hpass
    rw [hheld, ← hsame]
    exact .of_eq hheld'
  · have hids : service'.heldIds = r.service.heldIds ++ [id] := by
      rw [hheld', hadded, hheld]
    refine ⟨?_, ?_, h.start, hpass⟩
    · show service'.heldIds.Nodup
      rw [hids, ← List.concat_eq_append]
      exact h.nodup.concat (by rw [hheld]; exact hnew)
    · show service'.heldIds.Perm (liveIds (r.trace ++ [.created id]))
      rw [hids, liveIds_concat]
      exact h.live.append_right [id]
  · refine h.of_ended ?_ (fun _ => rfl) rfl h.start hpass
    rw [hheld]
    exact hremoved.trans (.of_eq (congrArg (id :: ·) hheld'.symm))

section Commands

variable [PayloadJob Job]

/-- A resolution removes the first job of its id, if that asks for it. -/
theorem commanded_resolve {service : PayloadBuilderService Job}
    (hphase : service.phase = .commands) (id : PayloadId) :
    Commanded service (service.resolve id)
      (match (service.payloadJobs.find? fun job => job.2 = id).bind fun job =>
          PayloadJob.resolve job.1 with
      | some (_, .no) => [.resolved id]
      | _ => []) := by
  unfold PayloadBuilderService.resolve
  cases hidx : service.payloadJobs.findIdx? fun job => job.2 = id with
  | none =>
    rw [List.find?_eq_none.mpr (by simpa [List.findIdx?_eq_none_iff] using hidx)]
    exact ⟨by simp [hphase], by simp [hphase], .inl ⟨rfl, rfl⟩⟩
  | some idx =>
    obtain ⟨hlt, hid, hfirst⟩ := List.findIdx?_eq_some_iff_getElem.mp hidx
    have hfind : service.payloadJobs.find? (fun job => job.2 = id) = service.payloadJobs[idx]? := by
      rw [List.getElem?_eq_getElem hlt, List.find?_eq_some_iff_getElem]
      exact ⟨hid, idx, hlt, rfl, fun j hj => by simpa using hfirst j hj⟩
    have hidAt : service.payloadJobs[idx].2 = id := of_decide_eq_true hid
    simp only [hfind]
    cases (service.payloadJobs[idx]?).bind fun job => PayloadJob.resolve job.1 with
    | none => exact ⟨by simp, by simp, .inl ⟨rfl, rfl⟩⟩
    | some answer =>
      obtain ⟨job, alive⟩ := answer
      cases alive with
      | yes =>
        refine ⟨by simp [hphase], by simp [hphase], .inl ⟨rfl, ?_⟩⟩
        have hself := congrArg (List.map Prod.snd) (List.set_getElem_self hlt)
        rw [List.map_set, hidAt] at hself
        exact List.map_set.trans hself
      | no =>
        refine ⟨by simp [hphase], by simp [hphase], .inr (.inr ⟨id, rfl, ?_⟩)⟩
        show List.Perm _ (id :: (service.payloadJobs.eraseIdx idx).map (·.2))
        have hperm := List.getElem_cons_eraseIdx_perm hlt
        rw [← hidAt]
        exact (hperm.map Prod.snd).symm

variable {newPayloadJob : BuildConfig → Except PayloadBuilderError Job}

/-- A command adds a job whose id is new, ends one, or changes none. -/
theorem commanded_onCommand {service : PayloadBuilderService Job}
    (hphase : service.phase = .commands) {cmd : PayloadServiceCommand}
    {rest : Channel PayloadServiceCommand}
    (hreceived : service.commandRx.pollRecv = (.message cmd, rest)) :
    Commanded service ({ service with commandRx := rest }.onCommand newPayloadJob cmd)
      (service.commandEvents newPayloadJob) := by
  unfold commandEvents
  rw [hreceived]
  cases cmd with
  | buildNewPayload config =>
    unfold onCommand
    by_cases hthere : service.containsPayload config.attributes.id = true
    · have hthere' : { service with commandRx := rest }.containsPayload config.attributes.id = true :=
        hthere
      simp only [hthere, hthere', if_true]
      exact ⟨by simp [hphase], by simp [hphase], .inl ⟨rfl, rfl⟩⟩
    · have hthere' :
          ¬ { service with commandRx := rest }.containsPayload config.attributes.id = true := hthere
      simp only [if_neg hthere, if_neg hthere']
      cases newPayloadJob config with
      | ok job =>
        refine ⟨by simp [hphase], by simp [hphase], .inr (.inl ⟨_, rfl, ?_, List.map_append⟩)⟩
        exact fun hmem => hthere ((containsPayload_iff service _).mpr hmem)
      | error e => exact ⟨by simp [hphase], by simp [hphase], .inl ⟨rfl, rfl⟩⟩
  | bestPayload id =>
    obtain ⟨hidle, houtside, heffect⟩ :=
      commanded_ask (show { service with commandRx := rest }.phase = .commands from hphase) id
        (PayloadJob.bestPayload : Job → _)
    exact ⟨hidle, houtside, heffect⟩
  | payloadAttributes id =>
    obtain ⟨hidle, houtside, heffect⟩ :=
      commanded_ask (show { service with commandRx := rest }.phase = .commands from hphase) id
        (PayloadJob.payloadAttributes : Job → _)
    exact ⟨hidle, houtside, heffect⟩
  | resolve id =>
    obtain ⟨hidle, houtside, heffect⟩ :=
      commanded_resolve (show { service with commandRx := rest }.phase = .commands from hphase) id
    exact ⟨hidle, houtside, heffect⟩

/-! ## Every run -/

omit [PayloadJob Job] in
/-- Where the pass is does not depend on the channel. -/
theorem PassAt.of_same {r r' : ServiceRun Job} (h : PassAt r)
    (hphase : r'.service.phase = r.service.phase)
    (hjobs : r'.service.payloadJobs = r.service.payloadJobs) (hstart : r'.start = r.start)
    (hpolls : r'.polls = r.polls) : PassAt r' := by
  have hin : ∀ idx upTo, InPass idx upTo r → InPass idx upTo r' := by
    intro idx upTo hpass
    refine ⟨?_, ?_, ?_, ?_, ?_⟩
    · rw [hjobs]
      exact hpass.bound
    · rw [hstart]
      exact hpass.bound_start
    · rw [hjobs, hstart]
      exact hpass.ahead
    · rw [hjobs, hpolls]
      exact hpass.behind
    · rw [hpolls, hstart]
      exact hpass.polled
  unfold PassAt at h ⊢
  rw [hphase]
  cases hp : r.service.phase with
  | jobs idx =>
    rw [hp] at h
    exact hin idx idx h
  | polling idx job id =>
    rw [hp] at h
    rw [hstart]
    exact ⟨hin idx (idx + 1) h.1, h.2⟩
  | commands => trivial
  | panicked => trivial

omit [PayloadJob Job] in
/-- A pass starts with every place still to be taken. -/
theorem JobsExact.newPass {r : ServiceRun Job} (h : JobsExact r)
    (hphase : r.service.phase = .commands) (trace : List JobNote) (htrace : trace = r.trace) :
    JobsExact
      { r with
        service.phase := .jobs r.service.payloadJobs.length
        trace := trace
        start := r.service.payloadJobs
        polls := [] } := by
  have hidle : r.service.heldIds = r.service.payloadJobs.map (·.2) := by
    refine heldIds_idle fun idx job id hpolling => ?_
    rw [hphase] at hpolling
    cases hpolling
  refine h.of_perm ?_ htrace (hidle ▸ h.nodup) ⟨Nat.le_refl _, Nat.le_refl _, rfl, ?_, ?_⟩
  · rw [hidle]
    exact .of_eq (heldIds_idle fun idx job id hpolling => by cases hpolling)
  · exact .of_eq List.drop_length
  · exact (congrArg List.reverse List.drop_length).symm

/-- **One event keeps the invariant.** -/
theorem jobsExact_step (r : ServiceRun Job) (e : ServiceEvent Job) (h : JobsExact r) :
    JobsExact (r.step e) := by
  cases e with
  | send cmd => exact ⟨h.nodup, h.live, h.start, h.pass.of_same rfl rfl rfl rfl⟩
  | turn poll newPayloadJob =>
    unfold ServiceRun.step
    cases hphase : r.service.phase with
    | jobs idx => exact (h.takeJob hphase).1
    | polling idx job id => exact h.putBack hphase poll
    | panicked => exact h
    | commands =>
      simp only
      cases hreceived : r.service.commandRx.pollRecv with
      | mk received rest =>
      cases received with
      | message cmd =>
        have hcmd : Commanded r.service
            ({ r.service with commandRx := rest }.onCommand newPayloadJob cmd)
            (r.service.commandEvents newPayloadJob) := commanded_onCommand hphase hreceived
        have hreceive : r.service.receive newPayloadJob =
            { r.service with commandRx := rest }.onCommand newPayloadJob cmd := by
          unfold receive
          rw [hreceived]
        rw [hreceive]
        split
        next idx hjobs => exact absurd hjobs (hcmd.outside idx)
        next => exact h.of_commanded hphase hcmd
      -- the channel is drained, and the next pass begins
      | ended =>
        unfold receive commandEvents
        rw [hreceived]
        exact h.newPass hphase _ (List.append_nil _)
      | pending =>
        unfold receive commandEvents
        rw [hreceived]
        exact h.newPass hphase _ (List.append_nil _)

/-- What the observer's notes say of the service.
`held`: between two polls of jobs the ids are those of the jobs alive, each once; while a job
is polled it is the only one missing. `in_range`: a job is there to be taken. `pass`: at the
end of a pass each job of its start was polled once, and the pending ones are what is left. -/
structure JobsNoted (r : ServiceRun Job) : Prop where
  held : (∀ idx job id, r.service.phase ≠ .polling idx job id) →
    (r.service.payloadJobs.map (·.2)).Nodup ∧
      ∀ id, id ∈ r.service.payloadJobs.map (·.2) ↔ id ∈ liveIds r.trace
  polling : ∀ idx job id, r.service.phase = .polling idx job id →
    (r.service.payloadJobs.map (·.2) ++ [id]).Nodup ∧
      ∀ id', id' ∈ r.service.payloadJobs.map (·.2) ++ [id] ↔ id' ∈ liveIds r.trace
  in_range : ∀ idx, r.service.phase = .jobs idx →
    idx ≤ r.service.payloadJobs.length ∧ (r.service.takeJob idx).phase ≠ .panicked
  pass : r.service.phase = .jobs 0 →
    r.polls.map (·.1) = r.start.reverse ∧ (r.start.map (·.2)).Nodup ∧
      r.service.payloadJobs.Perm (stillPending r.polls)

omit [PayloadJob Job] in
theorem JobsExact.noted {r : ServiceRun Job} (h : JobsExact r) : JobsNoted r where
  held := by
    intro hidle
    have hnodup := h.nodup
    have hlive := h.live
    rw [heldIds_idle hidle] at hnodup hlive
    exact ⟨hnodup, fun id => hlive.mem_iff⟩
  polling := by
    intro idx job id hphase
    have hnodup := h.nodup
    have hlive := h.live
    rw [heldIds_polling hphase] at hnodup hlive
    exact ⟨hnodup, fun id' => hlive.mem_iff⟩
  in_range := by
    intro idx hphase
    have hpass := h.pass
    unfold PassAt at hpass
    rw [hphase] at hpass
    exact ⟨hpass.bound, (h.takeJob hphase).2⟩
  pass := by
    intro hphase
    have hpass := h.pass
    unfold PassAt at hpass
    rw [hphase] at hpass
    exact ⟨hpass.polled, h.start, hpass.behind⟩

/-- **Jobs are neither lost, duplicated nor skipped.** -/
theorem jobs_exact (events : List (ServiceEvent Job)) :
    JobsNoted (run ServiceRun.step ServiceRun.new events) :=
  (run_invariant jobsExact_step events jobsExact_new).noted

end Commands

end BlockBuilder
