import BlockBuilder.Lib.Channel
import BlockBuilder.Payload.Job

/-!
# The payload service (`crates/payload/src/service/mod.rs`)

`PayloadBuilderService` drives the jobs. A poll of it takes the jobs out of the
list one at a time, from the last place to the first, polls each, and puts it
back at the end if it is pending. Then it drains the commands, and starts over
when there is a new job.

The service is generic in its jobs. Its poll is cut where it takes a job, where
the poll of that job has come to something, and where it receives a command.

Mirroring notes:
- A poll that returns `Pending` and one that loops both go on with the jobs, and
  differ in when they do. So the marker for a new job is left out.
- The senders that commands are answered through are left out, and the service
  holds a sender of its own channel, which therefore never ends.
-/

namespace BlockBuilder

open Lib (Channel)

abbrev PayloadId := UInt64

/-- Message type for the service. -/
inductive PayloadServiceCommand where
  | buildNewPayload (config : BuildConfig)
  | bestPayload (id : PayloadId)
  | payloadAttributes (id : PayloadId)
  | resolve (id : PayloadId)

inductive KeepPayloadJobAlive where
  | yes
  | no
  deriving DecidableEq, Repr

/-- A job, up to its poll; `none` is `unimplemented!()`. -/
class PayloadJob (Job : Type) where
  bestPayload : Job → Option (Except PayloadBuilderError Build)
  payloadAttributes : Job → Option (Except PayloadBuilderError EthPayloadBuilderAttributes)
  resolve : Job → Option (Job × KeepPayloadJobAlive)

instance : PayloadJob StreamBuildJob where
  bestPayload _ := none
  payloadAttributes _ := none
  resolve _ := none

/-- What the poll of a job comes to. -/
inductive JobPoll (Job : Type) where
  | ready (result : Except PayloadBuilderError Unit)
  | pending (job : Job)

/-- `Vec::swap_remove`; `none` out of range. -/
def swapRemove {α : Type} (l : List α) (idx : Nat) : Option (α × List α) :=
  match l[idx]?, l.getLast? with
  | some a, some last => some (a, (l.set idx last).dropLast)
  | _, _ => none

/-- Where the service is in `poll`. -/
inductive PayloadPhase (Job : Type) where
  /-- The jobs in the first `idx` places are still to be polled. -/
  | jobs (idx : Nat)
  /-- A job was taken out, and is being polled. -/
  | polling (idx : Nat) (job : Job) (id : PayloadId)
  | commands
  | panicked

structure PayloadBuilderService (Job : Type) where
  payloadJobs : List (Job × PayloadId)
  commandRx : Channel PayloadServiceCommand
  phase : PayloadPhase Job

namespace PayloadBuilderService

variable {Job : Type}

def new : PayloadBuilderService Job := ⟨[], .new, .jobs 0⟩

/-- `PayloadBuilderHandle::build_new_payload`. -/
def buildNewPayload (service : PayloadBuilderService Job) (config : BuildConfig) :
    PayloadBuilderService Job :=
  { service with commandRx := service.commandRx.send (.buildNewPayload config) }

/-- Whether the given payload is currently being built. -/
def containsPayload (service : PayloadBuilderService Job) (id : PayloadId) : Bool :=
  service.payloadJobs.any fun job => job.2 = id

/-- The head of the loop over the jobs. -/
def takeJob (service : PayloadBuilderService Job) : Nat → PayloadBuilderService Job
  | idx + 1 =>
    match swapRemove service.payloadJobs idx with
    | some ((job, id), rest) => { service with payloadJobs := rest, phase := .polling idx job id }
    | none => { service with phase := .panicked }
  | 0 => { service with phase := .commands }

/-- The rest of the loop: a job that is still pending is put back. -/
def putBack (service : PayloadBuilderService Job) (idx : Nat) (id : PayloadId) :
    JobPoll Job → PayloadBuilderService Job
  | .ready _ => { service with phase := .jobs idx }
  | .pending job =>
    { service with payloadJobs := service.payloadJobs ++ [(job, id)], phase := .jobs idx }

section Commands

variable [PayloadJob Job]

/-- Ask the first job of a payload for something. -/
def ask {α : Type} (service : PayloadBuilderService Job) (id : PayloadId) (method : Job → Option α) :
    PayloadBuilderService Job :=
  match service.payloadJobs.find? fun job => job.2 = id with
  | some (job, _) =>
    match method job with
    | some _ => service
    | none => { service with phase := .panicked }
  | none => service

/-- The job is resolved in its place, and removed if it asks for that. -/
def resolve (service : PayloadBuilderService Job) (id : PayloadId) : PayloadBuilderService Job :=
  match service.payloadJobs.findIdx? fun job => job.2 = id with
  | some idx =>
    match (service.payloadJobs[idx]?).bind fun job => PayloadJob.resolve job.1 with
    | some (job, .yes) => { service with payloadJobs := service.payloadJobs.set idx (job, id) }
    | some (_, .no) => { service with payloadJobs := service.payloadJobs.eraseIdx idx }
    | none => { service with phase := .panicked }
  | none => service

def onCommand (newPayloadJob : BuildConfig → Except PayloadBuilderError Job)
    (service : PayloadBuilderService Job) : PayloadServiceCommand → PayloadBuilderService Job
  | .buildNewPayload config =>
    let id := config.attributes.id
    if service.containsPayload id then service
    else
      match newPayloadJob config with
      | .ok job => { service with payloadJobs := service.payloadJobs ++ [(job, id)] }
      | .error _ => service
  | .bestPayload id => service.ask id PayloadJob.bestPayload
  | .payloadAttributes id => service.ask id PayloadJob.payloadAttributes
  | .resolve id => service.resolve id

/-- One turn of the loop over the commands. -/
def receive (newPayloadJob : BuildConfig → Except PayloadBuilderError Job)
    (service : PayloadBuilderService Job) : PayloadBuilderService Job :=
  match service.commandRx.pollRecv with
  | (.message cmd, rest) => { service with commandRx := rest }.onCommand newPayloadJob cmd
  | _ => { service with phase := .jobs service.payloadJobs.length }

end Commands

/-! ## Every job -/

theorem mem_of_swapRemove {α : Type} {l rest : List α} {idx : Nat} {a : α}
    (h : swapRemove l idx = some (a, rest)) : a ∈ l ∧ ∀ b ∈ rest, b ∈ l := by
  unfold swapRemove at h
  split at h
  next a' last ha hlast =>
    cases h
    refine ⟨List.mem_of_getElem? ha, fun b hb => ?_⟩
    rcases List.mem_or_eq_of_mem_set (List.dropLast_subset _ hb) with hmem | rfl
    · exact hmem
    · exact List.mem_of_getLast? hlast
  next => cases h

/-- Every job of the service has the property, also the one that is being polled. -/
structure AllJobs (p : Job → Prop) (service : PayloadBuilderService Job) : Prop where
  jobs : ∀ job ∈ service.payloadJobs, p job.1
  polling : ∀ idx job id, service.phase = .polling idx job id → p job

namespace AllJobs

variable {p : Job → Prop} {service : PayloadBuilderService Job}

theorem buildNewPayload (h : AllJobs p service) (config : BuildConfig) :
    AllJobs p (service.buildNewPayload config) := ⟨h.jobs, h.polling⟩

theorem takeJob (h : AllJobs p service) (idx : Nat) : AllJobs p (service.takeJob idx) := by
  unfold PayloadBuilderService.takeJob
  split
  next idx =>
    split
    next job id rest htaken =>
      obtain ⟨hjob, hrest⟩ := mem_of_swapRemove htaken
      refine ⟨fun other hother => h.jobs other (hrest other hother), fun _ _ _ hphase => ?_⟩
      cases hphase
      exact h.jobs (job, id) hjob
    next => exact ⟨h.jobs, fun _ _ _ hphase => by cases hphase⟩
  next => exact ⟨h.jobs, fun _ _ _ hphase => by cases hphase⟩

/-- A job that is done. -/
theorem ready (h : AllJobs p service) (idx : Nat) (id : PayloadId)
    (result : Except PayloadBuilderError Unit) : AllJobs p (service.putBack idx id (.ready result)) :=
  ⟨h.jobs, fun _ _ _ hphase => by cases hphase⟩

/-- A job that is put back. -/
theorem pending (h : AllJobs p service) (idx : Nat) (id : PayloadId) {job : Job} (hjob : p job) :
    AllJobs p (service.putBack idx id (.pending job)) := by
  refine ⟨fun other hother => ?_, fun _ _ _ hphase => by cases hphase⟩
  rcases List.mem_append.mp hother with hold | hnew
  · exact h.jobs other hold
  · rw [List.mem_singleton.mp hnew]
    exact hjob

/-- The service panics. -/
theorem panicked (h : AllJobs p service) : AllJobs p { service with phase := .panicked } :=
  ⟨h.jobs, fun _ _ _ hphase => by cases hphase⟩

theorem ask (h : AllJobs p service) {α : Type} (id : PayloadId) (method : Job → Option α) :
    AllJobs p (service.ask id method) := by
  unfold PayloadBuilderService.ask
  split
  next =>
    split
    next => exact h
    next => exact h.panicked
  next => exact h

section Commands

variable [PayloadJob Job]
  (hresolve : ∀ job job' alive, PayloadJob.resolve job = some (job', alive) → p job → p job')

include hresolve

theorem resolve (h : AllJobs p service) (id : PayloadId) : AllJobs p (service.resolve id) := by
  unfold PayloadBuilderService.resolve
  split
  next idx _ =>
    split
    next job' hjob' =>
      refine ⟨fun other hother => ?_, h.polling⟩
      rcases List.mem_or_eq_of_mem_set hother with hold | rfl
      · exact h.jobs other hold
      · obtain ⟨job, hjob, hresolved⟩ := Option.bind_eq_some_iff.mp hjob'
        exact hresolve _ _ _ hresolved (h.jobs job (List.mem_of_getElem? hjob))
    next => exact ⟨fun other hother => h.jobs other (List.mem_of_mem_eraseIdx hother), h.polling⟩
    next => exact h.panicked
  next => exact h

variable {newPayloadJob : BuildConfig → Except PayloadBuilderError Job}
  (hnew : ∀ config job, newPayloadJob config = .ok job → p job)

include hnew

/-- A command adds a job the generator makes, or has one resolved. -/
theorem onCommand (h : AllJobs p service) (cmd : PayloadServiceCommand) :
    AllJobs p (service.onCommand newPayloadJob cmd) := by
  cases cmd with
  | buildNewPayload config =>
    unfold PayloadBuilderService.onCommand
    simp only
    split
    next => exact h
    next =>
      split
      next job hjob =>
        refine ⟨fun other hother => ?_, h.polling⟩
        rcases List.mem_append.mp hother with hold | hadded
        · exact h.jobs other hold
        · rw [List.mem_singleton.mp hadded]
          exact hnew config job hjob
      next => exact h
  | bestPayload id => exact h.ask id _
  | payloadAttributes id => exact h.ask id _
  | resolve id => exact h.resolve hresolve id

theorem receive (h : AllJobs p service) : AllJobs p (service.receive newPayloadJob) := by
  unfold PayloadBuilderService.receive
  split
  next cmd rest _ =>
    have hrest : AllJobs p { service with commandRx := rest } := ⟨h.jobs, h.polling⟩
    exact hrest.onCommand hresolve hnew cmd
  next => exact ⟨h.jobs, fun _ _ _ hphase => by cases hphase⟩

end Commands

end AllJobs

/-! ## The commands that wait -/

theorem ask_commandRx {α : Type} (service : PayloadBuilderService Job)
    (id : PayloadId) (method : Job → Option α) :
    (service.ask id method).commandRx = service.commandRx := by
  unfold ask
  split
  next =>
    split
    next => rfl
    next => rfl
  next => rfl

theorem onCommand_commandRx [PayloadJob Job]
    (newPayloadJob : BuildConfig → Except PayloadBuilderError Job)
    (service : PayloadBuilderService Job) (cmd : PayloadServiceCommand) :
    (service.onCommand newPayloadJob cmd).commandRx = service.commandRx := by
  unfold onCommand
  split
  next =>
    simp only
    split
    next => rfl
    next =>
      split
      next => rfl
      next => rfl
  next => exact service.ask_commandRx ..
  next => exact service.ask_commandRx ..
  next =>
    unfold resolve
    split
    next =>
      split
      next => rfl
      next => rfl
      next => rfl
    next => rfl

theorem takeJob_commandRx (service : PayloadBuilderService Job)
    (idx : Nat) : (service.takeJob idx).commandRx = service.commandRx := by
  unfold takeJob
  split
  next =>
    split
    next => rfl
    next => rfl
  next => rfl

end PayloadBuilderService

end BlockBuilder
