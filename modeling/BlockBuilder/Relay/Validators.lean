import BlockBuilder.Lib.Interval
import BlockBuilder.Lib.Oneshot
import BlockBuilder.Relay.Aggregator

/-!
# The validator schedule service (`crates/relay/src/services/validator.rs`)

Once an epoch `ValidatorScheduleService` spawns a task that loads the schedule
from the relays, and waits for the task it spawned last. A result puts the
schedule in its place, an error sets the next attempt in five seconds.

A task may take long, and the one after it is spawned regardless. Its receiver
then replaces the one that is waited for, and what the earlier task comes back
with is not looked at any more. So every load is adopted, has failed or was
superseded, and only the newest can be adopted (`schedule_current`): a schedule
never gives way to one that was asked for earlier.

A poll is cut in two, up to the end of the loop over the ticks (`poll`) and the
look at the task that is waited for (`receive`). The tasks run at any time.

Mirroring notes:
- The receiver of a load is the number of its task; times are milliseconds.
- The mutex around the schedule is held for a read or a write only, so that a
  handle sees the schedule that is in force.
- `adopted`, `failed`, `superseded` and `clock` are history.
-/

namespace BlockBuilder

open Lib (Grows Interval Oneshot Along run run_invariant run_induct run_concat)

def EPOCH_TIME_SECONDS : Nat := 32 * 12

/-- `Duration::from_secs`, in milliseconds. -/
def fromSecs (seconds : Nat) : Nat := 1000 * seconds

inductive RelayServiceErr where
  /-- The relay service is gone. -/
  | recv
  | send
  | client (err : RelayClientErr)
  deriving DecidableEq, Repr

/-- `RelayHandle::load_validator_schedule`, from what the relays report; `none` when the
relay service does not answer. -/
def RelayHandle.loadValidatorSchedule (answers : Option (List (List ValidatorRegistrationResponse))) :
    Except RelayServiceErr ValidatorSchedule :=
  match answers with
  | none => .error .recv
  | some results =>
    match BlockBuilder.loadValidatorSchedule results with
    | .ok schedule => .ok schedule
    | .error err => .error (.client err)

structure ValidatorScheduleService where
  interval : Interval
  /-- The load that is waited for. -/
  stateReceiver : Option Nat
  state : ValidatorSchedule

/-- `ValidatorScheduleHandle::validator_info`. -/
def ValidatorScheduleService.validatorInfo (service : ValidatorScheduleService) (slot : UInt64) :
    Option ValidatorScheduleSlotInfo :=
  service.state.getBySlot slot

structure ValidatorSystem where
  service : ValidatorScheduleService
  loads : List (Oneshot (Except RelayServiceErr ValidatorSchedule))
  /-- The service is in the middle of a poll. -/
  receiving : Bool
  adopted : List Nat
  failed : List Nat
  superseded : List Nat
  /-- The latest time of a poll. -/
  clock : Nat

inductive ValidatorEvent where
  /-- The service is polled, up to the end of the loop over the ticks. -/
  | poll (now : Nat)
  /-- The service goes on to look at the load it waits for. -/
  | receive (now : Nat)
  /-- A load comes back. -/
  | load (load : Nat) (answers : Option (List (List ValidatorRegistrationResponse)))
  /-- A load panics. -/
  | loadPanics (load : Nat)

namespace ValidatorEvent

/-- The time at which the ticks are looked at. -/
def pollTime : ValidatorEvent → Option Nat
  | poll now => some now
  | _ => none

/-- The time of a step of the service. -/
def time : ValidatorEvent → Option Nat
  | poll now | receive now => some now
  | _ => none

end ValidatorEvent

namespace ValidatorSystem

def new (start : Nat) : ValidatorSystem where
  service :=
    { interval := .new start (fromSecs EPOCH_TIME_SECONDS) (by decide)
      stateReceiver := none
      state := .default }
  loads := []
  receiving := false
  adopted := []
  failed := []
  superseded := []
  clock := start

/-- A tick spawns a load, and waits for it. -/
def triggerLoad (sys : ValidatorSystem) : ValidatorSystem :=
  { sys with
    loads := sys.loads ++ [.pending]
    service := { sys.service with stateReceiver := some sys.loads.length }
    superseded := sys.superseded ++ sys.service.stateReceiver.toList }

def poll (sys : ValidatorSystem) (now : Nat) : ValidatorSystem :=
  if sys.receiving then sys
  else
    let (interval, sys) := sys.service.interval.drain now triggerLoad sys
    { sys with
      service := { sys.service with interval := interval }
      receiving := true
      clock := now }

/-- `reset_state`. -/
def resetState (service : ValidatorScheduleService) (schedule : ValidatorSchedule) :
    ValidatorScheduleService :=
  { service with stateReceiver := none, state := schedule }

/-- A load that failed is tried again in five seconds. -/
def retry (service : ValidatorScheduleService) (now : Nat) : ValidatorScheduleService :=
  { service with stateReceiver := none, interval := service.interval.resetAfter now (fromSecs 5) }

def receive (sys : ValidatorSystem) (now : Nat) : ValidatorSystem :=
  if !sys.receiving then sys
  else
    let sys := { sys with receiving := false, clock := now }
    match sys.service.stateReceiver with
    | none => sys
    | some load =>
      match sys.loads[load]? with
      | some (.sent (.ok schedule)) =>
        { sys with
          service := resetState sys.service schedule
          adopted := sys.adopted ++ [load] }
      | some (.sent (.error _)) | some .closed =>
        { sys with
          service := retry sys.service now
          failed := sys.failed ++ [load] }
      | some .pending | none => sys

/-- One event. -/
def step (sys : ValidatorSystem) : ValidatorEvent → ValidatorSystem
  | .poll now => sys.poll now
  | .receive now => sys.receive now
  | .load load answers =>
    { sys with loads := sys.loads.modify load (·.send (RelayHandle.loadValidatorSchedule answers)) }
  | .loadPanics load => { sys with loads := sys.loads.modify load Oneshot.drop }

/-! ## Every load has one end -/

/-- Every load was adopted, has failed, was superseded or is waited for, and it is the
newest that is waited for. -/
structure Accounted (sys : ValidatorSystem) : Prop where
  once : (sys.adopted ++ sys.failed ++ sys.superseded ++ sys.service.stateReceiver.toList).Perm
    (List.range sys.loads.length)
  newest : ∀ load, sys.service.stateReceiver = some load → load + 1 = sys.loads.length
  order : sys.adopted.Pairwise (· < ·)
  state : sys.service.state = .default ∧ sys.adopted = [] ∨ ∃ load, sys.adopted.getLast? = some load ∧
    sys.loads[load]? = some (.sent (.ok sys.service.state))

namespace Accounted

variable {sys : ValidatorSystem}

/-- The results change, and what was sent stays. -/
theorem grows {loads : List (Oneshot (Except RelayServiceErr ValidatorSchedule))}
    (h : Accounted sys) (hgrows : Grows Oneshot.Onward sys.loads loads)
    (hlength : loads.length = sys.loads.length) : Accounted { sys with loads := loads } where
  once := by
    rw [hlength]
    exact h.once
  newest load hload := by
    rw [hlength]
    exact h.newest load hload
  order := h.order
  state := by
    rcases h.state with hnone | ⟨load, hlast, hsent⟩
    · exact .inl hnone
    · exact .inr ⟨load, hlast, Oneshot.sent_grows hgrows hsent⟩

/-- The time and the interval are no part of it. -/
theorem of_interval (h : Accounted sys) (interval : Interval) (receiving : Bool) (clock : Nat) :
    Accounted
      { sys with
        service := { sys.service with interval := interval }
        receiving := receiving
        clock := clock } :=
  ⟨h.once, h.newest, h.order, h.state⟩

theorem triggerLoad (h : Accounted sys) : Accounted sys.triggerLoad where
  once := by
    show (sys.adopted ++ sys.failed ++ (sys.superseded ++ sys.service.stateReceiver.toList) ++
      [sys.loads.length]).Perm (List.range (sys.loads ++ [Oneshot.pending]).length)
    rw [List.length_append, List.length_singleton, List.range_succ, ← List.append_assoc]
    exact h.once.append_right _
  newest load hload := by
    cases hload
    show _ = (sys.loads ++ [Oneshot.pending]).length
    rw [List.length_append, List.length_singleton]
  order := h.order
  state := by
    rcases h.state with hnone | ⟨load, hlast, hsent⟩
    · exact .inl hnone
    · exact .inr ⟨load, hlast, Oneshot.sent_grows (.append Oneshot.onward_refl _ _) hsent⟩

theorem poll (h : Accounted sys) (now : Nat) : Accounted (sys.poll now) := by
  unfold ValidatorSystem.poll
  split
  next => exact h
  next =>
    have hdrained := Interval.drain_keeps (fun _ h => triggerLoad h) sys.service.interval now h
    exact hdrained.of_interval _ true now

/-- **The newest load is adopted.** -/
theorem adopt (h : Accounted sys) {load : Nat} {schedule : ValidatorSchedule}
    (hwaits : sys.service.stateReceiver = some load)
    (hsent : sys.loads[load]? = some (.sent (.ok schedule))) :
    Accounted
      { sys with
        service := resetState sys.service schedule
        adopted := sys.adopted ++ [load] } where
  once := by
    have honce := h.once
    rw [hwaits] at honce
    show (sys.adopted ++ [load] ++ sys.failed ++ sys.superseded ++ []).Perm _
    refine List.Perm.trans ?_ honce
    simp only [List.append_nil, List.append_assoc, Option.toList]
    exact List.Perm.append_left _ (List.perm_append_comm.trans (by simp))
  newest load' hload' := by cases hload'
  order := by
    refine List.pairwise_append.mpr ⟨h.order, List.pairwise_singleton .., fun old hold new hnew => ?_⟩
    cases List.mem_singleton.mp hnew
    -- an older load is in the list, and the newest is there once
    have hlt : old < sys.loads.length :=
      List.mem_range.mp (h.once.mem_iff.mp (by simp [hold]))
    have hnewest := h.newest load hwaits
    have hnodup := h.once.nodup_iff.mpr List.nodup_range
    rw [hwaits] at hnodup
    have hne : old ≠ load := by
      intro heq
      rw [heq] at hold
      exact (List.nodup_append.mp hnodup).2.2 load (by simp [hold]) load (by simp) rfl
    omega
  state := .inr ⟨load, List.getLast?_concat, hsent⟩

/-- A load has failed. -/
theorem fail (h : Accounted sys) {load : Nat} (hwaits : sys.service.stateReceiver = some load)
    (now : Nat) :
    Accounted
      { sys with
        service := retry sys.service now
        failed := sys.failed ++ [load] } where
  once := by
    have honce := h.once
    rw [hwaits] at honce
    show (sys.adopted ++ (sys.failed ++ [load]) ++ sys.superseded ++ []).Perm _
    refine List.Perm.trans ?_ honce
    simp only [List.append_nil, List.append_assoc, Option.toList]
    exact List.Perm.append_left _ (List.Perm.append_left _ List.perm_append_comm)
  newest load' hload' := by cases hload'
  order := h.order
  state := h.state

theorem receive (h : Accounted sys) (now : Nat) : Accounted (sys.receive now) := by
  unfold ValidatorSystem.receive
  split
  next => exact h
  next =>
    have hidle : Accounted { sys with receiving := false, clock := now } :=
      h.of_interval sys.service.interval false now
    simp only
    split
    next => exact hidle
    next load hwaits =>
      split
      next schedule hsent => exact hidle.adopt hwaits hsent
      next => exact hidle.fail hwaits now
      next => exact hidle.fail hwaits now
      next => exact hidle
      next => exact hidle

/-- **Every event keeps it.** -/
theorem step (h : Accounted sys) (event : ValidatorEvent) : Accounted (sys.step event) := by
  cases event with
  | poll now => exact h.poll now
  | receive now => exact h.receive now
  | load load answers =>
    refine h.grows (.modify Oneshot.onward_refl (fun o => o.onward_send _) _ _) ?_
    rw [List.length_modify]
  | loadPanics load =>
    refine h.grows (.modify Oneshot.onward_refl Oneshot.onward_drop _ _) ?_
    rw [List.length_modify]

theorem of_new (start : Nat) : Accounted (new start) where
  once := .nil
  newest load hload := by cases hload
  order := .nil
  state := .inl ⟨rfl, rfl⟩

end Accounted

/-! ## Where a schedule comes from -/

/-- A schedule that a load came back with was made of what the relays reported to it. -/
def LoadedFrom (events : List ValidatorEvent) (load : Nat)
    (result : Except RelayServiceErr ValidatorSchedule) : Prop :=
  ∀ schedule, result = .ok schedule → ∃ results, .load load (some results) ∈ events ∧
    loadValidatorSchedule results = .ok schedule

theorem RelayHandle.loadValidatorSchedule_ok
    {answers : Option (List (List ValidatorRegistrationResponse))} {schedule : ValidatorSchedule}
    (h : RelayHandle.loadValidatorSchedule answers = .ok schedule) :
    ∃ results, answers = some results ∧ BlockBuilder.loadValidatorSchedule results = .ok schedule := by
  unfold RelayHandle.loadValidatorSchedule at h
  split at h
  next => cases h
  next results =>
    split at h
    next loaded hloaded =>
      cases h
      exact ⟨results, rfl, hloaded⟩
    next => cases h

theorem receive_loads (sys : ValidatorSystem) (now : Nat) : (sys.receive now).loads = sys.loads := by
  unfold receive
  split
  next => rfl
  next =>
    simp only
    split
    next => rfl
    next =>
      split
      next => rfl
      next => rfl
      next => rfl
      next => rfl
      next => rfl

theorem loadedFrom_step {events : List ValidatorEvent} {sys : ValidatorSystem}
    (h : Oneshot.Sends (LoadedFrom events) sys.loads) (event : ValidatorEvent) :
    Oneshot.Sends (LoadedFrom (events ++ [event])) (sys.step event).loads := by
  have hold : Oneshot.Sends (LoadedFrom (events ++ [event])) sys.loads := by
    refine h.mono fun load result hloaded schedule hresult => ?_
    obtain ⟨results, hmem, hresults⟩ := hloaded schedule hresult
    exact ⟨results, List.mem_append_left _ hmem, hresults⟩
  cases event with
  | poll now =>
    have htrigger : ∀ sys : ValidatorSystem,
        Oneshot.Sends (LoadedFrom (events ++ [.poll now])) sys.loads →
        Oneshot.Sends (LoadedFrom (events ++ [.poll now])) sys.triggerLoad.loads :=
      fun sys hsys => hsys.append
    show Oneshot.Sends _ (sys.poll now).loads
    unfold poll
    split
    next => exact hold
    next => exact Interval.drain_keeps htrigger sys.service.interval now hold
  | receive now =>
    show Oneshot.Sends _ (sys.receive now).loads
    rw [receive_loads]
    exact hold
  | load load answers =>
    refine hold.send fun schedule hresult => ?_
    obtain ⟨results, rfl, hresults⟩ := RelayHandle.loadValidatorSchedule_ok hresult
    exact ⟨results, List.mem_append_right _ (List.mem_singleton_self _), hresults⟩
  | loadPanics load => exact hold.drop load

theorem loadedFrom_run (start : Nat) (events : List ValidatorEvent) :
    Oneshot.Sends (LoadedFrom events) (run step (new start) events).loads := by
  induction events using List.reverseRecOn with
  | nil =>
    intro load result hsent
    cases hsent
  | append_singleton events event ih =>
    rw [run_concat]
    exact loadedFrom_step ih event

/-- **What a handle is told of a slot** was reported to the load adopted last. -/
theorem validatorInfo_reported (start : Nat) (events : List ValidatorEvent) {slot : UInt64}
    {info : ValidatorScheduleSlotInfo}
    (hinfo : (run step (new start) events).service.validatorInfo slot = some info) :
    info.slot = slot ∧
      ∃ load results, (run step (new start) events).adopted.getLast? = some load ∧
        .load load (some results) ∈ events ∧
        ∃ reported ∈ results, ∃ data ∈ reported, info = .ofResponse data := by
  have h : Accounted (run step (new start) events) :=
    run_invariant (fun _ event h => h.step event) events (.of_new start)
  refine ⟨ValidatorSchedule.getBySlot_slot hinfo, ?_⟩
  unfold ValidatorScheduleService.validatorInfo at hinfo
  rcases h.state with ⟨hdefault, -⟩ | ⟨load, hlast, hsent⟩
  · rw [hdefault, ValidatorSchedule.getBySlot_default] at hinfo
    cases hinfo
  · obtain ⟨results, hmem, hresults⟩ := loadedFrom_run start events load _ hsent _ rfl
    refine ⟨load, results, hlast, hmem, ?_⟩
    have hslot := loadValidatorSchedule_ok hresults slot
    rw [hinfo] at hslot
    obtain ⟨reported, hreported, hfirst⟩ := List.exists_of_findSome?_eq_some hslot.symm
    obtain ⟨data, hdata, hof⟩ := Option.map_eq_some_iff.mp hfirst
    exact ⟨reported, hreported, data, List.mem_of_find?_eq_some hdata, hof.symm⟩

/-- **The schedule in force is that of the newest load adopted.** In every run each load
is adopted, has failed, was superseded or is waited for, exactly one of these, and only
the newest is waited for; loads are adopted in the order they were spawned; and what a
handle is told of a slot is a registration for this slot that a relay reported to the
load adopted last. -/
theorem schedule_current (start : Nat) (events : List ValidatorEvent) :
    let sys := run step (new start) events
    (sys.adopted ++ sys.failed ++ sys.superseded ++ sys.service.stateReceiver.toList).Perm
      (List.range sys.loads.length) ∧
    (∀ load, sys.service.stateReceiver = some load → load + 1 = sys.loads.length) ∧
    sys.adopted.Pairwise (· < ·) ∧
    ∀ slot info, sys.service.validatorInfo slot = some info → info.slot = slot ∧
      ∃ load results, sys.adopted.getLast? = some load ∧ .load load (some results) ∈ events ∧
        ∃ reported ∈ results, ∃ data ∈ reported, info = .ofResponse data := by
  intro sys
  have h : Accounted sys := run_invariant (fun _ event h => h.step event) events (.of_new start)
  exact ⟨h.once, h.newest, h.order, fun _ _ hinfo => validatorInfo_reported start events hinfo⟩

/-! ## When a load is tried again -/

/-- A failed load is looked at. -/
def Fails (sys : ValidatorSystem) : Prop :=
  sys.receiving = true ∧ ∃ load, sys.service.stateReceiver = some load ∧
    ((∃ err, sys.loads[load]? = some (.sent (.error err))) ∨ sys.loads[load]? = some .closed)

/-- Nothing is waited for, and the next load is due at a time. -/
structure Waits (due loads : Nat) (state : ValidatorSchedule) (sys : ValidatorSystem) : Prop where
  receiver : sys.service.stateReceiver = none
  deadline : sys.service.interval.deadline = due
  loads : sys.loads.length = loads
  state : sys.service.state = state

theorem Waits.step {due loads : Nat} {state : ValidatorSchedule} {sys : ValidatorSystem}
    (h : Waits due loads state sys) {event : ValidatorEvent}
    (hquiet : ∀ now, event.pollTime = some now → now < due) :
    Waits due loads state (sys.step event) := by
  cases event with
  | poll now =>
    show Waits due loads state (sys.poll now)
    unfold poll
    split
    next => exact h
    next =>
      rw [Interval.drain_of_lt (by rw [h.deadline]; exact hquiet now rfl)]
      exact ⟨h.receiver, h.deadline, h.loads, h.state⟩
  | receive now =>
    show Waits due loads state (sys.receive now)
    unfold receive
    split
    next => exact h
    next =>
      simp only
      rw [h.receiver]
      exact ⟨h.receiver, h.deadline, h.loads, h.state⟩
  | load load answers =>
    refine ⟨h.receiver, h.deadline, ?_, h.state⟩
    rw [← h.loads]
    exact List.length_modify ..
  | loadPanics load =>
    refine ⟨h.receiver, h.deadline, ?_, h.state⟩
    rw [← h.loads]
    exact List.length_modify ..

/-- A poll at or after the deadline spawns a load. -/
theorem poll_spawns {sys : ValidatorSystem} {now : Nat} (hidle : sys.receiving = false)
    (hdue : sys.service.interval.deadline ≤ now) : sys.loads.length < (sys.poll now).loads.length := by
  unfold poll
  rw [hidle]
  obtain ⟨n, hn⟩ := Interval.drain_of_le hdue triggerLoad sys
  show sys.loads.length < (sys.service.interval.drain now triggerLoad sys).2.loads.length
  rw [hn]
  clear hn
  induction n with
  | zero =>
    show sys.loads.length < (sys.loads ++ [Oneshot.pending]).length
    rw [List.length_append, List.length_singleton]
    omega
  | succ n ih =>
    rw [Function.iterate_succ_apply']
    refine Nat.lt_trans ih ?_
    show _ < (List.length (_ ++ [Oneshot.pending]))
    rw [List.length_append, List.length_singleton]
    exact Nat.lt_succ_self _

/-- **A load that failed is tried again after five seconds**, and not before: whatever
happens in between, the schedule stays as it was and no load is spawned by a poll
within the five seconds, and the first poll after them spawns one. -/
theorem failed_load_retried {sys : ValidatorSystem} {now : Nat} (hfails : Fails sys)
    {events : List ValidatorEvent}
    (hquiet : ∀ event ∈ events, ∀ t, event.pollTime = some t → t < now + fromSecs 5) :
    let sys' := run step (sys.step (.receive now)) events
    sys'.service.state = sys.service.state ∧ sys'.loads.length = sys.loads.length ∧
    ∀ t, now + fromSecs 5 ≤ t → sys'.receiving = false →
      sys'.loads.length < (sys'.step (.poll t)).loads.length := by
  intro sys'
  have hreceived : Waits (now + fromSecs 5) sys.loads.length sys.service.state
      (sys.step (.receive now)) := by
    obtain ⟨hreceiving, load, hwaits, hfailed⟩ := hfails
    show Waits _ _ _ (sys.receive now)
    unfold receive
    rw [hreceiving]
    simp only [Bool.not_true, Bool.false_eq_true, if_false]
    rw [hwaits]
    simp only
    rcases hfailed with ⟨err, herr⟩ | hclosed
    · rw [herr]
      exact ⟨rfl, rfl, rfl, rfl⟩
    · rw [hclosed]
      exact ⟨rfl, rfl, rfl, rfl⟩
  have h : Waits (now + fromSecs 5) sys.loads.length sys.service.state sys' :=
    run_induct (fun _ _ hquiet h => h.step hquiet) events (Lib.along_of_forall hquiet) hreceived
  refine ⟨h.state, h.loads, fun t hdue hidle => poll_spawns hidle ?_⟩
  rw [h.deadline]
  exact hdue

/-- A relay service that does not answer fails the first load. -/
theorem failed_load_retried_once :
    let sys := run step (new 0) [.poll 0, .load 0 none]
    let sys' := run step (sys.step (.receive 0)) [.poll 4999, .receive 4999]
    sys'.service.state = sys.service.state ∧ sys'.loads.length = sys.loads.length ∧
    ∀ t, 0 + fromSecs 5 ≤ t → sys'.receiving = false →
      sys'.loads.length < (sys'.step (.poll t)).loads.length := by
  refine failed_load_retried ⟨rfl, 0, rfl, .inl ⟨.recv, rfl⟩⟩ fun event hevent t htime => ?_
  rcases List.mem_cons.mp hevent with rfl | hlast
  · cases htime
    decide
  · cases List.mem_singleton.mp hlast
    cases htime

/-- Time does not go back. -/
def Onwards (sys : ValidatorSystem) (event : ValidatorEvent) : Prop :=
  ∀ now, event.time = some now → sys.clock ≤ now

instance (sys : ValidatorSystem) : ∀ event, Decidable (sys.Onwards event)
  | .poll now => decidable_of_iff (sys.clock ≤ now) (by simp [Onwards, ValidatorEvent.time])
  | .receive now => decidable_of_iff (sys.clock ≤ now) (by simp [Onwards, ValidatorEvent.time])
  | .load _ _ => .isTrue fun _ h => by cases h
  | .loadPanics _ => .isTrue fun _ h => by cases h

/-- The next load is due within an epoch. -/
structure DueSoon (sys : ValidatorSystem) : Prop where
  period : sys.service.interval.period = fromSecs EPOCH_TIME_SECONDS
  deadline : sys.service.interval.deadline ≤ sys.clock + fromSecs EPOCH_TIME_SECONDS

theorem DueSoon.later {sys : ValidatorSystem} (h : DueSoon sys) {service : ValidatorScheduleService}
    {now : Nat} (hnow : sys.clock ≤ now) (hservice : service.interval = sys.service.interval ∨
      service.interval = sys.service.interval.resetAfter now (fromSecs 5))
    (adopted failed : List Nat) :
    DueSoon ⟨service, sys.loads, false, adopted, failed, sys.superseded, now⟩ := by
  have hdeadline := h.deadline
  rcases hservice with hsame | hreset
  · refine ⟨?_, ?_⟩
    · show service.interval.period = _
      rw [hsame]
      exact h.period
    · show service.interval.deadline ≤ now + _
      rw [hsame]
      omega
  · refine ⟨?_, ?_⟩
    · show service.interval.period = _
      rw [hreset]
      exact h.period
    · show service.interval.deadline ≤ now + _
      rw [hreset]
      show now + fromSecs 5 ≤ now + fromSecs EPOCH_TIME_SECONDS
      exact Nat.add_le_add_left (by decide) now

theorem DueSoon.step {sys : ValidatorSystem} (h : DueSoon sys) {event : ValidatorEvent}
    (honwards : sys.Onwards event) : DueSoon (sys.step event) := by
  cases event with
  | poll now =>
    have hnow := honwards now rfl
    show DueSoon (sys.poll now)
    unfold poll
    split
    next => exact h
    next =>
      obtain ⟨-, hperiod, hdeadline⟩ := sys.service.interval.drain_deadline now triggerLoad sys
      have hbefore := h.deadline
      have hepoch := h.period
      refine ⟨hperiod.trans h.period, ?_⟩
      show (sys.service.interval.drain now triggerLoad sys).1.deadline ≤ now + _
      omega
  | receive now =>
    have hnow := honwards now rfl
    show DueSoon (sys.receive now)
    unfold receive
    split
    next => exact h
    next =>
      simp only
      split
      next => exact h.later hnow (.inl (by rfl)) _ _
      next =>
        split
        next => exact h.later hnow (.inl (by rfl)) _ _
        next => exact h.later hnow (.inr (by rfl)) _ _
        next => exact h.later hnow (.inr (by rfl)) _ _
        next => exact h.later hnow (.inl (by rfl)) _ _
        next => exact h.later hnow (.inl (by rfl)) _ _
  | load load answers => exact ⟨h.period, h.deadline⟩
  | loadPanics load => exact ⟨h.period, h.deadline⟩

/-- **The schedule is loaded again every epoch.** In a run in which time does not go
back, whatever the loads came to, a poll an epoch after the last one spawns a load. -/
theorem load_every_epoch (start : Nat) {events : List ValidatorEvent}
    (htimes : Along step Onwards (new start) events) :
    let sys := run step (new start) events
    ∀ t, sys.clock + fromSecs EPOCH_TIME_SECONDS ≤ t → sys.receiving = false →
      sys.loads.length < (sys.step (.poll t)).loads.length := by
  intro sys t hepoch hidle
  have h : DueSoon sys := by
    refine run_induct (fun _ _ honwards h => h.step honwards) events htimes ⟨rfl, ?_⟩
    show start ≤ start + fromSecs EPOCH_TIME_SECONDS
    omega
  exact poll_spawns hidle (Nat.le_trans h.deadline hepoch)

/-- A load that is superseded twice, and never answered. -/
theorem load_every_epoch_silent :
    let sys := run step (new 0) [.poll 0, .receive 1, .poll 768001, .receive 768002]
    (sys.superseded, sys.service.stateReceiver) = ([0, 1], some 2) ∧
    ∀ t, sys.clock + fromSecs EPOCH_TIME_SECONDS ≤ t → sys.receiving = false →
      sys.loads.length < (sys.step (.poll t)).loads.length :=
  ⟨by decide +kernel, load_every_epoch 0 (by decide +kernel)⟩

end ValidatorSystem

end BlockBuilder
