import BlockBuilder.Builder.Delivery

/-!
# One attempt per slot (`src/bin/builder/src/service.rs`)

The consensus layer announces a slot more than once, and the main service keeps
the slot it has processed, so that it starts one payload build and one auction
for each. A slot that cannot be built yet, because the parent block or the
validator's registration is missing, should be taken up by a later event.

But the slot is marked before the configuration is built. What decides is the
first event with a time that has not passed: if no configuration comes of it,
the slot is lost (`slot_started_iff`).

Mirroring notes:
- A poll drains the events and takes the last one; the others are gone.
-/

namespace BlockBuilder

open Lib (run run_cons run_append run_induct run_invariant along_of_forall)

/-- A poll of the main service: the events since the last poll, and what it reads. -/
structure BuilderPoll where
  events : List (EthPayloadBuilderAttributes × UInt64)
  inputs : BuilderInputs

namespace BuilderPoll

/-- The poll takes an event for the slot, at a time that has not passed. -/
def attempts (poll : BuilderPoll) (slot : UInt64) : Bool :=
  poll.events.getLast?.any fun event => event.2 = slot && poll.inputs.now < event.1.timestamp

/-- The configuration of the event it takes. -/
def configs (R : Reth) (payloadConfig : PayloadConfig) (poll : BuilderPoll) : Option BuildConfig :=
  poll.events.getLast?.bind fun event =>
    (BlockBuilderService.new payloadConfig .new).buildConfigs R poll.inputs event.1 event.2

/-- An attempt whose configuration can be built. -/
def viable (R : Reth) (payloadConfig : PayloadConfig) (slot : UInt64) (poll : BuilderPoll) : Bool :=
  poll.attempts slot && (poll.configs R payloadConfig).isSome

theorem attempts_unique {poll : BuilderPoll} {slot slot' : UInt64}
    (h : poll.attempts slot = true) (h' : poll.attempts slot' = true) : slot = slot' := by
  unfold attempts at h h'
  cases hlast : poll.events.getLast? with
  | none =>
    rw [hlast] at h
    cases h
  | some event =>
    rw [hlast] at h h'
    simp only [Option.any_some, Bool.and_eq_true, decide_eq_true_eq] at h h'
    exact h.1.symm.trans h'.1

end BuilderPoll

/-- The main service, with the payloads it has commanded and the auctions it has announced. -/
structure BuilderRun where
  service : BlockBuilderService
  builds : List BuildConfig
  auctions : List (UInt64 × UInt64)

namespace BuilderRun

def new (payloadConfig : PayloadConfig) (mevBundlesPool : BundlePool) : BuilderRun :=
  ⟨.new payloadConfig mevBundlesPool, [], []⟩

/-- `BlockBuilderService::poll`. -/
def poll (R : Reth) (sys : BuilderRun) (poll : BuilderPoll) : BuilderRun :=
  match poll.events.getLast? with
  | none => sys
  | some (attributes, slot) =>
    match sys.service.onAttributes R poll.inputs attributes slot with
    | (service, none) => { sys with service := service }
    | (service, some configs) =>
      { service := service
        builds := sys.builds ++ [configs]
        auctions := sys.auctions ++ [(slot, configs.blockNumber)] }

/-- `n` builds and `n` auctions were started for the slot. -/
structure Started (sys : BuilderRun) (slot : UInt64) (n : Nat) : Prop where
  builds : sys.builds.countP (·.slot = slot) = n
  auctions : sys.auctions.countP (·.1 = slot) = n

/-! ## One poll -/

/-- The poll takes on a slot: a build and an auction are started if it has a configuration. -/
structure TakesOn (R : Reth) (sys : BuilderRun) (poll : BuilderPoll) (slot : UInt64)
    (sys' : BuilderRun) : Prop where
  marked : sys'.service.slot = slot
  payloadConfig : sys'.service.payloadConfig = sys.service.payloadConfig
  builds : sys'.builds = sys.builds ++ (poll.configs R sys.service.payloadConfig).toList
  auctions : sys'.auctions = sys.auctions ++
    (poll.configs R sys.service.payloadConfig).toList.map fun configs => (slot, configs.blockNumber)

/-- A poll does nothing, unless it attempts a slot that is not the current one. -/
theorem poll_cases (R : Reth) (sys : BuilderRun) (poll : BuilderPoll) :
    (sys.poll R poll = sys ∧ ∀ slot, poll.attempts slot = true → sys.service.slot = slot) ∨
    ∃ slot, poll.attempts slot = true ∧ sys.service.slot ≠ slot ∧
      TakesOn R sys poll slot (sys.poll R poll) := by
  cases hlast : poll.events.getLast? with
  | none =>
    left
    unfold BuilderRun.poll BuilderPoll.attempts
    rw [hlast]
    exact ⟨rfl, fun _ h => by cases h⟩
  | some event =>
    obtain ⟨attributes, slot⟩ := event
    have hattempts : ∀ slot', poll.attempts slot' = true ↔
        slot = slot' ∧ poll.inputs.now < attributes.timestamp := by
      intro slot'
      unfold BuilderPoll.attempts
      rw [hlast]
      simp
    have hpoll : sys.poll R poll =
        match sys.service.onAttributes R poll.inputs attributes slot with
        | (service, none) => { sys with service := service }
        | (service, some configs) =>
          ⟨service, sys.builds ++ [configs], sys.auctions ++ [(slot, configs.blockNumber)]⟩ := by
      unfold BuilderRun.poll
      rw [hlast]
    have hconfigs : poll.configs R sys.service.payloadConfig =
        (BlockBuilderService.new sys.service.payloadConfig .new).buildConfigs R poll.inputs
          attributes slot := by
      unfold BuilderPoll.configs
      rw [hlast]
      rfl
    by_cases hcurrent : sys.service.slot = slot
    · left
      rw [hpoll, BlockBuilderService.onAttributes, if_pos hcurrent]
      refine ⟨rfl, fun slot' h => ?_⟩
      rw [hcurrent]
      exact ((hattempts slot').mp h).1
    · by_cases hpassed : attributes.timestamp ≤ poll.inputs.now
      · left
        rw [hpoll, BlockBuilderService.onAttributes, if_neg hcurrent, if_pos hpassed]
        exact ⟨rfl, fun slot' h => absurd ((hattempts slot').mp h).2 (UInt64.not_lt.mpr hpassed)⟩
      · right
        refine ⟨slot, (hattempts slot).mpr ⟨rfl, UInt64.not_le.mp hpassed⟩, hcurrent, ?_⟩
        have hbuilt : ({ sys.service with slot := slot } : BlockBuilderService).buildConfigs R
            poll.inputs attributes slot = poll.configs R sys.service.payloadConfig :=
          hconfigs.symm
        rw [hpoll, BlockBuilderService.onAttributes, if_neg hcurrent, if_neg hpassed]
        simp only [hbuilt]
        cases hsome : poll.configs R sys.service.payloadConfig with
        | none => exact ⟨rfl, rfl, by simp [hsome], by simp [hsome]⟩
        | some configs => exact ⟨rfl, rfl, by simp [hsome], by simp [hsome]⟩

/-- A configuration is for the slot that is attempted. -/
theorem configs_slot {R : Reth} {payloadConfig : PayloadConfig} {poll : BuilderPoll}
    {slot : UInt64} {configs : BuildConfig} (hattempts : poll.attempts slot = true)
    (h : poll.configs R payloadConfig = some configs) : configs.slot = slot := by
  unfold BuilderPoll.configs at h
  unfold BuilderPoll.attempts at hattempts
  obtain ⟨event, hlast, hbuilt⟩ := Option.bind_eq_some_iff.mp h
  rw [hlast] at hattempts
  simp only [Option.any_some, Bool.and_eq_true, decide_eq_true_eq] at hattempts
  rw [← hattempts.1]
  unfold BlockBuilderService.buildConfigs at hbuilt
  split at hbuilt
  next => cases hbuilt
  next =>
    split at hbuilt
    next => cases hbuilt
    next =>
      cases hbuilt
      rfl

/-- What a poll that takes on a slot adds to the starts of this slot or another. -/
theorem Started.takesOn {R : Reth} {sys sys' : BuilderRun} {poll : BuilderPoll}
    {slot slot' : UInt64} {n : Nat} (h : sys.Started slot n) (hattempts : poll.attempts slot' = true)
    (htakes : TakesOn R sys poll slot' sys') :
    sys'.Started slot
      (n + if slot' = slot ∧ (poll.configs R sys.service.payloadConfig).isSome then 1 else 0) := by
  have hbuilds := htakes.builds
  have hauctions := htakes.auctions
  cases hsome : poll.configs R sys.service.payloadConfig with
  | none =>
    rw [hsome] at hbuilds hauctions
    constructor
    · simpa [hbuilds] using h.builds
    · simpa [hauctions] using h.auctions
  | some configs =>
    have hslot := configs_slot hattempts hsome
    rw [hsome] at hbuilds hauctions
    constructor
    · simp [hbuilds, List.countP_append, List.countP_singleton, h.builds, hslot]
    · simp [hauctions, List.countP_append, List.countP_singleton, h.auctions]

/-! ## Many polls -/

/-- Polls that do not attempt a slot start nothing for it. -/
theorem Started.others (R : Reth) {slot : UInt64} {n : Nat} {polls : List BuilderPoll}
    {sys : BuilderRun} (hothers : ∀ poll ∈ polls, poll.attempts slot = false)
    (h : sys.Started slot n) : (run (BuilderRun.poll R) sys polls).Started slot n := by
  refine run_induct (I := fun sys => Started sys slot n) (fun sys poll hattempts h => ?_) polls
    (along_of_forall hothers) h
  rcases sys.poll_cases R poll with ⟨hsame, -⟩ | ⟨slot', hattempts', -, htakes⟩
  · rw [hsame]
    exact h
  · have hne : slot' ≠ slot := by
      intro heq
      rw [heq, hattempts] at hattempts'
      cases hattempts'
    simpa [hne] using h.takesOn hattempts' htakes

/-- A slot that is marked is left alone by polls that attempt no other. -/
theorem run_marked {R : Reth} {slot : UInt64} {polls : List BuilderPoll} {sys : BuilderRun}
    (honly : ∀ poll ∈ polls, ∀ other, poll.attempts other = true → other = slot)
    (hmarked : sys.service.slot = slot) : run (BuilderRun.poll R) sys polls = sys := by
  refine run_induct (I := fun sys' => sys' = sys) (fun sys' poll hattempts h => ?_) polls
    (along_of_forall honly) rfl
  rw [h]
  rcases sys.poll_cases R poll with ⟨hsame, -⟩ | ⟨slot', hattempts', hne, -⟩
  · exact hsame
  · rw [hattempts slot' hattempts'] at hne
    exact absurd hmarked hne

theorem payloadConfig_run {R : Reth} (polls : List BuilderPoll) (sys : BuilderRun) :
    (run (BuilderRun.poll R) sys polls).service.payloadConfig = sys.service.payloadConfig := by
  refine run_invariant (I := fun sys' : BuilderRun => sys'.service.payloadConfig = sys.service.payloadConfig)
    (fun sys' poll h => ?_) polls rfl
  rcases sys'.poll_cases R poll with ⟨hsame, -⟩ | ⟨slot', -, -, htakes⟩
  · rw [hsame]
    exact h
  · exact htakes.payloadConfig.trans h

/-- **The first attempt decides.** Polls that attempt one slot only start what the first
attempt has a configuration for, if the slot is not marked yet. -/
theorem Started.stretch (R : Reth) {slot : UInt64} {n : Nat} :
    ∀ {polls : List BuilderPoll} {sys : BuilderRun},
      (∀ poll ∈ polls, ∀ other, poll.attempts other = true → other = slot) →
      sys.Started slot n →
      (run (BuilderRun.poll R) sys polls).Started slot
        (n + if sys.service.slot ≠ slot ∧ ((polls.find? (·.attempts slot)).any
          (BuilderPoll.viable R sys.service.payloadConfig slot)) = true then 1 else 0) := by
  intro polls
  induction polls with
  | nil =>
    intro sys _ h
    simpa using h
  | cons poll polls ih =>
    intro sys honly h
    have honly' : ∀ poll' ∈ polls, ∀ other, poll'.attempts other = true → other = slot :=
      fun poll' hpoll' => honly poll' (List.mem_cons_of_mem poll hpoll')
    rw [run_cons]
    rcases sys.poll_cases R poll with ⟨hsame, hmarked⟩ | ⟨slot', hattempts, hne, htakes⟩
    · rw [hsame]
      cases hattempts : poll.attempts slot with
      | true =>
        have hslot := hmarked slot hattempts
        rw [run_marked honly' hslot]
        simpa [hslot] using h
      | false =>
        rw [List.find?_cons, hattempts]
        exact ih honly' h
    · have hslot := honly poll List.mem_cons_self slot' hattempts
      subst hslot
      rw [run_marked honly' htakes.marked, List.find?_cons, hattempts]
      have hstarted := h.takesOn hattempts htakes
      simpa [hne, BuilderPoll.viable, hattempts] using hstarted

/-- **When a failed attempt does not consume the slot.** In a run in which no other slot
is processed between the attempts for a slot, exactly one build and one auction are
started for it if an attempt is viable, and none otherwise, if and only if no attempt is
viable or the slot is not the one the service is at and its first attempt is. -/
theorem slot_started_iff (R : Reth) (payloadConfig : PayloadConfig) (mevBundlesPool : BundlePool)
    (slot : UInt64) {before stretch after : List BuilderPoll}
    (hbefore : ∀ poll ∈ before, poll.attempts slot = false)
    (hstretch : ∀ poll ∈ stretch, ∀ other, poll.attempts other = true → other = slot)
    (hafter : ∀ poll ∈ after, poll.attempts slot = false) :
    (run (poll R) (new payloadConfig mevBundlesPool) (before ++ stretch ++ after)).Started slot
        (if stretch.any (BuilderPoll.viable R payloadConfig slot) then 1 else 0) ↔
      (∀ poll ∈ stretch, poll.viable R payloadConfig slot = false) ∨
      ((run (poll R) (new payloadConfig mevBundlesPool) before).service.slot ≠ slot ∧
        ((stretch.find? (·.attempts slot)).any (BuilderPoll.viable R payloadConfig slot)) =
          true) := by
  have hnew : (new payloadConfig mevBundlesPool).Started slot 0 := ⟨rfl, rfl⟩
  have hstarted := ((hnew.others R hbefore).stretch R hstretch).others R hafter
  have hconfig : (new payloadConfig mevBundlesPool).service.payloadConfig = payloadConfig := rfl
  rw [payloadConfig_run, hconfig, ← run_append, ← run_append, ← List.append_assoc,
    Nat.zero_add] at hstarted
  -- a first attempt that is viable is an attempt that is viable
  have hfirst : ((stretch.find? (·.attempts slot)).any (BuilderPoll.viable R payloadConfig slot)) =
      true → stretch.any (BuilderPoll.viable R payloadConfig slot) = true := by
    intro h
    obtain ⟨poll, hfind, hviable⟩ := (Option.any_eq_true ..).mp h
    exact List.any_eq_true.mpr ⟨poll, List.mem_of_find?_eq_some hfind, hviable⟩
  cases hany : stretch.any (BuilderPoll.viable R payloadConfig slot) with
  | false =>
    have hnone : ∀ poll ∈ stretch, poll.viable R payloadConfig slot = false := by
      simpa using List.any_eq_false.mp hany
    refine iff_of_true ?_ (.inl hnone)
    rw [if_neg fun h => Bool.false_ne_true (hany.symm.trans (hfirst h.2))] at hstarted
    exact hstarted
  | true =>
    obtain ⟨poll, hmem, hviable⟩ := List.any_eq_true.mp hany
    rw [if_pos rfl]
    constructor
    · intro hone
      by_cases h : (run (BuilderRun.poll R) (new payloadConfig mevBundlesPool) before).service.slot ≠
          slot ∧ ((stretch.find? (·.attempts slot)).any
            (BuilderPoll.viable R payloadConfig slot)) = true
      · exact .inr h
      · rw [if_neg h] at hstarted
        exact absurd (hone.builds.symm.trans hstarted.builds) Nat.one_ne_zero
    · intro h
      rcases h with hnone | hdecides
      · rw [hnone poll hmem] at hviable
        cases hviable
      · rw [if_pos hdecides] at hstarted
        exact hstarted

/-- A poll that finds the attributes of slot 1 and what is known of its proposer. -/
def transferPoll (validatorInfo : UInt64 → Option ValidatorScheduleSlotInfo) : BuilderPoll :=
  ⟨[(transferAttributes 4, 1)], { BuilderSystem.transferInputs with validatorInfo := validatorInfo }⟩

/-- A slot that is announced three times, and can be built from the first on. -/
theorem slot_started_transfer :
    let registered := transferPoll BuilderSystem.transferInputs.validatorInfo
    (run (poll transferChain) (new transferConfig .new)
      ([] ++ [registered, registered, registered] ++ [])).Started 1
      (if [registered, registered, registered].any
        (BuilderPoll.viable transferChain transferConfig 1) then 1 else 0) :=
  (slot_started_iff transferChain transferConfig .new 1 (by decide)
    (fun poll hpoll other hother => by
      have h : poll = transferPoll BuilderSystem.transferInputs.validatorInfo := by simpa using hpoll
      rw [h] at hother
      exact (BuilderPoll.attempts_unique hother (by decide)))
    (by decide)).mpr (.inr (by decide +kernel))

/-- The proposer is registered after the first event: the slot is never built. -/
theorem slot_consumed :
    let unregistered := transferPoll fun _ => none
    let registered := transferPoll BuilderSystem.transferInputs.validatorInfo
    let sys := run (poll transferChain) (new transferConfig .new) [unregistered, registered]
    registered.viable transferChain transferConfig 1 = true ∧ sys.builds.length = 0 ∧
    sys.auctions.length = 0 ∧
    ¬ (sys.builds.countP (·.slot = 1) = 1 ∧ sys.auctions.countP (·.1 = 1) = 1) := by
  decide +kernel

end BuilderRun

end BlockBuilder
