import BlockBuilder.Builder.System
import BlockBuilder.Lib.Simulation
import BlockBuilder.Payload.ServiceRuns
import BlockBuilder.Payload.Uncancelled

/-!
# The payload service of the builder

The payload service is generic in its jobs, and what it keeps of them is known for
any jobs and any commands. In the builder its jobs share one list of tasks with
each other, its handle is only used to command payloads, and a stream job answers
no other command: `best_payload` and `resolve` of it are `unimplemented!()`.

`simulates_service` reads the builder as a run of the service alone, which is one
and the same but for the job that is in the middle of a poll. So what holds of the
service on its own (`JobsExact`) holds in the builder, where `payload_service_sound`
adds what the service alone cannot promise.
-/

namespace BlockBuilder

open Lib (Channel Simulates run run_invariant)

namespace PayloadBuilderService

/-! ## The tasks that are waited for -/

/-- The jobs of the service, the one being polled among them. -/
def held {Job : Type} (service : PayloadBuilderService Job) : List Job :=
  service.payloadJobs.map (·.1) ++
    match service.phase with
    | .polling _ job _ => [job]
    | _ => []

/-- Taking a job out leaves it among the jobs held. -/
theorem held_takeJob {Job : Type} {service : PayloadBuilderService Job} {idx : Nat}
    (hphase : service.phase = .jobs idx) (halive : (service.takeJob idx).phase ≠ .panicked) :
    (service.takeJob idx).held.Perm service.held := by
  have hheld : service.held = service.payloadJobs.map (·.1) := by
    unfold held
    rw [hphase]
    exact List.append_nil _
  rw [hheld]
  unfold takeJob at halive ⊢
  split
  next idx =>
    simp only at halive ⊢
    split
    next job id rest htaken =>
      have hlt : idx < service.payloadJobs.length := by
        unfold swapRemove at htaken
        split at htaken
        next hget _ => exact (List.getElem?_eq_some_iff.mp hget).1
        next => cases htaken
      obtain ⟨a, rest', htaken', -, hperm, -⟩ := swapRemove_spec hlt
      cases htaken.symm.trans htaken'
      exact (List.perm_append_singleton job _).trans (hperm.map Prod.fst).symm
    next hnone =>
      rw [hnone] at halive
      exact absurd rfl halive
  next => exact .of_eq (List.append_nil _)

/-- The tasks the jobs wait for. -/
def awaited (service : PayloadBuilderService StreamBuildJob) : List Nat :=
  service.held.filterMap (·.pendingBuild)

end PayloadBuilderService

/-- No two jobs wait for one task, and each for a task there is. -/
structure AwaitsOnce (builds : List BuildTask) (payload : PayloadBuilderService StreamBuildJob) :
    Prop where
  once : payload.awaited.Nodup
  tasks : ∀ index ∈ payload.awaited, index < builds.length

namespace AwaitsOnce

variable {builds : List BuildTask} {payload payload' : PayloadBuilderService StreamBuildJob}

/-- Fewer tasks are waited for, or the same in another order. -/
theorem of_subperm (h : AwaitsOnce builds payload)
    (hsub : payload'.awaited.Subperm payload.awaited) : AwaitsOnce builds payload' := by
  refine ⟨?_, fun index hindex => h.tasks index (hsub.subset hindex)⟩
  obtain ⟨awaited, hperm, hsublist⟩ := hsub
  exact hperm.nodup_iff.mp (hsublist.nodup h.once)

theorem of_length (h : AwaitsOnce builds payload) {builds' : List BuildTask}
    (hlength : builds'.length = builds.length) : AwaitsOnce builds' payload where
  once := h.once
  tasks index hindex := by
    rw [hlength]
    exact h.tasks index hindex

/-- **A job that waits for nothing spawns a task of its own.** -/
theorem spawnBuild (h : AwaitsOnce builds payload) {idx : Nat} {job : StreamBuildJob}
    {id : PayloadId} (hphase : payload.phase = .polling idx job id) :
    AwaitsOnce (job.spawnBuild builds).2
      { payload with phase := .polling idx (job.spawnBuild builds).1 id } := by
  unfold StreamBuildJob.spawnBuild
  split
  next hnone =>
    have hawaited : payload.awaited = (payload.payloadJobs.map (·.1)).filterMap (·.pendingBuild) := by
      unfold PayloadBuilderService.awaited PayloadBuilderService.held
      rw [hphase, List.filterMap_append]
      simp [hnone]
    have hspawned : PayloadBuilderService.awaited
        { payload with phase := .polling idx { job with pendingBuild := some builds.length } id } =
          payload.awaited ++ [builds.length] := by
      rw [hawaited]
      exact List.filterMap_append
    refine ⟨?_, fun index hindex => ?_⟩
    · rw [hspawned]
      refine List.nodup_append.mpr ⟨h.once, List.nodup_singleton _, fun index hindex other hother => ?_⟩
      rw [List.mem_singleton.mp hother]
      exact Nat.ne_of_lt (h.tasks index hindex)
    · rw [hspawned] at hindex
      rw [List.length_append, List.length_singleton]
      rcases List.mem_append.mp hindex with hold | hnew
      · have hlt := h.tasks index hold
        omega
      · rw [List.mem_singleton.mp hnew]
        exact Nat.lt_succ_self _
  next =>
    have hsame : { payload with phase := .polling idx job id } = payload := by
      rw [← hphase]
    rw [hsame]
    exact h

/-- A job that is done with its task, or not there any more. -/
theorem putBack (h : AwaitsOnce builds payload) {idx : Nat} {job : StreamBuildJob} {id : PayloadId}
    (hphase : payload.phase = .polling idx job id) {poll : JobPoll StreamBuildJob}
    (hpoll : ∀ job', poll = .pending job' → job'.pendingBuild = none ∨
      job'.pendingBuild = job.pendingBuild) : AwaitsOnce builds (payload.putBack idx id poll) := by
  have hawaited : payload.awaited = (payload.payloadJobs.map (·.1)).filterMap (·.pendingBuild) ++
      job.pendingBuild.toList := by
    unfold PayloadBuilderService.awaited PayloadBuilderService.held
    rw [hphase, List.filterMap_append]
    cases hpending : job.pendingBuild with
    | none => simp [hpending]
    | some index => simp [hpending]
  refine h.of_subperm (List.Sublist.subperm ?_)
  rw [hawaited]
  cases poll with
  | ready result =>
    have hready : (payload.putBack idx id (.ready result)).held = payload.payloadJobs.map (·.1) :=
      List.append_nil _
    unfold PayloadBuilderService.awaited
    rw [hready]
    exact List.sublist_append_left _ _
  | pending job' =>
    have hput : (payload.putBack idx id (.pending job')).held =
        (payload.payloadJobs ++ [(job', id)]).map (·.1) := List.append_nil _
    unfold PayloadBuilderService.awaited
    rw [hput, List.map_append, List.filterMap_append]
    refine (List.Sublist.refl _).append ?_
    rcases hpoll job' rfl with hnone | hsame
    · simp [hnone]
    · cases hpending : job.pendingBuild with
      | none => simp [hsame, hpending]
      | some index => simp [hsame, hpending]

end AwaitsOnce

/-! ## A run of the service -/

namespace BuilderSystem

section Service

variable {P : Type}

/-- A run of the service alone in the same state, but for the job that is polled. -/
def Serves (sys : BuilderSystem P) (r : ServiceRun StreamBuildJob) : Prop :=
  r.service = sys.payload ∨ ∃ idx job job' id, sys.payload.phase = .polling idx job id ∧
    r.service = { sys.payload with phase := .polling idx job' id }

theorem Serves.of_phase {sys : BuilderSystem P} {r : ServiceRun StreamBuildJob} (h : sys.Serves r)
    (hphase : ∀ idx job id, sys.payload.phase ≠ .polling idx job id) : r.service = sys.payload := by
  rcases h with heq | ⟨idx, job, -, id, hpolling, -⟩
  · exact heq
  · exact absurd hpolling (hphase idx job id)

theorem Serves.of_polling {sys : BuilderSystem P} {r : ServiceRun StreamBuildJob} (h : sys.Serves r)
    {idx : Nat} {job : StreamBuildJob} {id : PayloadId} (hphase : sys.payload.phase = .polling idx job id) :
    ∃ job', r.service = { sys.payload with phase := .polling idx job' id } := by
  rcases h with heq | ⟨idx', job', job'', id', hpolling, heq⟩
  · refine ⟨job, ?_⟩
    rw [heq, ← hphase]
  · cases hphase.symm.trans hpolling
    exact ⟨job'', heq⟩

/-- A turn of the service that puts a job back. -/
theorem step_polling {r : ServiceRun StreamBuildJob} {idx : Nat} {job : StreamBuildJob}
    {id : PayloadId} (hphase : r.service.phase = .polling idx job id) (poll : JobPoll StreamBuildJob)
    (newPayloadJob : BuildConfig → Except PayloadBuilderError StreamBuildJob) :
    (r.step (.turn poll newPayloadJob)).service = r.service.putBack idx id poll := by
  unfold ServiceRun.step
  simp only
  rw [hphase]

/-- A turn of the service that takes a job. -/
theorem step_jobs {r : ServiceRun StreamBuildJob} {idx : Nat} (hphase : r.service.phase = .jobs idx)
    (poll : JobPoll StreamBuildJob)
    (newPayloadJob : BuildConfig → Except PayloadBuilderError StreamBuildJob) :
    (r.step (.turn poll newPayloadJob)).service = r.service.takeJob idx := by
  unfold ServiceRun.step
  simp only
  rw [hphase]

/-- A turn of the service that receives a command. -/
theorem step_commands {r : ServiceRun StreamBuildJob} (hphase : r.service.phase = .commands)
    (poll : JobPoll StreamBuildJob)
    (newPayloadJob : BuildConfig → Except PayloadBuilderError StreamBuildJob) :
    (r.step (.turn poll newPayloadJob)).service = r.service.receive newPayloadJob := by
  unfold ServiceRun.step
  simp only
  rw [hphase]
  simp only
  split
  next => rfl
  next => rfl

theorem Serves.pollJob {sys : BuilderSystem P} {r : ServiceRun StreamBuildJob} (h : sys.Serves r)
    {idx : Nat} (hphase : sys.payload.phase = .jobs idx) (deadlineReached : Bool) :
    ∃ events, (sys.pollJob idx deadlineReached).Serves (run ServiceRun.step r events) := by
  have hservice := h.of_phase fun idx job id hpolling => by
    rw [hphase] at hpolling
    cases hpolling
  have hjobs : r.service.phase = .jobs idx := by rw [hservice, hphase]
  have htaken := step_jobs hjobs (.ready (.ok ())) sys.generator.newPayloadJob
  rw [hservice] at htaken
  unfold BuilderSystem.pollJob
  simp only
  split
  next idx' job id hpolling =>
    split
    next =>
      refine ⟨[.turn (.ready (.ok ())) sys.generator.newPayloadJob,
        .turn (.ready (.ok ())) sys.generator.newPayloadJob], .inl ?_⟩
      rw [← htaken] at hpolling
      refine (step_polling hpolling _ _).trans ?_
      rw [htaken]
    next =>
      refine ⟨[.turn (.ready (.ok ())) sys.generator.newPayloadJob], .inr ?_⟩
      exact ⟨idx', _, job, id, rfl, by rw [← hpolling]; exact htaken⟩
  next => exact ⟨[.turn (.ready (.ok ())) sys.generator.newPayloadJob], .inl htaken⟩

variable [BidSelectionPolicy P]

theorem Serves.pollPending (R : Reth) {sys : BuilderSystem P} {r : ServiceRun StreamBuildJob}
    (h : sys.Serves r) {idx : Nat} {job : StreamBuildJob} {id : PayloadId}
    (hphase : sys.payload.phase = .polling idx job id) :
    ∃ events, (sys.pollPending R idx job id).Serves (run ServiceRun.step r events) := by
  obtain ⟨job', hservice⟩ := h.of_polling hphase
  have hpolling : r.service.phase = .polling idx job' id := by rw [hservice]
  have hput : ∀ polled : StreamBuildJob,
      (r.step (.turn (.pending polled) sys.generator.newPayloadJob)).service =
        sys.payload.putBack idx id (.pending polled) := by
    intro polled
    rw [step_polling hpolling, hservice]
    rfl
  unfold BuilderSystem.pollPending
  split
  next polled _ => exact ⟨[.turn (.pending polled) sys.generator.newPayloadJob], .inl (hput polled)⟩
  next polled _ _ => exact ⟨[.turn (.pending polled) sys.generator.newPayloadJob], .inl (hput polled)⟩

/-- **The builder is a run of the payload service**, and of other things beside it. -/
theorem simulates_service (R : Reth) :
    Simulates (step (P := P) R) ServiceRun.step Serves := by
  intro sys r event h
  cases event with
  | attributes attributes slot => exact ⟨[], h⟩
  | consensusLayerEnds => exact ⟨[], h⟩
  | bundlePool op => exact ⟨[], h⟩
  | pollBuilder inputs =>
    show ∃ events, (sys.pollBuilder R inputs).Serves (run ServiceRun.step r events)
    unfold BuilderSystem.pollBuilder
    split
    next => exact ⟨[], h⟩
    next =>
      split
      next => exact ⟨[], h⟩
      next =>
        simp only
        split
        next => exact ⟨[], h⟩
        next _ configs _ =>
          refine ⟨[.send (.buildNewPayload configs)], ?_⟩
          have hsent : (r.step (.send (.buildNewPayload configs))).service =
              r.service.buildNewPayload configs := rfl
          rcases h with heq | ⟨idx, job, job', id, hpolling, heq⟩
          · refine .inl (hsent.trans ?_)
            rw [heq]
          · refine .inr ⟨idx, job, job', id, hpolling, hsent.trans ?_⟩
            rw [heq]
            rfl
  | announce =>
    show ∃ events, (sys.announce R).Serves (run ServiceRun.step r events)
    unfold BuilderSystem.announce
    split
    next => exact ⟨[], h⟩
    next => exact ⟨[], h⟩
  | pollPayload deadlineReached =>
    show ∃ events, (sys.pollPayload R deadlineReached).Serves (run ServiceRun.step r events)
    unfold BuilderSystem.pollPayload
    split
    next idx hphase => exact h.pollJob hphase deadlineReached
    next idx job id hphase => exact h.pollPending R hphase
    next hphase =>
      have hservice := h.of_phase fun idx job id hpolling => by
        rw [hphase] at hpolling
        cases hpolling
      refine ⟨[.turn (.ready (.ok ())) sys.generator.newPayloadJob], .inl ?_⟩
      refine (step_commands (by rw [hservice, hphase]) _ _).trans ?_
      rw [hservice]
    next => exact ⟨[], h⟩
  | build task client pool acquired buildId =>
    show ∃ events, (sys.build R task client pool acquired buildId).Serves (run ServiceRun.step r events)
    unfold BuilderSystem.build
    split
    next => exact ⟨[], h⟩
    next => exact ⟨[], h⟩
  | buildPanics task =>
    show ∃ events, (sys.buildPanics task).Serves (run ServiceRun.step r events)
    unfold BuilderSystem.buildPanics
    split
    next => exact ⟨[], h⟩
    next => exact ⟨[], h⟩
  | bidder event =>
    simp only [BuilderSystem.step]
    split
    next => exact ⟨[], h⟩
    next => exact ⟨[], h⟩

end Service

/-! ## In the builder -/

section Sound

variable {P : Type}

/-- What holds of the payload service between two steps of the builder. -/
structure PayloadSound (sys : BuilderSystem P) : Prop where
  service : ∃ r, sys.Serves r ∧ JobsExact r
  alive : sys.payload.phase ≠ .panicked
  commands : ∀ cmd ∈ sys.payload.commandRx.queue, ∃ config, cmd = .buildNewPayload config
  awaits : AwaitsOnce sys.builds sys.payload

namespace PayloadSound

variable {sys : BuilderSystem P}

/-- A pass takes a job that is there. -/
theorem takeJob (h : PayloadSound sys) {idx : Nat} (hphase : sys.payload.phase = .jobs idx) :
    (sys.payload.takeJob idx).phase ≠ .panicked := by
  obtain ⟨r, hserves, hexact⟩ := h.service
  have hservice := hserves.of_phase fun idx job id hpolling => by
    rw [hphase] at hpolling
    cases hpolling
  have hjobs : r.service.phase = .jobs idx := by rw [hservice, hphase]
  have halive := (hexact.takeJob hjobs).2
  rw [hservice] at halive
  exact halive

/-- The payload service is as it was, and so are its tasks but for what they have come to. -/
theorem same (h : PayloadSound sys) {sys' : BuilderSystem P} (hpayload : sys'.payload = sys.payload)
    (hbuilds : sys'.builds.length = sys.builds.length) :
    sys'.payload.phase ≠ .panicked ∧
    (∀ cmd ∈ sys'.payload.commandRx.queue, ∃ config, cmd = .buildNewPayload config) ∧
    AwaitsOnce sys'.builds sys'.payload := by
  rw [hpayload]
  exact ⟨h.alive, h.commands, h.awaits.of_length hbuilds⟩

theorem pollJob (h : PayloadSound sys) {idx : Nat} (hphase : sys.payload.phase = .jobs idx)
    (deadlineReached : Bool) :
    (sys.pollJob idx deadlineReached).payload.phase ≠ .panicked ∧
    (sys.pollJob idx deadlineReached).payload.commandRx = sys.payload.commandRx ∧
    AwaitsOnce (sys.pollJob idx deadlineReached).builds (sys.pollJob idx deadlineReached).payload := by
  have halive := h.takeJob hphase
  have htaken : AwaitsOnce sys.builds (sys.payload.takeJob idx) :=
    h.awaits.of_subperm
      ((PayloadBuilderService.held_takeJob hphase halive).filterMap StreamBuildJob.pendingBuild).subperm
  have hcommands := sys.payload.takeJob_commandRx idx
  unfold BuilderSystem.pollJob
  simp only
  split
  next idx' job id hpolling =>
    split
    next =>
      have hput : AwaitsOnce sys.builds ((sys.payload.takeJob idx).putBack idx' id (.ready (.ok ()))) :=
        htaken.putBack hpolling fun job' hpoll => by cases hpoll
      exact ⟨fun hpanicked => (by cases hpanicked), hcommands, hput⟩
    next => exact ⟨fun hpanicked => (by cases hpanicked), hcommands, htaken.spawnBuild hpolling⟩
  next => exact ⟨halive, hcommands, htaken⟩

/-- A command for a new payload adds a job that waits for nothing, or none. -/
theorem onBuildNewPayload (generator : StreamJobGenerator)
    (service : PayloadBuilderService StreamBuildJob) (config : BuildConfig) :
    ∃ added, service.onCommand generator.newPayloadJob (.buildNewPayload config) =
        { service with payloadJobs := service.payloadJobs ++ added } ∧
      ∀ job ∈ added, job.1.pendingBuild = none := by
  unfold PayloadBuilderService.onCommand
  simp only
  split
  next =>
    refine ⟨[], ?_, fun job hnil => by cases hnil⟩
    rw [List.append_nil]
  next =>
    refine ⟨[(_, config.attributes.id)], rfl, fun job hjob => ?_⟩
    rw [List.mem_singleton.mp hjob]

/-- **A command is for a new payload**, which a job is made for or which there is one for. -/
theorem receive (h : PayloadSound sys) (hphase : sys.payload.phase = .commands) :
    let payload := sys.payload.receive sys.generator.newPayloadJob
    payload.phase ≠ .panicked ∧
    (∀ cmd ∈ payload.commandRx.queue, ∃ config, cmd = .buildNewPayload config) ∧
    AwaitsOnce sys.builds payload := by
  have hheld : sys.payload.held = sys.payload.payloadJobs.map (·.1) := by
    unfold PayloadBuilderService.held
    rw [hphase]
    exact List.append_nil _
  unfold PayloadBuilderService.receive
  split
  next cmd rest hrecv =>
    have hqueue := Channel.pollRecv_message hrecv
    obtain ⟨config, rfl⟩ := h.commands cmd (hqueue ▸ List.mem_cons_self)
    have hrest : ∀ cmd ∈ rest.queue, ∃ config, cmd = PayloadServiceCommand.buildNewPayload config :=
      fun other hother => h.commands other (hqueue ▸ List.mem_cons_of_mem _ hother)
    obtain ⟨added, honCommand, hadded⟩ :=
      onBuildNewPayload sys.generator { sys.payload with commandRx := rest } config
    rw [honCommand]
    refine ⟨?_, hrest, h.awaits.of_subperm (List.Sublist.subperm ?_)⟩
    · show sys.payload.phase ≠ .panicked
      exact h.alive
    · have hnone : (added.map (·.1)).filterMap StreamBuildJob.pendingBuild = [] := by
        refine List.filterMap_eq_nil_iff.mpr fun job hjob => ?_
        obtain ⟨entry, hentry, rfl⟩ := List.mem_map.mp hjob
        exact hadded entry hentry
      unfold PayloadBuilderService.awaited
      rw [hheld]
      unfold PayloadBuilderService.held
      rw [hphase, List.append_nil, List.map_append, List.filterMap_append, hnone, List.append_nil]
  next =>
    refine ⟨fun hpanicked => (by cases hpanicked), h.commands, h.awaits.of_subperm (List.Sublist.subperm ?_)⟩
    unfold PayloadBuilderService.awaited
    rw [hheld]
    unfold PayloadBuilderService.held
    rw [List.append_nil]

variable [BidSelectionPolicy P]

theorem pollPending (R : Reth) (h : PayloadSound sys) {idx : Nat} {job : StreamBuildJob}
    {id : PayloadId} (hphase : sys.payload.phase = .polling idx job id) :
    (sys.pollPending R idx job id).payload.phase ≠ .panicked ∧
    (sys.pollPending R idx job id).payload.commandRx = sys.payload.commandRx ∧
    AwaitsOnce (sys.pollPending R idx job id).builds (sys.pollPending R idx job id).payload := by
  have hpending : (job.pollPending sys.builds).1.pendingBuild = none ∨
      (job.pollPending sys.builds).1.pendingBuild = job.pendingBuild := by
    unfold StreamBuildJob.pollPending
    split
    next => exact .inl rfl
    next => exact .inl rfl
    next => exact .inl rfl
    next => exact .inl rfl
    next => exact .inl rfl
    next => exact .inr rfl
    next => exact .inr rfl
  have hput : AwaitsOnce sys.builds
      (sys.payload.putBack idx id (.pending (job.pollPending sys.builds).1)) :=
    h.awaits.putBack hphase fun job' hpoll => by
      cases hpoll
      exact hpending
  unfold BuilderSystem.pollPending
  split
  next polled hpoll =>
    rw [hpoll] at hput
    exact ⟨fun hpanicked => (by cases hpanicked), rfl, hput⟩
  next polled bs hpoll =>
    rw [hpoll] at hput
    exact ⟨fun hpanicked => (by cases hpanicked), rfl, hput⟩

/-- **Every event of the builder keeps it.** -/
theorem step (R : Reth) (h : PayloadSound sys) (event : SystemEvent) : PayloadSound (sys.step R event) := by
  obtain ⟨r, hserves, hexact⟩ := h.service
  obtain ⟨events, hmatched⟩ := simulates_service R sys r event hserves
  suffices hrest : (sys.step R event).payload.phase ≠ .panicked ∧
      (∀ cmd ∈ (sys.step R event).payload.commandRx.queue, ∃ config, cmd = .buildNewPayload config) ∧
      AwaitsOnce (sys.step R event).builds (sys.step R event).payload from
    ⟨⟨_, hmatched, run_invariant jobsExact_step events hexact⟩, hrest.1, hrest.2.1, hrest.2.2⟩
  cases event with
  | attributes attributes slot => exact h.same rfl rfl
  | consensusLayerEnds => exact h.same rfl rfl
  | bundlePool op => exact h.same rfl rfl
  | pollBuilder inputs =>
    simp only [BuilderSystem.step]
    unfold BuilderSystem.pollBuilder
    split
    next => exact h.same rfl rfl
    next =>
      split
      next => exact h.same rfl rfl
      next attributes slot hlast =>
        simp only
        split
        next => exact h.same rfl rfl
        next _ configs _ =>
          refine ⟨h.alive, fun cmd hcmd => ?_, h.awaits.once, h.awaits.tasks⟩
          rcases List.mem_append.mp hcmd with hold | hnew
          · exact h.commands cmd hold
          · exact ⟨configs, List.mem_singleton.mp hnew⟩
  | announce =>
    simp only [BuilderSystem.step]
    unfold BuilderSystem.announce
    split
    next => exact h.same rfl rfl
    next => exact h.same rfl rfl
  | pollPayload deadlineReached =>
    simp only [BuilderSystem.step]
    unfold BuilderSystem.pollPayload
    split
    next idx hphase =>
      obtain ⟨halive, hcommands, hawaits⟩ := h.pollJob hphase deadlineReached
      exact ⟨halive, hcommands ▸ h.commands, hawaits⟩
    next idx job id hphase =>
      obtain ⟨halive, hcommands, hawaits⟩ := h.pollPending R hphase
      exact ⟨halive, hcommands ▸ h.commands, hawaits⟩
    next hphase => exact h.receive hphase
    next hphase => exact absurd hphase h.alive
  | build task client pool acquired buildId =>
    simp only [BuilderSystem.step]
    unfold BuilderSystem.build
    split
    next => exact h.same rfl List.length_set
    next => exact h.same rfl rfl
  | buildPanics task =>
    simp only [BuilderSystem.step]
    unfold BuilderSystem.buildPanics
    split
    next => exact h.same rfl List.length_set
    next => exact h.same rfl rfl
  | bidder event =>
    simp only [BuilderSystem.step]
    split
    next => exact h.same rfl rfl
    next => exact h.same rfl rfl

end PayloadSound

variable [BidSelectionPolicy P]

/-- No task comes to be cancelled. -/
theorem uncancelled_step (R : Reth) (sys : BuilderSystem P) (event : SystemEvent)
    (h : ∀ task ∈ sys.builds, task.Uncancelled) :
    ∀ task ∈ (sys.step R event).builds, task.Uncancelled := by
  have hset : ∀ (i : Nat) (task : BuildTask), task.Uncancelled →
      ∀ other ∈ sys.builds.set i task, other.Uncancelled := by
    intro i task htask other hother
    rcases List.mem_or_eq_of_mem_set hother with hold | rfl
    · exact h other hold
    · exact htask
  cases event with
  | attributes attributes slot => exact h
  | consensusLayerEnds => exact h
  | bundlePool op => exact h
  | pollBuilder inputs =>
    simp only [BuilderSystem.step]
    unfold BuilderSystem.pollBuilder
    split
    next => exact h
    next =>
      split
      next => exact h
      next =>
        simp only
        split
        next => exact h
        next => exact h
  | announce =>
    simp only [BuilderSystem.step]
    unfold BuilderSystem.announce
    split
    next => exact h
    next => exact h
  | pollPayload deadlineReached =>
    simp only [BuilderSystem.step]
    unfold BuilderSystem.pollPayload
    split
    next idx _ =>
      unfold BuilderSystem.pollJob
      simp only
      split
      next idx job id _ =>
        split
        next => exact h
        next => exact job.spawnBuild_uncancelled h
      next => exact h
    next =>
      unfold BuilderSystem.pollPending
      split
      next => exact h
      next => exact h
    next => exact h
    next => exact h
  | build index client pool acquired buildId =>
    simp only [BuilderSystem.step]
    unfold BuilderSystem.build
    split
    next task htask => exact hset index _ ((h task (List.mem_of_getElem? htask)).run R _)
    next => exact h
  | buildPanics index =>
    simp only [BuilderSystem.step]
    unfold BuilderSystem.buildPanics
    split
    next task htask => exact hset index _ (h task (List.mem_of_getElem? htask)).drop
    next => exact h
  | bidder event =>
    simp only [BuilderSystem.step]
    split
    next => exact h
    next => exact h

/-- **The payload service of the builder does not fail.** In every run of the builder
it does not panic, it holds one job at most for a payload, whether it is being polled
or not, no two of its jobs wait for one task, and no task comes to the outcome that a
job takes for unreachable. -/
theorem payload_service_sound (R : Reth) (payloadConfig : PayloadConfig) (bundlePool : BundlePool)
    (policy : P) (networkClock : NetworkClock) (publicKey : BlsPublicKey)
    (internalRelayEnabled : Bool) (events : List SystemEvent) :
    let sys := run (step R)
      (new payloadConfig bundlePool (.new policy networkClock publicKey internalRelayEnabled))
      events
    sys.payload.phase ≠ .panicked ∧ sys.payload.heldIds.Nodup ∧ sys.payload.awaited.Nodup ∧
    (∀ index ∈ sys.payload.awaited, index < sys.builds.length) ∧
    ∀ task ∈ sys.builds, task.result ≠ .sent (.ok .cancelled) := by
  intro sys
  have h : PayloadSound sys := by
    refine run_invariant (fun _ event h => h.step R event) events ⟨⟨.new, .inl rfl, jobsExact_new⟩,
      fun hpanicked => (by cases hpanicked), fun cmd hcmd => (by cases hcmd), .nil, fun index hindex => ?_⟩
    cases hindex
  obtain ⟨r, hserves, hexact⟩ := h.service
  refine ⟨h.alive, ?_, h.awaits.once, h.awaits.tasks,
    run_invariant (uncancelled_step R) events fun task htask => by cases htask⟩
  have hnodup := hexact.nodup
  rcases hserves with heq | ⟨idx, job, job', id, hpolling, heq⟩
  · rw [heq] at hnodup
    exact hnodup
  · rw [heq] at hnodup
    rw [heldIds_polling hpolling]
    exact hnodup

end Sound

end BuilderSystem

end BlockBuilder
