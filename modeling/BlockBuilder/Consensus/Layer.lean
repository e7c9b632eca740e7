import BlockBuilder.Lib.Run
import BlockBuilder.Primitives.Chain

/-!
# The consensus layer's stream (`crates/consensus_layer/src/{lib,connection,types}.rs`)

`ConsensusLayer` is a stream of payload attributes made of two futures. A
connection task tries to subscribe to the consensus layer until it has an event
stream; the layer polls the task's handle until it is ready, and from then on
polls the stream. When the stream ends it starts another connection.

The tasks run beside the layer, so what they have come to when they are polled
is part of the run: `firstPoll n` is where task `n` has got to when it is polled
in the very call that spawned it, and an event of the run lets a task that is
still running finish or crash later. A stream is named after the task that
returns it.

`Reconnects` is what a reader of the run should see in the trace: each stream
that a connection returns is installed at once, and a stream that has ended is
left alone. `reconnects_iff` says which runs these are.

Mirroring notes, each of them the source's own behaviour:
- `payload_stream` is written in one place, when it is empty, and never cleared.
- The poll of a connection right after it is started is thrown away, in the
  layer and in the connection, also when it brings the stream.
- A handle whose result was taken panics when it is polled again.
-/

namespace BlockBuilder

open Lib (Along run run_concat run_invariant forall_prefix_iff_along)

/-! ## Payload attributes -/

abbrev LighthouseWithdrawal := Withdrawal

structure SsePayloadAttributes where
  timestamp : UInt64
  prevRandao : B256
  suggestedFeeRecipient : Address
  withdrawals : List LighthouseWithdrawal
  deriving DecidableEq, Repr

structure SseExtendedPayloadAttributes where
  proposalSlot : UInt64
  parentBlockRoot : B256
  parentBlockHash : B256
  payloadAttributes : SsePayloadAttributes
  deriving DecidableEq, Repr

/-- The engine API's attributes. -/
structure PayloadAttributes where
  timestamp : UInt64
  prevRandao : B256
  suggestedFeeRecipient : Address
  withdrawals : Option (List Withdrawal)
  parentBeaconBlockRoot : Option B256
  deriving DecidableEq, Repr

def toRethWithdrawals (withdrawals : List LighthouseWithdrawal) : Option (List Withdrawal) :=
  if withdrawals.isEmpty then none else some withdrawals

/-- `EthPayloadBuilderAttributes::new`, over the hash that is a payload's id. -/
def EthPayloadBuilderAttributes.new (payloadId : B256 → PayloadAttributes → UInt64)
    (parent : B256) (attributes : PayloadAttributes) : EthPayloadBuilderAttributes where
  id := payloadId parent attributes
  parent := parent
  timestamp := attributes.timestamp
  suggestedFeeRecipient := attributes.suggestedFeeRecipient
  prevRandao := attributes.prevRandao
  withdrawals := attributes.withdrawals.getD []
  parentBeaconBlockRoot := attributes.parentBeaconBlockRoot

/-- Converts from CL types to reth types. -/
def SseExtendedPayloadAttributes.intoRethPayloadAttributes
    (payloadId : B256 → PayloadAttributes → UInt64) (data : SseExtendedPayloadAttributes) :
    EthPayloadBuilderAttributes :=
  .new payloadId data.parentBlockHash
    { timestamp := data.payloadAttributes.timestamp
      prevRandao := data.payloadAttributes.prevRandao
      suggestedFeeRecipient := data.payloadAttributes.suggestedFeeRecipient
      withdrawals := toRethWithdrawals data.payloadAttributes.withdrawals
      parentBeaconBlockRoot := some data.parentBlockRoot }

/-! ## The layer and its tasks -/

/-- What a connection task has come to; one that finished holds its stream. -/
inductive TaskState where
  | running
  | finished
  | crashed
  deriving DecidableEq, Repr

/-- What an event stream answers when it is polled. -/
inductive StreamAnswer where
  | event (payload : SseExtendedPayloadAttributes)
  | error
  | ended
  | pending
  deriving DecidableEq, Repr

/-- What can be seen of the layer. -/
inductive ClTrace where
  /-- A connection task is spawned. -/
  | started (task : Nat)
  /-- The poll of a connection brought its stream. -/
  | obtained (stream : Nat)
  /-- The stream becomes the current one. -/
  | installed (stream : Nat)
  | polled (stream : Nat) (answer : StreamAnswer)
  deriving DecidableEq, Repr

structure ConsensusLayer where
  /-- The task whose handle the connection holds. -/
  clConnection : Nat
  payloadStream : Option Nat
  deriving DecidableEq, Repr

/-- The layer, the tasks spawned so far (`none` once the result is taken), and what was seen. -/
structure ClRun where
  layer : ConsensusLayer
  tasks : List (Option TaskState)
  panicked : Bool
  trace : List ClTrace
  yielded : List (EthPayloadBuilderAttributes × UInt64)
  deriving DecidableEq, Repr

inductive ClEvent where
  /-- A running task returns its stream. -/
  | finish (task : Nat)
  /-- A running task panics or is aborted. -/
  | crash (task : Nat)
  /-- The layer is polled, and the current stream would answer so. -/
  | poll (answer : StreamAnswer)
  deriving DecidableEq, Repr

/-- What polling the handle of a task answers. -/
inductive JoinPoll where
  | ready (stream : Nat)
  | failed
  | pending
  | panicked

namespace ClRun

/-- Poll the handle that the connection holds. -/
def pollInner (r : ClRun) : JoinPoll × ClRun :=
  let task := r.layer.clConnection
  match r.tasks[task]? with
  | some (some .running) => (.pending, r)
  | some (some .finished) =>
    (.ready task,
      { r with tasks := r.tasks.set task none, trace := r.trace ++ [.obtained task] })
  | some (some .crashed) => (.failed, { r with tasks := r.tasks.set task none })
  | _ => (.panicked, { r with panicked := true })

section Polls

variable (firstPoll : Nat → TaskState) (payloadId : B256 → PayloadAttributes → UInt64)

/-- `ClConnection::connection_task`: spawn a task, and hold its handle. -/
def connectionTask (r : ClRun) : ClRun :=
  { r with
    layer.clConnection := r.tasks.length
    tasks := r.tasks ++ [some (firstPoll r.tasks.length)]
    trace := r.trace ++ [.started r.tasks.length] }

/-- `ClConnection::poll`. -/
def pollConnection (r : ClRun) : Option Nat × ClRun :=
  match r.pollInner with
  | (.ready stream, r) => (some stream, r)
  | (.failed, r) => (none, (r.connectionTask firstPoll).pollInner.2)
  | (.pending, r) => (none, r)
  | (.panicked, r) => (none, r)

/-- `ConsensusLayer::poll_next`. -/
def pollNext (answer : StreamAnswer) (r : ClRun) : ClRun :=
  match r.layer.payloadStream with
  | some stream =>
    let r := { r with trace := r.trace ++ [.polled stream answer] }
    match answer with
    | .event payload =>
      { r with
        yielded := r.yielded ++ [(payload.intoRethPayloadAttributes payloadId, payload.proposalSlot)] }
    | .error => r
    | .ended => ((r.connectionTask firstPoll).pollConnection firstPoll).2
    | .pending => r
  | none =>
    match r.pollConnection firstPoll with
    | (some stream, r) =>
      { r with layer.payloadStream := some stream, trace := r.trace ++ [.installed stream] }
    | (none, r) => r

/-- `ConsensusLayer::new`. -/
def new : ClRun :=
  connectionTask firstPoll
    { layer := ⟨0, none⟩, tasks := [], panicked := false, trace := [], yielded := [] }

/-- A task that is still running comes to something. -/
def settle (r : ClRun) (task : Nat) (state : TaskState) : ClRun :=
  if r.tasks[task]? = some (some .running) then
    { r with tasks := r.tasks.set task (some state) }
  else r

def step (r : ClRun) : ClEvent → ClRun
  | .finish task => r.settle task .finished
  | .crash task => r.settle task .crashed
  | .poll answer => if r.panicked then r else r.pollNext firstPoll payloadId answer

end Polls

end ClRun

/-! ## What should be seen -/

/-- Every stream that a connection brings is installed next. -/
def Handed : List ClTrace → Prop
  | [] => True
  | .obtained stream :: rest => rest.head? = some (.installed stream) ∧ Handed rest
  | .started _ :: rest | .installed _ :: rest | .polled _ _ :: rest => Handed rest

/-- After a stream has ended it is not polled again. -/
def LeftAlone (trace : List ClTrace) : Prop :=
  trace.Pairwise fun e e' => ∀ stream answer, e = .polled stream .ended → e' ≠ .polled stream answer

/-- The streams that became the current one, in order. -/
def establishedStreams (trace : List ClTrace) : List Nat :=
  trace.filterMap fun
    | .installed stream => some stream
    | _ => none

/-- The events that polls of a stream brought, in order. -/
def eventsPolled (stream : Nat) (trace : List ClTrace) : List SseExtendedPayloadAttributes :=
  trace.filterMap fun
    | .polled s (.event payload) => if s = stream then some payload else none
    | _ => none

/-- The layer reconnects: each stream obtained becomes the current one before anything else
is started, ended streams are left alone, and the layer yields the events of its streams, one
stream after another. -/
structure Reconnects (payloadId : B256 → PayloadAttributes → UInt64) (r : ClRun) : Prop where
  handed : Handed r.trace
  leftAlone : LeftAlone r.trace
  yields : r.yielded = (establishedStreams r.trace).flatMap fun stream =>
    (eventsPolled stream r.trace).map fun payload =>
      (payload.intoRethPayloadAttributes payloadId, payload.proposalSlot)

/-! ## Traces -/

theorem handed_append {t u : List ClTrace} (h : Handed t) : Handed (t ++ u) ↔ Handed u := by
  induction t with
  | nil => rfl
  | cons e t ih =>
    cases e with
    | obtained stream =>
      obtain ⟨hnext, hrest⟩ := h
      have hhead : (t ++ u).head? = some (.installed stream) := by
        rw [List.head?_append, hnext]
        rfl
      show _ ∧ Handed (t ++ u) ↔ _
      rw [ih hrest]
      exact and_iff_right hhead
    | started task => exact ih h
    | installed stream => exact ih h
    | polled stream answer => exact ih h

/-- What follows a good trace is good when it polls no stream that has ended before. -/
theorem leftAlone_append {t u : List ClTrace} (h : LeftAlone t) :
    LeftAlone (t ++ u) ↔ LeftAlone u ∧
      ∀ stream answer, .polled stream .ended ∈ t → .polled stream answer ∉ u := by
  unfold LeftAlone at *
  rw [List.pairwise_append]
  constructor
  · intro ⟨_, hu, hcross⟩
    exact ⟨hu, fun stream answer hended hpolled =>
      hcross _ hended _ hpolled stream answer rfl rfl⟩
  · intro ⟨hu, hcross⟩
    refine ⟨h, hu, fun e he e' he' stream answer hended hpolled => ?_⟩
    subst hended hpolled
    exact hcross stream answer he he'

/-- A step that polls no stream leaves the ended ones alone. -/
def NoPolls (u : List ClTrace) : Prop := ∀ stream answer, .polled stream answer ∉ u

theorem NoPolls.leftAlone {u : List ClTrace} (h : NoPolls u) : LeftAlone u := by
  unfold LeftAlone
  rw [List.pairwise_iff_forall_sublist]
  intro e e' hsub stream answer _ heq
  refine h stream answer ?_
  rw [← heq]
  exact hsub.subset (by simp)

theorem leftAlone_append_noPolls {t u : List ClTrace} (h : LeftAlone t) (hu : NoPolls u) :
    LeftAlone (t ++ u) :=
  (leftAlone_append h).mpr ⟨hu.leftAlone, fun stream answer _ => hu stream answer⟩

theorem eventsPolled_noPolls {t u : List ClTrace} (hu : NoPolls u) (stream : Nat) :
    eventsPolled stream (t ++ u) = eventsPolled stream t := by
  have hnone : eventsPolled stream u = [] := by
    refine List.filterMap_eq_nil_iff.mpr fun e he => ?_
    cases e with
    | polled s answer => exact absurd he (hu s answer)
    | started task => rfl
    | obtained s => rfl
    | installed s => rfl
  unfold eventsPolled at hnone ⊢
  rw [List.filterMap_append, hnone, List.append_nil]

namespace ClRun

variable {firstPoll : Nat → TaskState} {payloadId : B256 → PayloadAttributes → UInt64}

/-! ## What each poll does -/

/-- The stream that the thrown-away first poll of a task brings, if it does. -/
def lost (firstPoll : Nat → TaskState) (task : Nat) : List ClTrace :=
  match firstPoll task with
  | .finished => [.obtained task]
  | _ => []

/-- A task is started, and polled in the same call. -/
theorem respawn_spec (r : ClRun) :
    let r' := (r.connectionTask firstPoll).pollInner.2
    r'.layer.payloadStream = r.layer.payloadStream ∧ r'.yielded = r.yielded ∧
      r'.trace = r.trace ++ .started r.tasks.length :: lost firstPoll r.tasks.length := by
  have hinner : (r.connectionTask firstPoll).tasks[(r.connectionTask firstPoll).layer.clConnection]?
      = some (some (firstPoll r.tasks.length)) := by
    simp [connectionTask]
  unfold pollInner lost
  simp only [hinner]
  cases firstPoll r.tasks.length with
  | running => exact ⟨rfl, rfl, rfl⟩
  | finished => exact ⟨rfl, rfl, List.append_assoc ..⟩
  | crashed => exact ⟨rfl, rfl, rfl⟩

/-- What the first poll of a connection that the layer starts adds to the trace. -/
def restarted (firstPoll : Nat → TaskState) (task : Nat) : List ClTrace :=
  .started task ::
    match firstPoll task with
    | .running => []
    | .finished => [.obtained task]
    | .crashed => .started (task + 1) :: lost firstPoll (task + 1)

/-- A step that only adds to the trace. -/
structure Adds (r r' : ClRun) (u : List ClTrace) : Prop where
  payloadStream : r'.layer.payloadStream = r.layer.payloadStream
  yielded : r'.yielded = r.yielded
  trace : r'.trace = r.trace ++ u

/-- The layer starts a connection and polls it, whatever that brings. -/
theorem restart_adds (r : ClRun) :
    Adds r ((r.connectionTask firstPoll).pollConnection firstPoll).2
      (restarted firstPoll r.tasks.length) := by
  have hinner : (r.connectionTask firstPoll).tasks[(r.connectionTask firstPoll).layer.clConnection]?
      = some (some (firstPoll r.tasks.length)) := by
    simp [connectionTask]
  unfold pollConnection pollInner restarted
  simp only [hinner]
  cases hfirst : firstPoll r.tasks.length with
  | running => exact ⟨rfl, rfl, rfl⟩
  | finished => exact ⟨rfl, rfl, List.append_assoc ..⟩
  | crashed =>
    obtain ⟨hstream, hyielded, htrace⟩ := @respawn_spec firstPoll
      { r.connectionTask firstPoll with
        tasks := (r.connectionTask firstPoll).tasks.set
          (r.connectionTask firstPoll).layer.clConnection none }
    refine ⟨hstream, hyielded, htrace.trans ?_⟩
    simp [connectionTask]

/-- Polling the connection brings its stream, or starts another task when it has crashed. -/
theorem pollConnection_cases (r : ClRun) :
    (∃ stream r', r.pollConnection firstPoll = (some stream, r') ∧
        Adds r r' [.obtained stream] ∧
        r.tasks[r.layer.clConnection]? = some (some .finished)) ∨
      ∃ r' u, r.pollConnection firstPoll = (none, r') ∧ Adds r r' u ∧
        (r.tasks[r.layer.clConnection]? = some (some .crashed) ∧
            u = .started r.tasks.length :: lost firstPoll r.tasks.length ∨
          r.tasks[r.layer.clConnection]? ≠ some (some .crashed) ∧ u = []) := by
  unfold pollConnection pollInner
  simp only
  split
  next stream r' hinner =>
    split at hinner
    next => cases hinner
    next hfinished =>
      cases hinner
      exact .inl ⟨_, _, rfl, ⟨rfl, rfl, rfl⟩, hfinished⟩
    next => cases hinner
    next => cases hinner
  next r' hinner =>
    split at hinner
    next => cases hinner
    next => cases hinner
    next hcrashed =>
      cases hinner
      obtain ⟨hstream, hyielded, htrace⟩ := @respawn_spec firstPoll
        { r with tasks := r.tasks.set r.layer.clConnection none }
      refine .inr ⟨_, _, rfl, ⟨hstream, hyielded, htrace⟩, .inl ⟨hcrashed, ?_⟩⟩
      simp
    next => cases hinner
  next r' hinner =>
    split at hinner
    next hrunning =>
      cases hinner
      exact .inr ⟨_, [], rfl, ⟨rfl, rfl, (List.append_nil _).symm⟩, .inr ⟨by simp [hrunning], rfl⟩⟩
    next => cases hinner
    next => cases hinner
    next => cases hinner
  next r' hinner =>
    split at hinner
    next => cases hinner
    next => cases hinner
    next => cases hinner
    next hrunning hfinished hcrashed =>
      cases hinner
      exact .inr ⟨_, [], rfl, ⟨rfl, rfl, (List.append_nil _).symm⟩, .inr ⟨hcrashed, rfl⟩⟩

end ClRun

/-! ## One stream -/

/-- The trace knows of one stream at most, the current one, and the layer has yielded what
its polls brought. -/
structure OneStream (payloadId : B256 → PayloadAttributes → UInt64) (r : ClRun) : Prop where
  established : establishedStreams r.trace = r.layer.payloadStream.toList
  polls : ∀ stream answer, .polled stream answer ∈ r.trace → r.layer.payloadStream = some stream
  yields : r.yielded = (establishedStreams r.trace).flatMap fun stream =>
    (eventsPolled stream r.trace).map fun payload =>
      (payload.intoRethPayloadAttributes payloadId, payload.proposalSlot)

/-- Only started tasks and streams obtained. -/
def Connecting (u : List ClTrace) : Prop :=
  ∀ e ∈ u, (∃ task, e = .started task) ∨ ∃ stream, e = .obtained stream

theorem Connecting.noPolls {u : List ClTrace} (h : Connecting u) : NoPolls u := by
  intro stream answer hmem
  rcases h _ hmem with ⟨task, heq⟩ | ⟨stream', heq⟩
  · cases heq
  · cases heq

theorem Connecting.established {u : List ClTrace} (h : Connecting u) (t : List ClTrace) :
    establishedStreams (t ++ u) = establishedStreams t := by
  have hnone : establishedStreams u = [] := by
    refine List.filterMap_eq_nil_iff.mpr fun e he => ?_
    rcases h e he with ⟨task, rfl⟩ | ⟨stream, rfl⟩
    · rfl
    · rfl
  unfold establishedStreams at hnone ⊢
  rw [List.filterMap_append, hnone, List.append_nil]

namespace ClRun

variable {firstPoll : Nat → TaskState} {payloadId : B256 → PayloadAttributes → UInt64}

theorem connecting_lost (task : Nat) : Connecting (lost firstPoll task) := by
  unfold lost
  intro e he
  split at he
  next => exact .inr ⟨task, List.mem_singleton.mp he⟩
  next => cases he

theorem connecting_respawn (task : Nat) : Connecting (.started task :: lost firstPoll task) := by
  intro e he
  rcases List.mem_cons.mp he with rfl | he
  · exact .inl ⟨task, rfl⟩
  · exact connecting_lost task e he

theorem connecting_restarted (task : Nat) : Connecting (restarted firstPoll task) := by
  unfold restarted
  intro e he
  rcases List.mem_cons.mp he with rfl | he
  · exact .inl ⟨task, rfl⟩
  · split at he
    next => cases he
    next => exact .inr ⟨task, List.mem_singleton.mp he⟩
    next => exact connecting_respawn (task + 1) e he

/-- The layer after a poll of its stream, before it reacts to an end. -/
def afterAnswer (payloadId : B256 → PayloadAttributes → UInt64) (r : ClRun) (stream : Nat)
    (answer : StreamAnswer) : ClRun :=
  { r with
    trace := r.trace ++ [.polled stream answer]
    yielded := r.yielded ++
      match answer with
      | .event payload => [(payload.intoRethPayloadAttributes payloadId, payload.proposalSlot)]
      | _ => [] }

end ClRun

open ClRun

variable {firstPoll : Nat → TaskState} {payloadId : B256 → PayloadAttributes → UInt64}

/-- Connecting changes nothing about the streams. -/
theorem OneStream.adds {r r' : ClRun} {u : List ClTrace} (h : OneStream payloadId r)
    (hadds : Adds r r' u) (hu : Connecting u) : OneStream payloadId r' where
  established := by
    rw [hadds.trace, hu.established, hadds.payloadStream]
    exact h.established
  polls := by
    intro stream answer hmem
    rw [hadds.trace] at hmem
    rw [hadds.payloadStream]
    rcases List.mem_append.mp hmem with hold | hnew
    · exact h.polls stream answer hold
    · exact absurd hnew (hu.noPolls stream answer)
  yields := by
    rw [hadds.trace, hu.established, hadds.yielded, h.yields]
    simp only [eventsPolled_noPolls hu.noPolls]

/-- A poll of the current stream yields the event it brings. -/
theorem OneStream.polled {r : ClRun} (h : OneStream payloadId r) {stream : Nat}
    (hstream : r.layer.payloadStream = some stream) (answer : StreamAnswer) :
    OneStream payloadId (r.afterAnswer payloadId stream answer) := by
  have hone : establishedStreams r.trace = [stream] := by rw [h.established, hstream]; rfl
  have hsame : establishedStreams (r.trace ++ [.polled stream answer]) = [stream] := by
    rw [← hone]
    simp [establishedStreams]
  refine ⟨hsame.trans (by show _ = r.layer.payloadStream.toList; rw [hstream]; rfl), ?_, ?_⟩
  · intro stream' answer' hmem
    rcases List.mem_append.mp hmem with hold | hnew
    · exact h.polls stream' answer' hold
    · cases List.mem_singleton.mp hnew
      exact hstream
  · have hbefore : r.yielded = (eventsPolled stream r.trace).map fun payload =>
        (payload.intoRethPayloadAttributes payloadId, payload.proposalSlot) := by
      rw [h.yields, hone, List.flatMap_singleton]
    show r.yielded ++ _ = (establishedStreams (r.trace ++ [.polled stream answer])).flatMap _
    rw [hsame, List.flatMap_singleton, hbefore]
    cases answer with
    | event payload => simp [afterAnswer, eventsPolled]
    | error => simp [afterAnswer, eventsPolled]
    | ended => simp [afterAnswer, eventsPolled]
    | pending => simp [afterAnswer, eventsPolled]

/-- A stream that is installed is the first, and nothing was polled before. -/
theorem OneStream.installed {r : ClRun} (h : OneStream payloadId r)
    (hnone : r.layer.payloadStream = none) (stream : Nat) :
    OneStream payloadId
      { r with layer.payloadStream := some stream, trace := r.trace ++ [.installed stream] } := by
  have hzero : establishedStreams r.trace = [] := by rw [h.established, hnone]; rfl
  have hone : establishedStreams (r.trace ++ [.installed stream]) = [stream] := by
    unfold establishedStreams at hzero ⊢
    rw [List.filterMap_append, hzero]
    rfl
  have hunpolled : NoPolls (r.trace ++ [.installed stream]) := by
    intro stream' answer hmem
    rcases List.mem_append.mp hmem with hold | hnew
    · rw [h.polls stream' answer hold] at hnone
      cases hnone
    · cases List.mem_singleton.mp hnew
  refine ⟨hone, fun stream' answer hmem => absurd hmem (hunpolled stream' answer), ?_⟩
  show r.yielded = (establishedStreams (r.trace ++ [.installed stream])).flatMap _
  have hevents : eventsPolled stream (r.trace ++ [.installed stream]) = [] :=
    eventsPolled_noPolls (t := []) hunpolled stream
  rw [hone, List.flatMap_singleton, hevents, h.yields, hzero]
  rfl

theorem oneStream_new : OneStream payloadId (ClRun.new firstPoll) where
  established := rfl
  polls := fun _ _ hmem => by cases List.mem_singleton.mp hmem
  yields := rfl

/-- What a poll of the layer comes to: the answer of its stream, with a connection started
when the stream has ended, or a poll of the connection. -/
theorem pollNext_cases (r : ClRun) (answer : StreamAnswer) :
    (∃ stream, r.layer.payloadStream = some stream ∧
      (answer ≠ .ended ∧ r.pollNext firstPoll payloadId answer = r.afterAnswer payloadId stream answer ∨
        answer = .ended ∧ Adds (r.afterAnswer payloadId stream answer)
          (r.pollNext firstPoll payloadId answer) (restarted firstPoll r.tasks.length))) ∨
    r.layer.payloadStream = none ∧
      ((∃ stream r', Adds r r' [.obtained stream] ∧
          r.tasks[r.layer.clConnection]? = some (some .finished) ∧
          r.pollNext firstPoll payloadId answer =
            { r' with
              layer.payloadStream := some stream
              trace := r'.trace ++ [.installed stream] }) ∨
        ∃ u, Adds r (r.pollNext firstPoll payloadId answer) u ∧
          (r.tasks[r.layer.clConnection]? = some (some .crashed) ∧
              u = .started r.tasks.length :: lost firstPoll r.tasks.length ∨
            r.tasks[r.layer.clConnection]? ≠ some (some .crashed) ∧ u = [])) := by
  unfold pollNext
  cases hstream : r.layer.payloadStream with
  | some stream =>
    refine .inl ⟨stream, rfl, ?_⟩
    have hquiet : ({ r with trace := r.trace ++ [.polled stream answer] } : ClRun) =
        { r with trace := r.trace ++ [.polled stream answer], yielded := r.yielded ++ [] } := by
      rw [List.append_nil]
    cases answer with
    | event payload => exact .inl ⟨by simp, rfl⟩
    | error => exact .inl ⟨by simp, hquiet⟩
    | pending => exact .inl ⟨by simp, hquiet⟩
    | ended =>
      refine .inr ⟨rfl, ?_⟩
      simp only
      rw [hquiet]
      exact restart_adds _
  | none =>
    refine .inr ⟨rfl, ?_⟩
    rcases @pollConnection_cases firstPoll r with
      ⟨stream, r', heq, hadds, hfinished⟩ | ⟨r', u, heq, hadds, hwhy⟩
    · exact .inl ⟨stream, r', hadds, hfinished, by rw [heq]⟩
    · exact .inr ⟨u, by rw [heq]; exact hadds, hwhy⟩

theorem oneStream_pollNext {r : ClRun} (h : OneStream payloadId r) (answer : StreamAnswer) :
    OneStream payloadId (r.pollNext firstPoll payloadId answer) := by
  rcases @pollNext_cases firstPoll payloadId r answer with
    ⟨stream, hstream, ⟨_, heq⟩ | ⟨_, hadds⟩⟩ |
    ⟨hnone, ⟨stream, r', hadds, _, heq⟩ | ⟨u, hadds, hwhy⟩⟩
  · rw [heq]
    exact h.polled hstream answer
  · exact (h.polled hstream answer).adds hadds (connecting_restarted _)
  · rw [heq]
    have hconnecting : Connecting [.obtained stream] :=
      fun e he => .inr ⟨stream, List.mem_singleton.mp he⟩
    exact (h.adds hadds hconnecting).installed (hadds.payloadStream.trans hnone) stream
  · rcases hwhy with ⟨_, rfl⟩ | ⟨_, rfl⟩
    · exact h.adds hadds (connecting_respawn _)
    · exact h.adds hadds fun e he => absurd he (by simp)

theorem adds_settle (r : ClRun) (task : Nat) (state : TaskState) :
    Adds r (r.settle task state) [] := by
  unfold settle
  split
  next => exact ⟨rfl, rfl, (List.append_nil _).symm⟩
  next => exact ⟨rfl, rfl, (List.append_nil _).symm⟩

theorem oneStream_step (r : ClRun) (e : ClEvent) (h : OneStream payloadId r) :
    OneStream payloadId (r.step firstPoll payloadId e) := by
  cases e with
  | finish task => exact h.adds (adds_settle r task .finished) fun e he => absurd he (by simp)
  | crash task => exact h.adds (adds_settle r task .crashed) fun e he => absurd he (by simp)
  | poll answer =>
    show OneStream payloadId (if r.panicked then r else r.pollNext firstPoll payloadId answer)
    split
    next => exact h
    next => exact oneStream_pollNext h answer

/-- **One stream per run**: whatever ends or connects, the layer yields what the polls of
its one stream brought. -/
theorem oneStream_run (events : List ClEvent) :
    OneStream payloadId (run (step firstPoll payloadId) (ClRun.new firstPoll) events) :=
  run_invariant oneStream_step events oneStream_new

/-! ## Which runs reconnect -/

/-- A poll of the layer comes before its stream has ended, and no task that it starts has
finished by the poll that is thrown away. -/
def KeepsUp (firstPoll : Nat → TaskState) (r : ClRun) : ClEvent → Prop
  | .poll answer =>
    r.panicked = true ∨
      match r.layer.payloadStream with
      | some stream => .polled stream .ended ∉ r.trace ∧
          (answer = .ended → firstPoll r.tasks.length ≠ .finished ∧
            (firstPoll r.tasks.length = .crashed → firstPoll (r.tasks.length + 1) ≠ .finished))
      | none => r.tasks[r.layer.clConnection]? = some (some .crashed) →
          firstPoll r.tasks.length ≠ .finished
  | _ => True

theorem handed_respawn (task : Nat) :
    Handed (.started task :: lost firstPoll task) ↔ firstPoll task ≠ .finished := by
  show Handed (lost firstPoll task) ↔ _
  unfold lost
  cases firstPoll task <;> simp [Handed]

theorem handed_restarted (task : Nat) :
    Handed (restarted firstPoll task) ↔ firstPoll task ≠ .finished ∧
      (firstPoll task = .crashed → firstPoll (task + 1) ≠ .finished) := by
  unfold restarted
  cases hfirst : firstPoll task with
  | running => simp [Handed]
  | finished => simp [Handed]
  | crashed =>
    show Handed (.started (task + 1) :: lost firstPoll (task + 1)) ↔ _
    rw [handed_respawn]
    simp

/-- Adding to a good trace leaves it good if what is added polls nothing and is handed on. -/
theorem reconnects_adds_iff {r r' : ClRun} {u : List ClTrace} (h : Reconnects payloadId r)
    (hone : OneStream payloadId r') (hadds : Adds r r' u) (hu : Connecting u) :
    Reconnects payloadId r' ↔ Handed u := by
  constructor
  · intro hafter
    have hhanded := hafter.handed
    rw [hadds.trace] at hhanded
    exact (handed_append h.handed).mp hhanded
  · intro hhanded
    refine ⟨?_, ?_, hone.yields⟩
    · rw [hadds.trace]
      exact (handed_append h.handed).mpr hhanded
    · rw [hadds.trace]
      exact leftAlone_append_noPolls h.leftAlone hu.noPolls

/-- A poll of the stream is good if the stream has not ended before. -/
theorem reconnects_polled_iff {r : ClRun} (h : Reconnects payloadId r)
    (hone : OneStream payloadId r) {stream : Nat} (hstream : r.layer.payloadStream = some stream)
    (answer : StreamAnswer) :
    Reconnects payloadId (r.afterAnswer payloadId stream answer) ↔
      .polled stream .ended ∉ r.trace := by
  constructor
  · intro hafter hended
    exact ((leftAlone_append h.leftAlone).mp hafter.leftAlone).2 stream answer hended (by simp)
  · intro hopen
    refine ⟨(handed_append h.handed).mpr trivial, ?_, (hone.polled hstream answer).yields⟩
    refine (leftAlone_append h.leftAlone).mpr ⟨List.pairwise_singleton _ _, ?_⟩
    intro stream' answer' hended hpolled
    cases List.mem_singleton.mp hpolled
    exact hopen hended

/-- A stream that is installed as soon as it is obtained is handed over. -/
theorem reconnects_installed {r r' : ClRun} (h : Reconnects payloadId r)
    (hone : OneStream payloadId r') {stream : Nat}
    (htrace : r'.trace = r.trace ++ [.obtained stream, .installed stream]) :
    Reconnects payloadId r' := by
  refine ⟨?_, ?_, hone.yields⟩
  · rw [htrace]
    exact (handed_append h.handed).mpr ⟨rfl, trivial⟩
  · rw [htrace]
    refine leftAlone_append_noPolls h.leftAlone fun stream' answer hmem => ?_
    simp at hmem

/-- A trace that is good is good without its end. -/
theorem Reconnects.of_adds {r r' : ClRun} {u : List ClTrace} (h : Reconnects payloadId r')
    (hbefore : Handed r.trace) (hone : OneStream payloadId r) (hadds : Adds r r' u) :
    Reconnects payloadId r := by
  have hleft := h.leftAlone
  rw [hadds.trace] at hleft
  exact ⟨hbefore, (List.pairwise_append.mp hleft).1, hone.yields⟩

/-- **One event.** From a run that reconnects, an event leads to one that does if and only if
it keeps up. -/
theorem reconnects_step {r : ClRun} (h : Reconnects payloadId r) (hone : OneStream payloadId r)
    (e : ClEvent) : Reconnects payloadId (r.step firstPoll payloadId e) ↔ KeepsUp firstPoll r e := by
  have hquiet : ∀ r', Adds r r' [] → OneStream payloadId r' → Reconnects payloadId r' :=
    fun r' hadds hone' =>
      (reconnects_adds_iff h hone' hadds fun e he => absurd he (by simp)).mpr trivial
  have hone' := @oneStream_step firstPoll payloadId r e hone
  cases e with
  | finish task => exact iff_of_true (hquiet _ (adds_settle r task .finished) hone') trivial
  | crash task => exact iff_of_true (hquiet _ (adds_settle r task .crashed) hone') trivial
  | poll answer =>
    by_cases hpanicked : r.panicked = true
    · refine iff_of_true ?_ (.inl hpanicked)
      show Reconnects payloadId (if r.panicked then r else _)
      rw [if_pos hpanicked]
      exact h
    have hstep : r.step firstPoll payloadId (.poll answer) =
        r.pollNext firstPoll payloadId answer := if_neg hpanicked
    rw [hstep] at hone' ⊢
    refine Iff.trans ?_ (or_iff_right hpanicked).symm
    rcases @pollNext_cases firstPoll payloadId r answer with
      ⟨stream, hstream, ⟨hanswer, heq⟩ | ⟨hanswer, hadds⟩⟩ |
      ⟨hnone, ⟨stream, r', hadds, hfinished, heq⟩ | ⟨u, hadds, hwhy⟩⟩
    · simp only [hstream, heq, reconnects_polled_iff h hone hstream answer]
      exact (and_iff_left fun hended => absurd hended hanswer).symm
    · simp only [hstream]
      have hpolled := reconnects_polled_iff h hone hstream answer
      have hmid := hone.polled hstream answer
      have hhanded : Handed (r.afterAnswer payloadId stream answer).trace :=
        (handed_append h.handed).mpr trivial
      constructor
      · intro hafter
        have hbefore := hafter.of_adds hhanded hmid hadds
        refine ⟨hpolled.mp hbefore, fun _ => ?_⟩
        exact (handed_restarted _).mp
          ((reconnects_adds_iff hbefore hone' hadds (connecting_restarted _)).mp hafter)
      · intro ⟨hopen, hlost⟩
        exact (reconnects_adds_iff (hpolled.mpr hopen) hone' hadds (connecting_restarted _)).mpr
          ((handed_restarted _).mpr (hlost hanswer))
    · simp only [hnone]
      refine iff_of_true ?_ fun hcrashed => ?_
      · refine @reconnects_installed payloadId r _ h hone' stream ?_
        rw [heq]
        show r'.trace ++ _ = _
        rw [hadds.trace, List.append_assoc]
        rfl
      · rw [hfinished] at hcrashed
        cases hcrashed
    · simp only [hnone]
      rcases hwhy with ⟨hcrashed, rfl⟩ | ⟨hcrashed, rfl⟩
      · rw [reconnects_adds_iff h hone' hadds (connecting_respawn _), handed_respawn]
        exact ⟨fun hlost _ => hlost, fun hlost => hlost hcrashed⟩
      · exact iff_of_true (hquiet _ hadds hone') fun hcrash => absurd hcrash hcrashed

/-- **When the layer reconnects.** At every moment of a run each stream obtained was
installed, ended streams were left alone and the events of the streams were yielded, if and
only if every poll of the run keeps up. -/
theorem reconnects_iff (firstPoll : Nat → TaskState)
    (payloadId : B256 → PayloadAttributes → UInt64) (events : List ClEvent) :
    (∀ pre post, events = pre ++ post →
        Reconnects payloadId (run (step firstPoll payloadId) (ClRun.new firstPoll) pre)) ↔
      Along (step firstPoll payloadId) (KeepsUp firstPoll) (ClRun.new firstPoll) events := by
  have hnew : Reconnects payloadId (ClRun.new firstPoll) :=
    ⟨trivial, List.pairwise_singleton _ _, rfl⟩
  exact forall_prefix_iff_along (I := fun _ r => Reconnects payloadId r) hnew
    (fun ops e h => reconnects_step h (oneStream_run ops) e) events

/-- **The layer goes deaf.** The stream that is installed first stays the current one, so
that no stream obtained later is ever polled. -/
theorem payloadStream_stays {r : ClRun} {stream : Nat} (h : r.layer.payloadStream = some stream)
    (events : List ClEvent) :
    (run (step firstPoll payloadId) r events).layer.payloadStream = some stream := by
  refine run_invariant (I := fun r : ClRun => r.layer.payloadStream = some stream) ?_ events h
  intro r e hr
  cases e with
  | finish task => exact (adds_settle r task .finished).payloadStream.trans hr
  | crash task => exact (adds_settle r task .crashed).payloadStream.trans hr
  | poll answer =>
    show (if r.panicked then r else r.pollNext firstPoll payloadId answer).layer.payloadStream = _
    split
    next => exact hr
    next =>
      rcases @pollNext_cases firstPoll payloadId r answer with
        ⟨stream', hstream', ⟨_, heq⟩ | ⟨_, hadds⟩⟩ | ⟨hnone, _⟩
      · rw [heq]
        exact hr
      · exact hadds.payloadStream.trans hr
      · rw [hr] at hnone
        cases hnone

/-- The layer connects, its stream ends, and the next connection completes as well. -/
def reconnecting : List ClEvent :=
  [.finish 0, .poll .pending, .poll .ended, .finish 1, .poll .pending]

/-- The layer then polls the ended stream again, and the stream of the new connection waits. -/
theorem ended_stream_polled_again :
    (run (step (fun _ => .running) fun _ _ => 0) (ClRun.new fun _ => .running) reconnecting).trace =
      [.started 0, .obtained 0, .installed 0, .polled 0 .ended, .started 1, .polled 0 .pending] ∧
    ¬ ∀ pre post, reconnecting = pre ++ post → Reconnects (fun _ _ => 0)
      (run (step (fun _ => .running) fun _ _ => 0) (ClRun.new fun _ => .running) pre) := by
  have htrace : (run (step (fun _ => .running) fun _ _ => 0) (ClRun.new fun _ => .running)
      reconnecting).trace =
      [.started 0, .obtained 0, .installed 0, .polled 0 .ended, .started 1, .polled 0 .pending] := by
    decide
  refine ⟨htrace, fun h => ?_⟩
  have hleft := (h reconnecting [] (List.append_nil _).symm).leftAlone
  rw [htrace] at hleft
  -- the fourth and the last of what was seen are polls of one stream
  simp [LeftAlone] at hleft

end BlockBuilder
