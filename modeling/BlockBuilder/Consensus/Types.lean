import BlockBuilder.Consensus.Layer
import BlockBuilder.Primitives.Json

/-!
# Payload attributes as JSON (`crates/consensus_layer/src/types.rs`)

The consensus client announces payload attributes as events of a stream, each of them
a JSON document: an object with the data and, for a client that names it, the fork. The
layer reads the documents with the derived readers of its own types, which spell 64-bit
numbers as decimal strings, and makes reth's attributes of them.

`announcements_exact` says that nothing is lost on the way: an event is read as it was
written, whatever the order of its members and whatever else is among them, and a layer
with a stream yields what it is sent, all of it and in order.

Mirroring notes:
- `to_lowercase` is Unicode's. It makes a name of a fork of nothing that the lowercase
  letters of ASCII do not make one of.
- The subscription is not modelled: a document comes as the JSON it is parsed to, and
  what the stream reports as an error of its own is `failed`.
-/

namespace BlockBuilder

open Lib (Json Members Reordered Serde run run_cons)

/-! ## Forks -/

inductive ForkName where
  | base
  | altair
  | merge
  | capella
  | deneb
  deriving DecidableEq, Repr

namespace ForkName

def display : ForkName → String
  | base => "phase0"
  | altair => "altair"
  | merge => "bellatrix"
  | capella => "capella"
  | deneb => "deneb"

def toLowercase (s : String) : String := String.ofList (s.toList.map Char.toLower)

def fromStr (forkName : String) : Except String ForkName :=
  match toLowercase forkName with
  | "phase0" | "base" => .ok .base
  | "altair" => .ok .altair
  | "bellatrix" | "merge" => .ok .merge
  | "capella" => .ok .capella
  | "deneb" => .ok .deneb
  | _ => .error s!"unknown fork name: {forkName}"

/-- Read from and written as a string. -/
def serde : Serde ForkName := .text display fun s => (fromStr s).toOption

theorem roundTrips_serde (fork : ForkName) : serde.RoundTrips fork := by
  cases fork with
  | base => rfl
  | altair => rfl
  | merge => rfl
  | capella => rfl
  | deneb => rfl

end ForkName

/-! ## The records -/

structure SseExtendedPayloadAttributesGeneric (T : Type) where
  proposalSlot : UInt64
  proposerIndex : UInt64
  parentBlockRoot : B256
  parentBlockNumber : UInt64
  parentBlockHash : B256
  payloadAttributes : T

/-- A response from the consensus layer that is versioned by the fork name. -/
structure ForkVersionedResponse (T : Type) where
  version : Option ForkName
  data : T

abbrev PayloadEvent := ForkVersionedResponse (SseExtendedPayloadAttributesGeneric SsePayloadAttributes)

/-- What the layer looks at. -/
def PayloadEvent.payload (event : PayloadEvent) : SseExtendedPayloadAttributes where
  proposalSlot := event.data.proposalSlot
  parentBlockRoot := event.data.parentBlockRoot
  parentBlockHash := event.data.parentBlockHash
  payloadAttributes := event.data.payloadAttributes

variable (F : ForeignSerde)

def LighthouseWithdrawal.serde : Serde LighthouseWithdrawal :=
  .record (withdrawalMembers F displayFromStr)
    (fun withdrawal =>
      (withdrawal.index, withdrawal.validatorIndex, withdrawal.address, withdrawal.amount, ()))
    fun (index, validatorIndex, address, amount, ()) =>
      { index, validatorIndex, address, amount }

namespace SsePayloadAttributes

def names : List String := ["timestamp", "prev_randao", "suggested_fee_recipient", "withdrawals"]

def members : Members names (UInt64 × B256 × Address × List LighthouseWithdrawal × Unit) :=
  .cons "timestamp" displayFromStr <| .cons "prev_randao" F.b256 <|
  .cons "suggested_fee_recipient" F.address <|
  .cons "withdrawals" (LighthouseWithdrawal.serde F).list .nil

def serde : Serde SsePayloadAttributes :=
  .record (members F)
    (fun attributes =>
      (attributes.timestamp, attributes.prevRandao, attributes.suggestedFeeRecipient,
        attributes.withdrawals, ()))
    fun (timestamp, prevRandao, suggestedFeeRecipient, withdrawals, ()) =>
      { timestamp, prevRandao, suggestedFeeRecipient, withdrawals }

end SsePayloadAttributes

namespace SseExtendedPayloadAttributesGeneric

variable {T : Type} (attributes : Serde T)

def names : List String :=
  ["proposal_slot", "proposer_index", "parent_block_root", "parent_block_number",
    "parent_block_hash", "payload_attributes"]

def members : Members names (UInt64 × UInt64 × B256 × UInt64 × B256 × T × Unit) :=
  .cons "proposal_slot" displayFromStr <| .cons "proposer_index" displayFromStr <|
  .cons "parent_block_root" F.b256 <| .cons "parent_block_number" displayFromStr <|
  .cons "parent_block_hash" F.b256 <| .cons "payload_attributes" attributes .nil

def serde : Serde (SseExtendedPayloadAttributesGeneric T) :=
  .record (members F attributes)
    (fun data =>
      (data.proposalSlot, data.proposerIndex, data.parentBlockRoot, data.parentBlockNumber,
        data.parentBlockHash, data.payloadAttributes, ()))
    fun (proposalSlot, proposerIndex, parentBlockRoot, parentBlockNumber, parentBlockHash,
        payloadAttributes, ()) =>
      { proposalSlot, proposerIndex, parentBlockRoot, parentBlockNumber, parentBlockHash,
        payloadAttributes }

end SseExtendedPayloadAttributesGeneric

namespace ForkVersionedResponse

variable {T : Type} (data : Serde T)

def names : List String := ["version", "data"]

def members : Members names (Option ForkName × T × Unit) :=
  .skip "version" ForkName.serde <| .cons "data" data .nil

/-- The fields in order. -/
def fields (response : ForkVersionedResponse T) : Option ForkName × T × Unit :=
  (response.version, response.data, ())

def serde : Serde (ForkVersionedResponse T) :=
  .record (members data) fields fun (version, data, ()) => { version, data }

end ForkVersionedResponse

namespace PayloadEvent

def members : Members ForkVersionedResponse.names
    (Option ForkName × SseExtendedPayloadAttributesGeneric SsePayloadAttributes × Unit) :=
  ForkVersionedResponse.members
    (SseExtendedPayloadAttributesGeneric.serde F (SsePayloadAttributes.serde F))

def serde : Serde PayloadEvent :=
  ForkVersionedResponse.serde
    (SseExtendedPayloadAttributesGeneric.serde F (SsePayloadAttributes.serde F))

end PayloadEvent

/-! ## What comes back -/

section

variable {F}

theorem LighthouseWithdrawal.roundTrips_serde (hF : F.Faithful) (withdrawal : LighthouseWithdrawal) :
    (LighthouseWithdrawal.serde F).RoundTrips withdrawal :=
  (Serde.readsBack_record (fun _ => rfl) fun _ => rfl).mpr
    (readsBack_withdrawalMembers hF roundTrips_displayFromStr _)

theorem SsePayloadAttributes.roundTrips_serde (hF : F.Faithful) (attributes : SsePayloadAttributes) :
    (SsePayloadAttributes.serde F).RoundTrips attributes := by
  have hwithdrawals : (LighthouseWithdrawal.serde F).list.RoundTrips attributes.withdrawals :=
    Serde.roundTrips_list.mpr fun _ _ => LighthouseWithdrawal.roundTrips_serde hF _
  refine (Serde.readsBack_record (fun _ => rfl) fun _ => rfl).mpr ?_
  refine (Members.readsBack_tail (roundTrips_displayFromStr _)).mpr ?_
  refine (Members.readsBack_tail (hF.b256 _)).mpr ?_
  refine (Members.readsBack_tail (hF.address _)).mpr ?_
  exact (Members.readsBack_tail hwithdrawals).mpr Members.readsBack_nil

theorem SseExtendedPayloadAttributesGeneric.roundTrips_serde {T : Type} {attributes : Serde T}
    (hF : F.Faithful) (hattributes : ∀ x, attributes.RoundTrips x)
    (data : SseExtendedPayloadAttributesGeneric T) :
    (SseExtendedPayloadAttributesGeneric.serde F attributes).RoundTrips data := by
  have hu64 := roundTrips_displayFromStr
  refine (Serde.readsBack_record (fun _ => rfl) fun _ => rfl).mpr ?_
  refine (Members.readsBack_tail (hu64 _)).mpr ?_
  refine (Members.readsBack_tail (hu64 _)).mpr ?_
  refine (Members.readsBack_tail (hF.b256 _)).mpr ?_
  refine (Members.readsBack_tail (hu64 _)).mpr ?_
  refine (Members.readsBack_tail (hF.b256 _)).mpr ?_
  exact (Members.readsBack_tail (hattributes _)).mpr Members.readsBack_nil

/-- Whether the fork is named or not. -/
theorem ForkVersionedResponse.roundTrips_serde {T : Type} {data : Serde T}
    (hdata : ∀ x, data.RoundTrips x) (response : ForkVersionedResponse T) :
    (ForkVersionedResponse.serde data).RoundTrips response := by
  refine (Serde.readsBack_record (fun _ => rfl) fun _ => rfl).mpr ?_
  refine (Members.readsBack_skip (fun fork hnull => by cases hnull)
    fun fork _ => fork.roundTrips_serde).mpr ?_
  exact (Members.readsBack_tail (hdata _)).mpr Members.readsBack_nil

/-- **An event is read without seeing the order of its members.** -/
theorem PayloadEvent.unordered_serde (h : F.Plain) : (PayloadEvent.serde F).Unordered := by
  have hu64 : displayFromStr.Unordered := .text _ _
  have hb256 : F.b256.Unordered := h.word 32
  have haddress : F.address.Unordered := h.word 20
  have hwithdrawal : (LighthouseWithdrawal.serde F).Unordered :=
    .record (unordered_withdrawalMembers h hu64) _ _
  have hattributes : (SsePayloadAttributes.serde F).Unordered :=
    .record (.cons hu64 <| .cons hb256 <| .cons haddress <| .cons hwithdrawal.list .nil) _ _
  have hdata : (SseExtendedPayloadAttributesGeneric.serde F (SsePayloadAttributes.serde F)).Unordered :=
    .record (.cons hu64 <| .cons hu64 <| .cons hb256 <| .cons hu64 <| .cons hb256 <|
      .cons hattributes .nil) _ _
  exact .record (.skip (.text _ _) <| .cons hdata .nil) _ _

theorem PayloadEvent.roundTrips_serde (hF : F.Faithful) (event : PayloadEvent) :
    (PayloadEvent.serde F).RoundTrips event :=
  ForkVersionedResponse.roundTrips_serde
    (SseExtendedPayloadAttributesGeneric.roundTrips_serde hF (SsePayloadAttributes.roundTrips_serde hF))
    event

end

/-! ## What the layer yields -/

/-- What the stream of events comes to. -/
inductive StreamItem where
  | document (json : Json)
  /-- The stream reports an error. -/
  | failed
  | pending

/-- The stream reads its documents. -/
def StreamItem.answer : StreamItem → StreamAnswer
  | .document json =>
    match (PayloadEvent.serde F).deserialize json with
    | some event => .event event.payload
    | none => .error
  | .failed => .error
  | .pending => .pending

/-- What happens while the consensus client keeps the stream open. -/
inductive StreamEvent where
  /-- A connection task that is still running returns its stream. -/
  | finish (task : Nat)
  | crash (task : Nat)
  /-- The layer is polled. -/
  | poll (item : StreamItem)

def StreamEvent.toClEvent : StreamEvent → ClEvent
  | .finish task => .finish task
  | .crash task => .crash task
  | .poll item => .poll (item.answer F)

/-- The event that is read, if one is. -/
def StreamEvent.received : StreamEvent → Option PayloadEvent
  | .poll (.document json) => (PayloadEvent.serde F).deserialize json
  | _ => none

/-- The attributes of an event, and its slot. -/
def PayloadEvent.attributes (payloadId : B256 → PayloadAttributes → UInt64) (event : PayloadEvent) :
    EthPayloadBuilderAttributes × UInt64 :=
  (event.payload.intoRethPayloadAttributes payloadId, event.data.proposalSlot)

/-- Everything a block is built for is that of the event. -/
structure PayloadEvent.Carried (event : PayloadEvent) (attributes : EthPayloadBuilderAttributes) :
    Prop where
  parent : attributes.parent = event.data.parentBlockHash
  timestamp : attributes.timestamp = event.data.payloadAttributes.timestamp
  feeRecipient : attributes.suggestedFeeRecipient = event.data.payloadAttributes.suggestedFeeRecipient
  prevRandao : attributes.prevRandao = event.data.payloadAttributes.prevRandao
  withdrawals : attributes.withdrawals = event.data.payloadAttributes.withdrawals
  beaconRoot : attributes.parentBeaconBlockRoot = some event.data.parentBlockRoot

/-- No withdrawals and an empty list of them are one. -/
theorem toRethWithdrawals_getD (withdrawals : List LighthouseWithdrawal) :
    (toRethWithdrawals withdrawals).getD [] = withdrawals := by
  cases withdrawals with
  | nil => rfl
  | cons withdrawal withdrawals => rfl

theorem PayloadEvent.carried (payloadId : B256 → PayloadAttributes → UInt64) (event : PayloadEvent) :
    event.Carried (event.attributes payloadId).1 where
  parent := rfl
  timestamp := rfl
  feeRecipient := rfl
  prevRandao := rfl
  withdrawals := toRethWithdrawals_getD event.data.payloadAttributes.withdrawals
  beaconRoot := rfl

namespace ClRun

variable (firstPoll : Nat → TaskState) (payloadId : B256 → PayloadAttributes → UInt64)

/-- **A step yields what it polled**, or nothing. -/
theorem step_yielded (r : ClRun) (event : ClEvent) :
    (r.step firstPoll payloadId event).yielded = r.yielded ∨
      ∃ payload, event = .poll (.event payload) ∧ (r.step firstPoll payloadId event).yielded =
        r.yielded ++ [(payload.intoRethPayloadAttributes payloadId, payload.proposalSlot)] := by
  cases event with
  | finish task => exact .inl (adds_settle r task .finished).yielded
  | crash task => exact .inl (adds_settle r task .crashed).yielded
  | poll answer =>
    show (if r.panicked then r else r.pollNext firstPoll payloadId answer).yielded = _ ∨ ∃ payload, _ ∧
      (if r.panicked then r else r.pollNext firstPoll payloadId answer).yielded = _
    split
    next => exact .inl rfl
    next =>
      rcases @pollNext_cases firstPoll payloadId r answer with
        ⟨stream, -, ⟨-, heq⟩ | ⟨rfl, hadds⟩⟩ | ⟨-, ⟨stream, r', hadds, -, heq⟩ | ⟨u, hadds, -⟩⟩
      · rw [heq]
        cases answer with
        | event payload => exact .inr ⟨payload, rfl, rfl⟩
        | error => exact .inl (List.append_nil _)
        | ended => exact .inl (List.append_nil _)
        | pending => exact .inl (List.append_nil _)
      · exact .inl (hadds.yielded.trans (List.append_nil _))
      · rw [heq]
        exact .inl hadds.yielded
      · exact .inl hadds.yielded

/-- The layer has a stream that it reads. -/
structure Reading (r : ClRun) : Prop where
  stream : r.layer.payloadStream.isSome = true
  alive : r.panicked = false

theorem settle_reading {r : ClRun} (h : r.Reading) (task : Nat) (state : TaskState) :
    (r.settle task state).Reading ∧ (r.settle task state).yielded = r.yielded := by
  unfold settle
  split
  next => exact ⟨⟨h.stream, h.alive⟩, rfl⟩
  next => exact ⟨h, rfl⟩

/-- The stream has an event for the layer. -/
theorem pollNext_event {r : ClRun} {stream : Nat} (hstream : r.layer.payloadStream = some stream)
    (payload : SseExtendedPayloadAttributes) :
    r.pollNext firstPoll payloadId (.event payload) =
      { r with
        trace := r.trace ++ [.polled stream (.event payload)]
        yielded := r.yielded ++ [(payload.intoRethPayloadAttributes payloadId, payload.proposalSlot)] } := by
  unfold pollNext
  rw [hstream]

/-- The stream has nothing for the layer. -/
theorem pollNext_quiet {r : ClRun} {stream : Nat} (hstream : r.layer.payloadStream = some stream)
    {answer : StreamAnswer} (hquiet : answer = .error ∨ answer = .pending) :
    r.pollNext firstPoll payloadId answer = { r with trace := r.trace ++ [.polled stream answer] } := by
  unfold pollNext
  rw [hstream]
  rcases hquiet with rfl | rfl
  · rfl
  · rfl

/-- **One step**: what is received is yielded. -/
theorem step_reading {r : ClRun} (h : r.Reading) (event : StreamEvent) :
    let r' := r.step firstPoll payloadId (event.toClEvent F)
    r'.Reading ∧
      r'.yielded = r.yielded ++ (event.received F).toList.map (·.attributes payloadId) := by
  cases event with
  | finish task =>
    obtain ⟨hreading, hyielded⟩ := settle_reading h task .finished
    exact ⟨hreading, hyielded.trans (List.append_nil _).symm⟩
  | crash task =>
    obtain ⟨hreading, hyielded⟩ := settle_reading h task .crashed
    exact ⟨hreading, hyielded.trans (List.append_nil _).symm⟩
  | poll item =>
    obtain ⟨stream, hstream⟩ := Option.isSome_iff_exists.mp h.stream
    have hstep : ∀ answer, r.step firstPoll payloadId (.poll answer) =
        r.pollNext firstPoll payloadId answer := by
      intro answer
      show (if r.panicked then r else _) = _
      rw [h.alive]
      exact if_neg Bool.false_ne_true
    simp only [StreamEvent.toClEvent, hstep]
    cases item with
    | document json =>
      cases hread : (PayloadEvent.serde F).deserialize json with
      | none =>
        have hanswer : (StreamItem.document json).answer F = .error := by
          simp only [StreamItem.answer, hread]
        have hreceived : (StreamEvent.poll (.document json)).received F = none := hread
        rw [hanswer, hreceived, pollNext_quiet firstPoll payloadId hstream (.inl rfl)]
        exact ⟨⟨h.stream, h.alive⟩, (List.append_nil _).symm⟩
      | some event =>
        have hanswer : (StreamItem.document json).answer F = .event event.payload := by
          simp only [StreamItem.answer, hread]
        have hreceived : (StreamEvent.poll (.document json)).received F = some event := hread
        rw [hanswer, hreceived, pollNext_event firstPoll payloadId hstream]
        exact ⟨⟨h.stream, h.alive⟩, rfl⟩
    | failed =>
      unfold StreamItem.answer
      simp only [pollNext_quiet firstPoll payloadId hstream (.inl rfl)]
      exact ⟨⟨h.stream, h.alive⟩, (List.append_nil _).symm⟩
    | pending =>
      unfold StreamItem.answer
      simp only [pollNext_quiet firstPoll payloadId hstream (.inr rfl)]
      exact ⟨⟨h.stream, h.alive⟩, (List.append_nil _).symm⟩

/-- **A run of a layer with a stream.** -/
theorem run_reading (events : List StreamEvent) : ∀ {r : ClRun}, r.Reading →
    (run (step firstPoll payloadId) r (events.map (·.toClEvent F))).yielded =
      r.yielded ++ (events.filterMap (·.received F)).map (·.attributes payloadId) := by
  induction events with
  | nil => exact fun _ => (List.append_nil _).symm
  | cons event events ih =>
    intro r h
    obtain ⟨hreading, hyielded⟩ := step_reading F firstPoll payloadId h event
    rw [List.map_cons, run_cons, ih hreading, hyielded, List.append_assoc, ← List.map_append]
    congr 2
    cases hreceived : event.received F with
    | none => rw [List.filterMap_cons_none hreceived]; rfl
    | some received => rw [List.filterMap_cons_some hreceived]; rfl

end ClRun

/-- **Payload attributes arrive exact.** An event is read as it was written, with the fork
named or not, its members in any order at any depth and others among those of the response;
all that a block is built for is carried over; and while the stream is open the layer yields
the events it is sent, each with its slot and in order, whatever else the stream brings in
between and whatever becomes of old connection tasks. -/
theorem announcements_exact {F : ForeignSerde} (hF : F.Faithful) (hplain : F.Plain)
    (firstPoll : Nat → TaskState) (payloadId : B256 → PayloadAttributes → UInt64) :
    (∀ (event : PayloadEvent) others json, (∀ m ∈ others, m.1 ∉ ForkVersionedResponse.names) →
      Reordered (.object ((PayloadEvent.members F).serialize event.fields ++ others)) json →
      (PayloadEvent.serde F).deserialize json = some event) ∧
    (∀ event : PayloadEvent, event.Carried (event.attributes payloadId).1 ∧
      (event.attributes payloadId).2 = event.data.proposalSlot) ∧
    ∀ (r : ClRun) (events : List StreamEvent), r.Reading →
      (run (ClRun.step firstPoll payloadId) r (events.map (·.toClEvent F))).yielded =
        r.yielded ++ (events.filterMap (·.received F)).map (·.attributes payloadId) :=
  ⟨fun event _ _ hothers hjson => Serde.deserialize_of_reordered
      (PayloadEvent.unordered_serde hplain) (PayloadEvent.roundTrips_serde hF event) hothers hjson,
    fun event => ⟨event.carried payloadId, rfl⟩,
    fun _ events h => ClRun.run_reading F firstPoll payloadId events h⟩

/-- An event of the first slot, with one withdrawal. -/
def capellaEvent : PayloadEvent where
  version := some .capella
  data :=
    { proposalSlot := 1
      proposerIndex := 2
      parentBlockRoot := 3#256
      parentBlockNumber := 0
      parentBlockHash := 4#256
      payloadAttributes := ⟨12, 5#256, 6#160, [⟨1, 2, 7#160, 100⟩]⟩ }

/-- The event with the data before the fork and a member that is not known, after a
document that is not an event. -/
theorem announcements_exact_reordered :
    let document : Json := .object (("topic", .null) ::
      ((PayloadEvent.members .hex).serialize capellaEvent.fields).reverse)
    (PayloadEvent.serde .hex).deserialize document = some capellaEvent ∧
    (run (ClRun.step (fun _ => .finished) fun _ _ => 0)
        (run (ClRun.step (fun _ => .finished) fun _ _ => 0) (ClRun.new fun _ => .finished)
          [.poll .pending])
        ([.poll (.document .null), .poll (.document document)].map
          (StreamEvent.toClEvent .hex))).yielded =
      [capellaEvent.attributes fun _ _ => 0] := by
  intro document
  obtain ⟨hread, -, hyields⟩ := announcements_exact ForeignSerde.faithful_hex
    ForeignSerde.plain_hex (fun _ => .finished) fun _ _ => 0
  have hdocument : (PayloadEvent.serde .hex).deserialize document = some capellaEvent :=
    hread capellaEvent [("topic", .null)] document (by decide)
      (.perm ((List.perm_append_comm.trans (.append_left _ (List.reverse_perm _).symm))))
  refine ⟨hdocument, ?_⟩
  have hreceived : (StreamEvent.poll (.document document)).received .hex = some capellaEvent := hdocument
  rw [hyields _ _ ⟨rfl, rfl⟩, List.filterMap_cons_none rfl, List.filterMap_cons_some hreceived]
  rfl

end BlockBuilder
