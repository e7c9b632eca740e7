import BlockBuilder.Lib.Argmax
import BlockBuilder.Lib.Run
import BlockBuilder.Primitives.Validator
import BlockBuilder.Relay.Service

/-!
# Asking all relays (`crates/relay/src/aggregator.rs`)

`RelayAggregator` puts one question to every relay of the pool at once and
collects the answers as they come. So the answers have no order of their own,
and what is made of them may depend on which relay was first.

`aggregate_perm` says what does not: once all have answered, the results are the
answers of the pool in some order. The schedule made of them has a slot in one
order if it has in another, and with the same registration where the relays agree
(`schedule_order`); the top bid is worth the same in every order
(`top_bid_order`), and a broadcast succeeds in all or in none
(`broadcast_order`).

Mirroring notes:
- A relay that cannot be reached reports no registrations and no traces; which
  error that was is logged and forgotten.
- The relay that a result came from is history.
-/

namespace BlockBuilder

open Lib (run run_invariant maxByKey maxByKey_mem le_of_maxByKey maxByKey_eq_none)

/-- The errors of a client, with the text of the cause. -/
inductive RelayClientErr where
  | topBid (err : String)
  | validatorNotFound (slot : UInt64)
  | emptyValidatorRegistrations
  | submit (message : String)
  | broadcast
  | gzip (err : String)
  deriving DecidableEq, Repr

structure SubmitBidResp where
  status : UInt16
  message : String
  deriving DecidableEq, Repr

/-! ## Collecting answers -/

/-- `FuturesUnordered`, and the results so far. -/
structure Aggregation (α : Type) where
  waiting : List RelayName
  results : List (RelayName × α)

namespace Aggregation

variable {α : Type}

def start (relays : List RelayName) : Aggregation α := ⟨relays, []⟩

/-- A relay answers. -/
def answer (answers : RelayName → α) (agg : Aggregation α) (relay : RelayName) : Aggregation α :=
  if relay ∈ agg.waiting then
    ⟨agg.waiting.erase relay, agg.results ++ [(relay, answers relay)]⟩
  else agg

/-- Every relay is waited for or has answered. -/
structure Collects (answers : RelayName → α) (relays : List RelayName) (agg : Aggregation α) :
    Prop where
  relays : (agg.results.map (·.1) ++ agg.waiting).Perm relays
  answers : ∀ result ∈ agg.results, result.2 = answers result.1

theorem Collects.answer {answers : RelayName → α} {relays : List RelayName} {agg : Aggregation α}
    (h : Collects answers relays agg) (relay : RelayName) :
    Collects answers relays (agg.answer answers relay) := by
  unfold Aggregation.answer
  split
  next hwaiting =>
    refine ⟨?_, fun result hresult => ?_⟩
    · -- the relay moves from those that are waited for to those that have answered
      have hmoved : (agg.results.map (·.1) ++ relay :: agg.waiting.erase relay).Perm relays :=
        ((List.perm_cons_erase hwaiting).symm.append_left _).trans h.relays
      simpa using hmoved
    · rcases List.mem_append.mp hresult with hold | hnew
      · exact h.answers result hold
      · rw [List.mem_singleton.mp hnew]
  next => exact h

end Aggregation

open Aggregation (answer start)

/-- `aggregate`: the run in which the relays answer in this order. -/
def aggregate {α : Type} (relays : List RelayName) (answers : RelayName → α)
    (order : List RelayName) : Aggregation α :=
  run (answer answers) (start relays) order

/-- **Once all have answered**, the results are the answers of the pool, in some order. -/
theorem aggregate_perm {α : Type} {relays : List RelayName} {answers : RelayName → α}
    {order : List RelayName} (hdone : (aggregate relays answers order).waiting = []) :
    ((aggregate relays answers order).results.map (·.2)).Perm (relays.map answers) := by
  have h : Aggregation.Collects answers relays (aggregate relays answers order) := by
    refine run_invariant (fun _ relay h => h.answer relay) order ⟨.refl _, fun _ hresult => ?_⟩
    cases hresult
  have hnames := h.relays
  rw [hdone, List.append_nil] at hnames
  have hanswers : (aggregate relays answers order).results.map (·.2) =
      ((aggregate relays answers order).results.map (·.1)).map answers := by
    rw [List.map_map]
    exact List.map_congr_left h.answers
  rw [hanswers]
  exact hnames.map answers

/-! ## The validator schedule -/

/-- `load_validator_schedule`, from what the relays report. -/
def loadValidatorSchedule (results : List (List ValidatorRegistrationResponse)) :
    Except RelayClientErr ValidatorSchedule :=
  let infos := results.flatten.map .ofResponse
  if infos.isEmpty then .error .emptyValidatorRegistrations else .ok (.new infos)

/-- The first registration for a slot that a relay reports. -/
def firstFor (slot : UInt64) (reported : List ValidatorRegistrationResponse) :
    Option ValidatorScheduleSlotInfo :=
  (reported.find? fun data => data.slot = slot).map .ofResponse

/-- **What a schedule holds**: for each slot, of the relays that report it the one
that comes first. -/
theorem loadValidatorSchedule_ok {results : List (List ValidatorRegistrationResponse)}
    {schedule : ValidatorSchedule} (h : loadValidatorSchedule results = .ok schedule)
    (slot : UInt64) : schedule.getBySlot slot = results.findSome? (firstFor slot) := by
  unfold loadValidatorSchedule at h
  simp only at h
  split at h
  next => cases h
  next =>
    cases h
    rw [ValidatorSchedule.getBySlot_new, List.find?_map, List.find?_flatten, List.map_findSome?]
    rfl

theorem loadValidatorSchedule_error {results : List (List ValidatorRegistrationResponse)}
    {err : RelayClientErr} (h : loadValidatorSchedule results = .error err) :
    err = .emptyValidatorRegistrations ∧ ∀ reported ∈ results, reported = [] := by
  unfold loadValidatorSchedule at h
  simp only at h
  split at h
  next hempty =>
    cases h
    rw [List.isEmpty_iff, List.map_eq_nil_iff, List.flatten_eq_nil_iff] at hempty
    exact ⟨rfl, hempty⟩
  next => cases h

/-- The relays report one registration for the slot, if any. -/
def AgreeOn (slot : UInt64) (results : List (List ValidatorRegistrationResponse)) : Prop :=
  ∀ reported ∈ results, ∀ reported' ∈ results, ∀ info info',
    firstFor slot reported = some info → firstFor slot reported' = some info' → info = info'

/-- The schedule that is loaded when the relays answer in this order. -/
def loadedIn (relays : List RelayName) (reported : RelayName → List ValidatorRegistrationResponse)
    (order : List RelayName) : Except RelayClientErr ValidatorSchedule :=
  loadValidatorSchedule ((aggregate relays reported order).results.map (·.2))

def registered (slot : UInt64) (feeRecipient : Address) : ValidatorRegistrationResponse :=
  ⟨slot, none, ⟨⟨feeRecipient, 30000000, 0, []⟩, []⟩⟩

/-- Two relays that agree on slot 6 and not on slot 5. -/
def disagreeing : RelayName → List ValidatorRegistrationResponse
  | .merkle => [registered 5 1, registered 6 1]
  | .internal => [registered 5 2, registered 6 1]

/-- `bid_traces`, from what the relays report. -/
def bidTraces (results : List (Option (RelayName × List BidTrace))) :
    List (RelayName × List BidTrace) :=
  results.filterMap id

theorem maxByValue_eq (traces : List BidTrace) :
    maxByValue traces = maxByKey (fun trace => trace.value.toNat) traces := by
  unfold maxByValue maxByKey
  congr 1
  funext best trace
  cases best with
  | none => rfl
  | some best => simp only [BitVec.le_def]

/-- A bid of another builder that is reported. -/
def Competes (publicKey : BlsPublicKey) (results : List (Option (RelayName × List BidTrace)))
    (trace : BidTrace) : Prop :=
  trace.builderPubkey ≠ publicKey ∧ ∃ name traces, some (name, traces) ∈ results ∧ trace ∈ traces

theorem mem_competing {publicKey : BlsPublicKey}
    {results : List (Option (RelayName × List BidTrace))} {trace : BidTrace} :
    trace ∈ ((bidTraces results).flatMap (·.2)).filter (fun t => t.builderPubkey != publicKey) ↔
      Competes publicKey results trace := by
  unfold Competes bidTraces
  simp only [List.mem_filter, List.mem_flatMap, List.mem_filterMap, id, bne_iff_ne, ne_eq,
    Prod.exists]
  rw [and_comm]
  refine and_congr_right fun _ => exists_congr fun name => exists_congr fun traces => ?_
  simp

/-- The top bid is one of the competing bids, and none of them is worth more. -/
theorem getTopBid_spec (publicKey : BlsPublicKey)
    (results : List (Option (RelayName × List BidTrace))) :
    match getTopBid publicKey (bidTraces results) with
    | some topBid => Competes publicKey results topBid ∧
        ∀ trace, Competes publicKey results trace → trace.value ≤ topBid.value
    | none => ∀ trace, ¬ Competes publicKey results trace := by
  unfold getTopBid
  rw [maxByValue_eq]
  split
  next topBid htop =>
    refine ⟨mem_competing.mp (maxByKey_mem htop), fun trace htrace => ?_⟩
    have hle := le_of_maxByKey htop (mem_competing.mpr htrace)
    exact hle
  next hnone =>
    intro trace htrace
    rw [maxByKey_eq_none] at hnone
    have hmem := mem_competing.mpr htrace
    rw [hnone] at hmem
    cases hmem

/-- The top bid when the relays answer in this order. -/
def topBidIn (publicKey : BlsPublicKey) (relays : List RelayName)
    (reported : RelayName → Option (RelayName × List BidTrace)) (order : List RelayName) :
    Option BidTrace :=
  getTopBid publicKey (bidTraces ((aggregate relays reported order).results.map (·.2)))

/-- **The top bid does not depend on the order of the answers**, but for which of the
bids that are worth the same it is: in two orders there is a top bid in both or in
none, it is a bid of another builder that a relay of the pool reports, and no other
is worth more. -/
theorem top_bid_order (publicKey : BlsPublicKey) (relays : List RelayName)
    (reported : RelayName → Option (RelayName × List BidTrace)) {order order' : List RelayName}
    (hdone : (aggregate relays reported order).waiting = [])
    (hdone' : (aggregate relays reported order').waiting = []) :
    match topBidIn publicKey relays reported order, topBidIn publicKey relays reported order' with
    | some topBid, some topBid' => topBid.value = topBid'.value ∧
        Competes publicKey (relays.map reported) topBid ∧
        ∀ trace, Competes publicKey (relays.map reported) trace → trace.value ≤ topBid.value
    | none, none => ∀ trace, ¬ Competes publicKey (relays.map reported) trace
    | _, _ => False := by
  have hcompetes : ∀ {results : List (Option (RelayName × List BidTrace))},
      results.Perm (relays.map reported) → ∀ trace,
      (Competes publicKey results trace ↔ Competes publicKey (relays.map reported) trace) := by
    intro results hperm trace
    unfold Competes
    simp only [hperm.mem_iff]
  have hsame := hcompetes (aggregate_perm hdone)
  have hsame' := hcompetes (aggregate_perm hdone')
  have hspec := getTopBid_spec publicKey ((aggregate relays reported order).results.map (·.2))
  have hspec' := getTopBid_spec publicKey ((aggregate relays reported order').results.map (·.2))
  simp only [hsame] at hspec
  simp only [hsame'] at hspec'
  unfold topBidIn
  split at hspec
  next topBid htop =>
    rw [htop]
    split at hspec'
    next topBid' htop' =>
      rw [htop']
      refine ⟨BitVec.le_antisymm ?_ ?_, hspec⟩
      · exact hspec'.2 topBid hspec.1
      · exact hspec.2 topBid' hspec'.1
    next hnone' => exact absurd hspec.1 (hspec' topBid)
  next hnone =>
    rw [hnone]
    split at hspec'
    next topBid' htop' => exact absurd hspec'.1 (hspec topBid')
    next hnone' =>
      rw [hnone']
      exact hspec

/-- Two relays of which each reports another bid of the greatest value. -/
def tied : RelayName → Option (RelayName × List BidTrace)
  | .merkle => some (.merkle, [⟨[1], 7⟩, ⟨[0], 9⟩])
  | .internal => some (.internal, [⟨[2], 7⟩, ⟨[1], 5⟩])

/-- The last to answer gives the bid. -/
theorem top_bid_order_tied :
    topBidIn [0] [.merkle, .internal] tied [.merkle, .internal] = some ⟨[2], 7⟩ ∧
    topBidIn [0] [.merkle, .internal] tied [.internal, .merkle] = some ⟨[1], 7⟩ ∧
    match topBidIn [0] [.merkle, .internal] tied [.merkle, .internal],
      topBidIn [0] [.merkle, .internal] tied [.internal, .merkle] with
    | some topBid, some topBid' => topBid.value = topBid'.value ∧
        Competes [0] ([RelayName.merkle, .internal].map tied) topBid ∧
        ∀ trace, Competes [0] ([RelayName.merkle, .internal].map tied) trace →
          trace.value ≤ topBid.value
    | none, none => ∀ trace, ¬ Competes [0] ([RelayName.merkle, .internal].map tied) trace
    | _, _ => False := by
  refine ⟨by decide, by decide, ?_⟩
  exact @top_bid_order [0] [.merkle, .internal] tied [.merkle, .internal] [.internal, .merkle] (by decide) (by decide)

/-! ## Broadcasts -/

/-- What a relay made of a submission. -/
def submitResult (resp : Except RelayClientErr SubmitBidResp) : Except RelayClientErr Unit :=
  match resp with
  | .error err => .error err
  | .ok resp => if resp.status ≠ 200 then .error (.submit resp.message) else .ok ()

/-- `broadcast_submit_bid`, from what the relays made of the submission. -/
def broadcastSubmitBid (results : List (Except RelayClientErr Unit)) : Except RelayClientErr Unit :=
  match results.countP Except.isOk with
  | 0 => .error .broadcast
  | _ => .ok ()

/-- **A broadcast succeeds in every order of the answers or in none**: when a relay of
the pool has accepted the bid. -/
theorem broadcast_order (relays : List RelayName)
    (resps : RelayName → Except RelayClientErr SubmitBidResp) {order : List RelayName}
    (hdone : (aggregate relays (submitResult ∘ resps) order).waiting = []) :
    broadcastSubmitBid ((aggregate relays (submitResult ∘ resps) order).results.map (·.2)) =
      if ∃ relay ∈ relays, (submitResult (resps relay)).isOk = true then .ok ()
      else .error .broadcast := by
  have hperm := aggregate_perm hdone
  unfold broadcastSubmitBid
  split
  next hzero =>
    rw [List.countP_eq_zero] at hzero
    rw [if_neg]
    intro haccepted
    obtain ⟨relay, hrelay, hok⟩ := haccepted
    exact hzero _ (hperm.mem_iff.mpr (List.mem_map_of_mem hrelay)) hok
  next hsome =>
    obtain ⟨result, hresult, hok⟩ := List.countP_pos_iff.mp (Nat.pos_of_ne_zero hsome)
    obtain ⟨relay, hrelay, rfl⟩ := List.mem_map.mp (hperm.mem_iff.mp hresult)
    rw [if_pos ⟨relay, hrelay, hok⟩]

end BlockBuilder
