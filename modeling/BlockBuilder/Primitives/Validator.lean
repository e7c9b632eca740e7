import BlockBuilder.Lib.Table
import BlockBuilder.Primitives.Payload

/-!
# The validator schedule (`crates/primitives/src/validator.rs`)

A relay reports for each of the next slots the registration of its proposer, and
a schedule holds one registration for each slot. The reports of several relays
come in one list, and the first registration of a slot is the one that is kept.

The invariant that a slot leads to a registration for this slot is a field of
`ValidatorSchedule`: a bid takes its slot from the registration, not from the
announcement it is built for.

Mirroring notes:
- The signature of a registration is not looked at, and stays in its bytes.
-/

namespace BlockBuilder

open Lib (Table)

structure Registration where
  feeRecipient : Address
  gasLimit : UInt64
  timestamp : UInt64
  pubkey : BlsPublicKey
  deriving DecidableEq, Repr

structure SignedValidatorRegistration where
  message : Registration
  signature : Bytes
  deriving DecidableEq, Repr

structure ValidatorRegistrationResponse where
  slot : UInt64
  validatorIndex : Option String
  entry : SignedValidatorRegistration
  deriving DecidableEq, Repr

/-- `From<ValidatorRegistrationResponse>`. -/
def ValidatorScheduleSlotInfo.ofResponse (data : ValidatorRegistrationResponse) :
    ValidatorScheduleSlotInfo where
  proposer := data.entry.message.pubkey
  feeRecipient := data.entry.message.feeRecipient
  gasLimit := data.entry.message.gasLimit
  slot := data.slot

/-- A map from slots to registrations for them. -/
structure ValidatorSchedule where
  slots : Table UInt64 ValidatorScheduleSlotInfo
  keyed : ∀ slot info, slots.lookup slot = some info → info.slot = slot

namespace ValidatorSchedule

/-- The map of `new`, one registration after another. -/
def ofList (infos : List ValidatorScheduleSlotInfo) : Table UInt64 ValidatorScheduleSlotInfo :=
  infos.foldl (fun slots info => slots.orInsert info.slot info) ∅

theorem lookup_ofList (infos : List ValidatorScheduleSlotInfo) (slot : UInt64) :
    (ofList infos).lookup slot = infos.find? fun info => info.slot = slot := by
  unfold ofList
  rw [Table.lookup_foldl_orInsert, AList.lookup_empty, Option.none_or]

def new (infos : List ValidatorScheduleSlotInfo) : ValidatorSchedule where
  slots := ofList infos
  keyed slot info h := by
    rw [lookup_ofList] at h
    have hfound := List.find?_some h
    exact of_decide_eq_true hfound

/-- `Default`. -/
def default : ValidatorSchedule := new []

def getBySlot (schedule : ValidatorSchedule) (slot : UInt64) : Option ValidatorScheduleSlotInfo :=
  schedule.slots.lookup slot

/-- **The first registration of a slot is the one that is kept.** -/
theorem getBySlot_new (infos : List ValidatorScheduleSlotInfo) (slot : UInt64) :
    (new infos).getBySlot slot = infos.find? fun info => info.slot = slot := lookup_ofList infos slot

@[simp] theorem getBySlot_default (slot : UInt64) : default.getBySlot slot = none := getBySlot_new [] slot

theorem getBySlot_slot {schedule : ValidatorSchedule} {slot : UInt64}
    {info : ValidatorScheduleSlotInfo} (h : schedule.getBySlot slot = some info) :
    info.slot = slot := schedule.keyed slot info h

end ValidatorSchedule

end BlockBuilder
