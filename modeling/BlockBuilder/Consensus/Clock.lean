import BlockBuilder.Primitives.Words

/-!
# The slot clock (`crates/consensus_layer/src/clock.rs`)

Times are nanoseconds since the epoch in a `u128`; the current time is a
parameter. A difference of two times is taken on `i128`, whose bits are those of
the `u128`, and its division truncates towards zero.

The system's clock is read as a `Duration` since the epoch, so the current time
is the nanoseconds of one. `timeUntilSlot` goes back from nanoseconds to a
`Duration` through a `u64`, which holds 584 years of them: `consistent_iff` says
that the clock agrees with itself exactly on the slots nearer than that.
-/

namespace BlockBuilder

/-- `std::time::Duration`: whole seconds, and nanoseconds below one second. -/
structure Duration where
  secs : UInt64
  nanos : Nat
  nanos_lt : nanos < 1000000000
  deriving DecidableEq, Repr

namespace Duration

def zero : Duration := ⟨0, 0, by decide⟩

def asNanos (d : Duration) : U128 := BitVec.ofNat 128 (d.secs.toNat * 1000000000 + d.nanos)

def asMillis (d : Duration) : U128 := BitVec.ofNat 128 (d.secs.toNat * 1000 + d.nanos / 1000000)

def fromNanos (nanos : UInt64) : Duration :=
  ⟨nanos / 1000000000, nanos.toNat % 1000000000, Nat.mod_lt _ (by decide)⟩

theorem asNanos_toNat (d : Duration) : d.asNanos.toNat = d.secs.toNat * 1000000000 + d.nanos := by
  have hsecs := d.secs.toNat_lt
  have hnanos := d.nanos_lt
  rw [asNanos, BitVec.toNat_ofNat]
  omega

theorem asNanos_lt (d : Duration) : d.asNanos.toNat < 2 ^ 64 * 1000000000 := by
  have hsecs := d.secs.toNat_lt
  have hnanos := d.nanos_lt
  rw [d.asNanos_toNat]
  omega

theorem asMillis_toNat (d : Duration) : d.asMillis.toNat = d.asNanos.toNat / 1000000 := by
  have hsecs := d.secs.toNat_lt
  have hnanos := d.nanos_lt
  rw [d.asNanos_toNat, asMillis, BitVec.toNat_ofNat]
  omega

theorem asNanos_fromNanos (nanos : UInt64) : (fromNanos nanos).asNanos.toNat = nanos.toNat := by
  rw [asNanos_toNat]
  show (nanos / 1000000000).toNat * 1000000000 + nanos.toNat % 1000000000 = nanos.toNat
  rw [UInt64.toNat_div]
  show nanos.toNat / 1000000000 * 1000000000 + _ = _
  omega

end Duration

structure NetworkClock where
  genesisTs : U128
  secondsPerSlot : U128
  deriving DecidableEq, Repr

namespace NetworkClock

/-- `Duration::from_secs(secs).as_nanos()`. -/
def nanosOfSecs (secs : UInt64) : U128 := BitVec.ofNat 128 (secs.toNat * 1000000000)

/-- From a genesis time and a slot time in seconds. -/
def new (genesisTs secondsPerSlot : UInt64) : NetworkClock :=
  ⟨nanosOfSecs genesisTs, nanosOfSecs secondsPerSlot⟩

/-- The timestamp in nanos of a given slot. -/
def slotTimestampNanos (clock : NetworkClock) (slot : UInt64) : U128 :=
  BitVec.ofNat 128 slot.toNat * clock.secondsPerSlot + clock.genesisTs

/-- The signed milliseconds delta until slot. -/
def timeUntilSlotSignedMs (clock : NetworkClock) (currentTime : U128) (slot : UInt64) : I128 :=
  (clock.slotTimestampNanos slot - currentTime).sdiv 1000000

/-- `u128::checked_sub`. -/
def checkedSub (a b : U128) : Option U128 := if b.toNat ≤ a.toNat then some (a - b) else none

/-- `u64::try_from(x).expect("overflow error")`. -/
def expectU64 (x : U128) : Except String UInt64 :=
  if x.toNat < 2 ^ 64 then .ok (UInt64.ofNat x.toNat) else .error "overflow error"

/-- The slot of the current time; `none` before the genesis. -/
def currentSlot (clock : NetworkClock) (currentTime : U128) : Except String (Option UInt64) :=
  match checkedSub currentTime clock.genesisTs with
  | none => .ok none
  | some sinceGenesis =>
    if clock.secondsPerSlot = 0 then .error "attempt to divide by zero"
    else some <$> expectU64 (sinceGenesis / clock.secondsPerSlot)

/-- The duration until the given slot; zero when it has begun. -/
def timeUntilSlot (clock : NetworkClock) (currentTime : U128) (slot : UInt64) :
    Except String Duration :=
  match checkedSub (clock.slotTimestampNanos slot) currentTime with
  | none => .ok .zero
  | some t => Duration.fromNanos <$> expectU64 t

def SECONDS_PER_SLOT : UInt64 := 12

/-- The clock of a chain: every chain has the same slot time. -/
def ofGenesis (genesisTs : UInt64) : NetworkClock := new genesisTs SECONDS_PER_SLOT

/-! ## What each function computes -/

theorem checkedSub_of_le {a b : U128} (h : b.toNat ≤ a.toNat) :
    ∃ d, checkedSub a b = some d ∧ d.toNat = a.toNat - b.toNat := by
  unfold checkedSub
  rw [if_pos h]
  exact ⟨a - b, rfl, BitVec.toNat_sub_of_le (BitVec.le_def.mpr h)⟩

theorem checkedSub_of_lt {a b : U128} (h : a.toNat < b.toNat) : checkedSub a b = none :=
  if_neg (by omega)

theorem expectU64_of_lt {x : U128} (h : x.toNat < 2 ^ 64) :
    ∃ u, expectU64 x = .ok u ∧ u.toNat = x.toNat := by
  unfold expectU64
  rw [if_pos h]
  exact ⟨UInt64.ofNat x.toNat, rfl, UInt64.toNat_ofNat_of_lt h⟩

theorem expectU64_of_ge {x : U128} (h : 2 ^ 64 ≤ x.toNat) :
    expectU64 x = .error "overflow error" :=
  if_neg (by omega)

theorem ofGenesis_genesisTs (genesisTs : UInt64) :
    (ofGenesis genesisTs).genesisTs.toNat = genesisTs.toNat * 1000000000 := by
  have hgenesis := genesisTs.toNat_lt
  show (nanosOfSecs genesisTs).toNat = _
  rw [nanosOfSecs, BitVec.toNat_ofNat]
  omega

theorem ofGenesis_secondsPerSlot (genesisTs : UInt64) :
    (ofGenesis genesisTs).secondsPerSlot.toNat = 12000000000 := rfl

/-- **The timestamp of a slot does not wrap.** -/
theorem slotTimestampNanos_toNat (genesisTs slot : UInt64) :
    ((ofGenesis genesisTs).slotTimestampNanos slot).toNat =
      slot.toNat * 12000000000 + genesisTs.toNat * 1000000000 := by
  have hslot := slot.toNat_lt
  have hgenesis := genesisTs.toNat_lt
  unfold slotTimestampNanos
  rw [BitVec.toNat_add, BitVec.toNat_mul, BitVec.toNat_ofNat, ofGenesis_secondsPerSlot,
    ofGenesis_genesisTs]
  omega

/-- The timestamps stay far below the sign bit of the difference. -/
theorem slotTimestampNanos_lt (genesisTs slot : UInt64) :
    ((ofGenesis genesisTs).slotTimestampNanos slot).toNat < 2 ^ 100 := by
  have hslot := slot.toNat_lt
  have hgenesis := genesisTs.toNat_lt
  rw [slotTimestampNanos_toNat]
  omega

theorem toInt_of_lt {x : U128} (h : x.toNat < 2 ^ 100) : BitVec.toInt x = x.toNat :=
  BitVec.toInt_eq_toNat_of_lt (by omega)

/-- **The signed delta does not wrap**: it is the truncated quotient of the exact difference. -/
theorem timeUntilSlotSignedMs_toInt (genesisTs : UInt64) (now : Duration) (slot : UInt64) :
    ((ofGenesis genesisTs).timeUntilSlotSignedMs now.asNanos slot).toInt =
      ((((ofGenesis genesisTs).slotTimestampNanos slot).toNat : Int) -
        now.asNanos.toNat).tdiv 1000000 := by
  have htarget := slotTimestampNanos_lt genesisTs slot
  have hnow : now.asNanos.toNat < 2 ^ 100 := Nat.lt_trans now.asNanos_lt (by decide)
  have hsub : ((ofGenesis genesisTs).slotTimestampNanos slot - now.asNanos).toInt =
      (((ofGenesis genesisTs).slotTimestampNanos slot).toNat : Int) - now.asNanos.toNat := by
    rw [BitVec.toInt_sub, toInt_of_lt htarget, toInt_of_lt hnow]
    exact Int.bmod_eq_of_le (by omega) (by omega)
  unfold timeUntilSlotSignedMs
  rw [BitVec.toInt_sdiv_of_ne_or_ne _ _ (.inr (by decide)), hsub]
  rfl

/-- Truncation towards zero and truncation at zero agree. -/
theorem max_zero_tdiv (a b : Nat) :
    max 0 (((a : Int) - b).tdiv 1000000) = ((a - b) / 1000000 : Nat) := by
  by_cases hle : b ≤ a
  · rw [← Int.ofNat_sub hle, Int.ofNat_tdiv]
    exact Int.max_eq_right (Int.natCast_nonneg _)
  · have hneg : ((a : Int) - b).tdiv 1000000 ≤ 0 := by
      have hquot := Int.tdiv_nonneg (Int.natCast_nonneg (b - a)) (Int.natCast_nonneg 1000000)
      rw [show (a : Int) - b = -((b - a : Nat) : Int) by omega, Int.neg_tdiv]
      exact Int.neg_nonpos_of_nonneg hquot
    rw [Int.max_eq_left hneg, Nat.sub_eq_zero_of_le (by omega)]
    rfl

/-! ## The clock agrees with itself -/

/-- What the clock promises of a genesis, a current time and a slot: `current` is the
slot that has begun and whose successor has not, `until_ms` the agreement of the two
distances, and the rest that nothing wraps. -/
structure Consistent (genesisTs : UInt64) (now : Duration) (slot : UInt64) : Prop where
  before : now.asNanos < (ofGenesis genesisTs).genesisTs →
    (ofGenesis genesisTs).currentSlot now.asNanos = .ok none
  current : (ofGenesis genesisTs).genesisTs ≤ now.asNanos →
    ∃ s, (ofGenesis genesisTs).currentSlot now.asNanos = .ok (some s) ∧
      ∀ s', (ofGenesis genesisTs).slotTimestampNanos s' ≤ now.asNanos ∧
        now.asNanos < (ofGenesis genesisTs).slotTimestampNanos (s' + 1) ↔ s' = s
  until_ms : ∃ d, (ofGenesis genesisTs).timeUntilSlot now.asNanos slot = .ok d ∧
    (d.asMillis.toNat : Int) =
      max 0 ((ofGenesis genesisTs).timeUntilSlotSignedMs now.asNanos slot).toInt
  timestamp_exact : ((ofGenesis genesisTs).slotTimestampNanos slot).toNat =
    slot.toNat * 12000000000 + genesisTs.toNat * 1000000000
  signed_exact : ((ofGenesis genesisTs).timeUntilSlotSignedMs now.asNanos slot).toInt =
    ((((ofGenesis genesisTs).slotTimestampNanos slot).toNat : Int) -
      now.asNanos.toNat).tdiv 1000000

theorem currentSlot_of_none {clock : NetworkClock} {currentTime : U128}
    (h : checkedSub currentTime clock.genesisTs = none) :
    clock.currentSlot currentTime = .ok none := by
  unfold currentSlot
  rw [h]

theorem currentSlot_of_some {clock : NetworkClock} {currentTime sinceGenesis : U128}
    (h : checkedSub currentTime clock.genesisTs = some sinceGenesis)
    (hslot : clock.secondsPerSlot ≠ 0) :
    clock.currentSlot currentTime = some <$> expectU64 (sinceGenesis / clock.secondsPerSlot) := by
  unfold currentSlot
  rw [h]
  exact if_neg hslot

/-- From the genesis on, the current slot counts the slots that have passed. -/
theorem currentSlot_of_le {genesisTs : UInt64} {now : Duration}
    (h : (ofGenesis genesisTs).genesisTs ≤ now.asNanos) :
    ∃ s, (ofGenesis genesisTs).currentSlot now.asNanos = .ok (some s) ∧
      s.toNat = (now.asNanos.toNat - genesisTs.toNat * 1000000000) / 12000000000 := by
  have hnow := now.asNanos_lt
  obtain ⟨since, hsub, hsince⟩ := checkedSub_of_le (BitVec.le_def.mp h)
  rw [ofGenesis_genesisTs] at hsince
  have hslot : (ofGenesis genesisTs).secondsPerSlot ≠ 0 := by
    intro hzero
    have hnat := congrArg BitVec.toNat hzero
    rw [ofGenesis_secondsPerSlot] at hnat
    exact absurd hnat (by decide)
  have hquot : (since / (ofGenesis genesisTs).secondsPerSlot).toNat =
      (now.asNanos.toNat - genesisTs.toNat * 1000000000) / 12000000000 := by
    rw [BitVec.toNat_udiv, ofGenesis_secondsPerSlot, hsince]
  have hfits : (since / (ofGenesis genesisTs).secondsPerSlot).toNat < 2 ^ 64 := by omega
  obtain ⟨s, hs, hsnat⟩ := expectU64_of_lt hfits
  refine ⟨s, ?_, hsnat.trans hquot⟩
  rw [currentSlot_of_some hsub hslot, hs]
  rfl

/-- The slots that have begun and whose successors have not are one slot. -/
theorem between_slots_iff {genesisTs : UInt64} {now : Duration} {s : UInt64}
    (h : (ofGenesis genesisTs).genesisTs ≤ now.asNanos)
    (hs : s.toNat = (now.asNanos.toNat - genesisTs.toNat * 1000000000) / 12000000000)
    (s' : UInt64) :
    (ofGenesis genesisTs).slotTimestampNanos s' ≤ now.asNanos ∧
      now.asNanos < (ofGenesis genesisTs).slotTimestampNanos (s' + 1) ↔ s' = s := by
  have hs' := s'.toNat_lt
  have hnow := now.asNanos_lt
  rw [BitVec.le_def, ofGenesis_genesisTs] at h
  rw [BitVec.le_def, BitVec.lt_def, slotTimestampNanos_toNat, slotTimestampNanos_toNat,
    UInt64.toNat_add, ← UInt64.toNat_inj]
  -- the largest slot has no successor to wait for, and is never the current one
  by_cases hlast : s'.toNat + 1 = 2 ^ 64
  · show _ ∧ _ < (s'.toNat + 1) % 2 ^ 64 * 12000000000 + _ ↔ _
    rw [hlast, Nat.mod_self]
    omega
  · show _ ∧ _ < (s'.toNat + 1) % 2 ^ 64 * 12000000000 + _ ↔ _
    rw [Nat.mod_eq_of_lt (by omega)]
    omega

theorem timeUntilSlot_of_none {clock : NetworkClock} {currentTime : U128} {slot : UInt64}
    (h : checkedSub (clock.slotTimestampNanos slot) currentTime = none) :
    clock.timeUntilSlot currentTime slot = .ok .zero := by
  unfold timeUntilSlot
  rw [h]

theorem timeUntilSlot_of_some {clock : NetworkClock} {currentTime t : U128} {slot : UInt64}
    (h : checkedSub (clock.slotTimestampNanos slot) currentTime = some t) :
    clock.timeUntilSlot currentTime slot = Duration.fromNanos <$> expectU64 t := by
  unfold timeUntilSlot
  rw [h]

/-- The duration until a slot is there exactly when its nanoseconds fit in a `u64`. -/
theorem timeUntilSlot_cases (clock : NetworkClock) (currentTime : U128) (slot : UInt64) :
    (∃ d, clock.timeUntilSlot currentTime slot = .ok d ∧
      d.asNanos.toNat = (clock.slotTimestampNanos slot).toNat - currentTime.toNat ∧
      d.asNanos.toNat < 2 ^ 64) ∨
    clock.timeUntilSlot currentTime slot = .error "overflow error" ∧
      2 ^ 64 ≤ (clock.slotTimestampNanos slot).toNat - currentTime.toNat := by
  by_cases hle : currentTime.toNat ≤ (clock.slotTimestampNanos slot).toNat
  · obtain ⟨t, hsub, ht⟩ := checkedSub_of_le hle
    rw [timeUntilSlot_of_some hsub]
    by_cases hfits : t.toNat < 2 ^ 64
    · obtain ⟨u, hu, hunat⟩ := expectU64_of_lt hfits
      rw [hu]
      refine .inl ⟨Duration.fromNanos u, rfl, ?_, ?_⟩
      · rw [Duration.asNanos_fromNanos, hunat, ht]
      · rw [Duration.asNanos_fromNanos, hunat]
        exact hfits
    · rw [expectU64_of_ge (by omega)]
      exact .inr ⟨rfl, by omega⟩
  · rw [timeUntilSlot_of_none (checkedSub_of_lt (by omega))]
    refine .inl ⟨.zero, rfl, ?_, by decide⟩
    rw [Nat.sub_eq_zero_of_le (by omega)]
    rfl

/-- **The clock agrees with itself** on a slot exactly when it begins less than `2 ^ 64`
nanoseconds from now. -/
theorem consistent_iff (genesisTs : UInt64) (now : Duration) (slot : UInt64) :
    Consistent genesisTs now slot ↔
      slot.toNat * 12000000000 + genesisTs.toNat * 1000000000 <
        now.secs.toNat * 1000000000 + now.nanos + 2 ^ 64 := by
  rw [← now.asNanos_toNat, ← slotTimestampNanos_toNat]
  constructor
  · intro h
    obtain ⟨d, hd, -⟩ := h.until_ms
    rcases timeUntilSlot_cases (ofGenesis genesisTs) now.asNanos slot with
      ⟨d', hd', hnanos, hlt⟩ | ⟨hpanic, -⟩
    · omega
    · rw [hd] at hpanic
      cases hpanic
  · intro hnear
    refine ⟨?_, ?_, ?_, slotTimestampNanos_toNat genesisTs slot,
      timeUntilSlotSignedMs_toInt genesisTs now slot⟩
    · intro hbefore
      exact currentSlot_of_none (checkedSub_of_lt (BitVec.lt_def.mp hbefore))
    · intro hle
      obtain ⟨s, hs, hsnat⟩ := currentSlot_of_le hle
      exact ⟨s, hs, between_slots_iff hle hsnat⟩
    · rcases timeUntilSlot_cases (ofGenesis genesisTs) now.asNanos slot with
        ⟨d, hd, hnanos, -⟩ | ⟨-, hfar⟩
      · refine ⟨d, hd, ?_⟩
        rw [timeUntilSlotSignedMs_toInt, max_zero_tdiv, Duration.asMillis_toNat, hnanos]
      · omega

/-- The slot two billion after a genesis at the epoch begins too far away: asking for the
time until it stops the task. -/
theorem far_slot_panics :
    (ofGenesis 0).timeUntilSlot Duration.zero.asNanos 2000000000 = .error "overflow error" ∧
    ¬ Consistent 0 .zero 2000000000 := by
  have hpanic : (ofGenesis 0).timeUntilSlot Duration.zero.asNanos 2000000000 =
      .error "overflow error" := rfl
  refine ⟨hpanic, fun h => ?_⟩
  obtain ⟨d, hd, -⟩ := h.until_ms
  rw [hpanic] at hd
  cases hd

end NetworkClock

end BlockBuilder
