import BlockBuilder.Lib.Settles
import BlockBuilder.Primitives.Payload

/-!
# Where suggested gas limits lead (`crates/primitives/src/validator.rs`)

One suggestion is sound for every parent from 5000 to `2 ^ 63 - 1`
(`validStep_of_le`): it stays within the bound that consensus puts on two
consecutive limits and moves towards the target. Block after block the limit then
climbs or falls to the target.

The climb can leave the range. `parent + delta` is a `u64` sum, and for a target
in the last thousandth of the range the sum may pass `2 ^ 64` before the target
is reached; it wraps to a small number, from which the limit may never recover
(`wrapped_limit_stays`). `climb` is the step without a word size, and
`valid_and_convergent_iff` says that the suggestions lead to the target if and
only if the climb meets the target below `2 ^ 64`.
-/

namespace BlockBuilder

open Lib (Settles settles_of_measure)

namespace ValidatorScheduleSlotInfo

/-! ## One suggestion -/

/-- The next limit on the way up, in unbounded arithmetic. -/
def climb (p : Nat) : Nat := p + p / 1024 - 1

theorem delta_toNat {p : UInt64} (hp : 5000 ≤ p.toNat) :
    (p / GAS_LIMIT_BOUND_DIVISOR - 1).toNat = p.toNat / 1024 - 1 := by
  have hlt := p.toNat_lt
  rw [UInt64.toNat_sub, UInt64.toNat_div]
  show (2 ^ 64 - 1 + p.toNat / 1024) % 2 ^ 64 = p.toNat / 1024 - 1
  omega

theorem suggestGasLimit_up {info : ValidatorScheduleSlotInfo} {p : UInt64}
    (hp : 5000 ≤ p.toNat) (hbelow : p.toNat < info.desiredLimit.toNat)
    (hfits : climb p.toNat < 2 ^ 64) :
    (info.suggestGasLimit p).toNat = min info.desiredLimit.toNat (climb p.toNat) := by
  have hdelta := delta_toNat hp
  have hsum : (p + (p / GAS_LIMIT_BOUND_DIVISOR - 1)).toNat = climb p.toNat := by
    unfold climb at hfits ⊢
    rw [UInt64.toNat_add, hdelta]
    omega
  unfold suggestGasLimit
  rw [if_neg (by rw [← UInt64.toNat_inj]; show p.toNat ≠ 0; omega),
    if_pos (UInt64.lt_iff_toNat_lt.mpr hbelow)]
  show (if _ then _ else _ : UInt64).toNat = _
  rw [apply_ite UInt64.toNat, hsum]
  simp only [UInt64.lt_iff_toNat_lt, hsum]
  split <;> omega

theorem suggestGasLimit_down {info : ValidatorScheduleSlotInfo} {p : UInt64}
    (hp : 5000 ≤ p.toNat) (habove : info.desiredLimit.toNat < p.toNat) :
    (info.suggestGasLimit p).toNat =
      max info.desiredLimit.toNat (p.toNat - (p.toNat / 1024 - 1)) := by
  have hlt := p.toNat_lt
  have hdelta := delta_toNat hp
  have hdiff : (p - (p / GAS_LIMIT_BOUND_DIVISOR - 1)).toNat =
      p.toNat - (p.toNat / 1024 - 1) := by
    rw [UInt64.toNat_sub, hdelta]
    omega
  unfold suggestGasLimit
  rw [if_neg (by rw [← UInt64.toNat_inj]; show p.toNat ≠ 0; omega),
    if_neg (by rw [UInt64.lt_iff_toNat_lt]; omega),
    if_pos (UInt64.lt_iff_toNat_lt.mpr habove)]
  show (if _ then _ else _ : UInt64).toNat = _
  rw [apply_ite UInt64.toNat, hdiff]
  simp only [UInt64.lt_iff_toNat_lt, hdiff]
  split <;> omega

theorem suggestGasLimit_target (info : ValidatorScheduleSlotInfo) :
    info.suggestGasLimit info.desiredLimit = info.desiredLimit :=
  (info.suggestGasLimit_eq_self_iff _).mpr (.inl rfl)

/-- What is asked of one suggestion: the arithmetic on words is exact, the limit stays
above the minimum and within the consensus bound, and moves towards the target. -/
structure ValidStep (info : ValidatorScheduleSlotInfo) (p : UInt64) : Prop where
  no_underflow : 1 ≤ p.toNat / 1024 ∧ p.toNat / 1024 - 1 ≤ p.toNat
  no_overflow : p < info.desiredLimit → p.toNat + (p.toNat / 1024 - 1) < 2 ^ 64
  above_min : 5000 ≤ (info.suggestGasLimit p).toNat
  within_bound :
    ((info.suggestGasLimit p).toNat - p.toNat : Int).natAbs < p.toNat / 1024
  between : p ≤ info.suggestGasLimit p ∧ info.suggestGasLimit p ≤ info.desiredLimit ∨
    info.desiredLimit ≤ info.suggestGasLimit p ∧ info.suggestGasLimit p ≤ p
  progress : info.suggestGasLimit p = p → p = info.desiredLimit

/-- **A suggestion is valid exactly when its sum fits.** -/
theorem validStep_iff (info : ValidatorScheduleSlotInfo) {p : UInt64} (hp : 5000 ≤ p.toNat) :
    ValidStep info p ↔ (p < info.desiredLimit → climb p.toNat < 2 ^ 64) := by
  have hmin := info.min_le_desiredLimit
  constructor
  · intro h hbelow
    have hfits := h.no_overflow hbelow
    unfold climb
    omega
  · intro hfits
    have hlimit : (info.suggestGasLimit p).toNat =
        if p.toNat < info.desiredLimit.toNat then
          min info.desiredLimit.toNat (climb p.toNat)
        else max info.desiredLimit.toNat (p.toNat - (p.toNat / 1024 - 1)) := by
      split
      next hbelow => exact suggestGasLimit_up hp hbelow (hfits (UInt64.lt_iff_toNat_lt.mpr hbelow))
      next hnot =>
        by_cases heq : p = info.desiredLimit
        · rw [heq, info.suggestGasLimit_target]
          omega
        · rw [← UInt64.toNat_inj] at heq
          exact suggestGasLimit_down hp (by omega)
    rw [UInt64.lt_iff_toNat_lt] at hfits
    unfold climb at hlimit hfits
    refine ⟨by omega, ?_, ?_, ?_, ?_, ?_⟩
    · intro hbelow
      have := hfits (UInt64.lt_iff_toNat_lt.mp hbelow)
      omega
    · split at hlimit <;> omega
    · split at hlimit <;> omega
    · simp only [UInt64.le_iff_toNat_le]
      split at hlimit <;> omega
    · simp only [← UInt64.toNat_inj]
      intro hself
      split at hlimit <;> omega

/-- **One suggestion is sound** for every parent limit that consensus allows. -/
theorem validStep_of_le (info : ValidatorScheduleSlotInfo) {p : UInt64} (hp : 5000 ≤ p.toNat)
    (hmax : p.toNat ≤ 2 ^ 63 - 1) : ValidStep info p := by
  refine (info.validStep_iff hp).mpr fun _ => ?_
  unfold climb
  omega

/-! ## Block after block -/

/-- The limit `n` blocks after a block with limit `p`. -/
def suggested (info : ValidatorScheduleSlotInfo) (p : UInt64) (n : Nat) : UInt64 :=
  info.suggestGasLimit^[n] p

/-- Every suggestion on the way is valid, and the way leads to the target. -/
structure Converges (info : ValidatorScheduleSlotInfo) (p : UInt64) : Prop where
  valid : ∀ n, ValidStep info (info.suggested p n)
  settles : Settles info.suggestGasLimit info.desiredLimit p

/-- The climb from `p` meets the target within the word; a fall always does. -/
def Fits (info : ValidatorScheduleSlotInfo) (p : UInt64) : Prop :=
  info.desiredLimit ≤ p ∨
    ∃ n, info.desiredLimit.toNat ≤ climb^[n] p.toNat ∧ climb^[n] p.toNat < 2 ^ 64

theorem Converges.next {info : ValidatorScheduleSlotInfo} {p : UInt64}
    (h : Converges info (info.suggestGasLimit p)) (hp : ValidStep info p) : Converges info p where
  valid := by
    intro n
    cases n with
    | zero => exact hp
    | succ n => exact h.valid n
  settles := h.settles.next

theorem converges_target (info : ValidatorScheduleSlotInfo) :
    Converges info info.desiredLimit where
  valid := by
    intro n
    rw [suggested, Function.iterate_fixed info.suggestGasLimit_target]
    exact (info.validStep_iff info.min_le_desiredLimit).mpr fun hlt => absurd hlt (by simp)
  settles := .of_fixed info.suggestGasLimit_target

/-- From above the limit falls to the target, by the distance left. -/
theorem converges_of_ge (info : ValidatorScheduleSlotInfo) {p : UInt64}
    (h : info.desiredLimit ≤ p) : Converges info p := by
  have hmin := info.min_le_desiredLimit
  have hstep : ∀ q : UInt64, info.desiredLimit ≤ q → q ≠ info.desiredLimit →
      info.desiredLimit ≤ info.suggestGasLimit q ∧
        (info.suggestGasLimit q).toNat < q.toNat := by
    intro q hq hne
    rw [UInt64.le_iff_toNat_le] at hq ⊢
    rw [ne_eq, ← UInt64.toNat_inj] at hne
    rw [suggestGasLimit_down (by omega) (by omega)]
    omega
  have hkeep : ∀ q : UInt64, info.desiredLimit ≤ q →
      info.desiredLimit ≤ info.suggestGasLimit q := by
    intro q hq
    by_cases heq : q = info.desiredLimit
    · rw [heq, info.suggestGasLimit_target]
      exact UInt64.le_refl _
    · exact (hstep q hq heq).1
  constructor
  · intro n
    have hn : info.desiredLimit ≤ info.suggested p n := by
      induction n with
      | zero => exact h
      | succ n ih =>
        rw [suggested, Function.iterate_succ_apply']
        exact hkeep _ ih
    have hnat := UInt64.le_iff_toNat_le.mp hn
    refine (info.validStep_iff (by omega)).mpr fun hlt => ?_
    have := UInt64.lt_iff_toNat_lt.mp hlt
    omega
  · exact settles_of_measure UInt64.toNat info.suggestGasLimit_target hstep p h

theorem le_climb_iterate (n : Nat) : ∀ p, 5000 ≤ p → p + 3 * n ≤ climb^[n] p := by
  induction n with
  | zero => exact fun p _ => Nat.le_refl p
  | succ n ih =>
    intro p hp
    have hclimb : p + 3 ≤ climb p := by
      unfold climb
      omega
    have hrest := ih (climb p) (by omega)
    rw [Function.iterate_succ_apply]
    omega

/-- From below the limit climbs as the unbounded climb does, until the target is near. -/
theorem converges_of_climb (info : ValidatorScheduleSlotInfo) :
    ∀ (n : Nat) {p : UInt64}, 5000 ≤ p.toNat → info.desiredLimit.toNat ≤ climb^[n] p.toNat →
      climb^[n] p.toNat < 2 ^ 64 → Converges info p := by
  intro n
  induction n with
  | zero =>
    intro p _ hreach _
    exact info.converges_of_ge (UInt64.le_iff_toNat_le.mpr hreach)
  | succ n ih =>
    intro p hp hreach hword
    by_cases hle : info.desiredLimit ≤ p
    · exact info.converges_of_ge hle
    · have hbelow := UInt64.lt_iff_toNat_lt.mp (UInt64.not_le.mp hle)
      rw [Function.iterate_succ_apply] at hreach hword
      have hgrows : 5000 ≤ climb p.toNat := by
        unfold climb
        omega
      have hlater := le_climb_iterate n (climb p.toNat) hgrows
      have hfits : climb p.toNat < 2 ^ 64 := by omega
      have hlimit := suggestGasLimit_up hp hbelow hfits
      refine .next ?_ ((info.validStep_iff hp).mpr fun _ => hfits)
      by_cases hnear : info.desiredLimit.toNat ≤ climb p.toNat
      · rw [Nat.min_eq_left hnear, UInt64.toNat_inj] at hlimit
        rw [hlimit]
        exact info.converges_target
      · rw [Nat.min_eq_right (by omega)] at hlimit
        rw [← hlimit] at hreach hword hgrows
        exact ih hgrows hreach hword

/-- As long as the suggestions are valid they follow the climb, until it meets the target. -/
theorem suggested_eq_climb {info : ValidatorScheduleSlotInfo} {p : UInt64}
    (hp : 5000 ≤ p.toNat) (hbelow : p.toNat < info.desiredLimit.toNat)
    (hvalid : ∀ n, ValidStep info (info.suggested p n)) (n : Nat) :
    (∃ k, info.desiredLimit.toNat ≤ climb^[k] p.toNat ∧ climb^[k] p.toNat < 2 ^ 64) ∨
    (info.suggested p n).toNat = climb^[n] p.toNat ∧
      climb^[n] p.toNat < info.desiredLimit.toNat := by
  induction n with
  | zero => exact .inr ⟨rfl, hbelow⟩
  | succ n ih =>
    rcases ih with hmet | ⟨hsame, hlow⟩
    · exact .inl hmet
    · have hpn := le_climb_iterate n p.toNat hp
      have hfits := ((info.validStep_iff (by omega)).mp (hvalid n))
        (UInt64.lt_iff_toNat_lt.mpr (by omega))
      have hlimit : (info.suggestGasLimit (info.suggested p n)).toNat =
          min info.desiredLimit.toNat (climb (info.suggested p n).toNat) :=
        suggestGasLimit_up (by omega) (by omega) hfits
      rw [hsame] at hfits hlimit
      rw [suggested, Function.iterate_succ_apply', Function.iterate_succ_apply']
      by_cases hmet : info.desiredLimit.toNat ≤ climb (climb^[n] p.toNat)
      · refine .inl ⟨n + 1, ?_, ?_⟩
        · rw [Function.iterate_succ_apply']
          exact hmet
        · rw [Function.iterate_succ_apply']
          exact hfits
      · refine .inr ⟨?_, by omega⟩
        rw [Nat.min_eq_right (by omega)] at hlimit
        exact hlimit

theorem converges_iff (info : ValidatorScheduleSlotInfo) {p : UInt64} (hp : 5000 ≤ p.toNat) :
    Converges info p ↔ Fits info p := by
  constructor
  · intro h
    by_cases hle : info.desiredLimit ≤ p
    · exact .inl hle
    · refine .inr ?_
      have hbelow := UInt64.lt_iff_toNat_lt.mp (UInt64.not_le.mp hle)
      obtain ⟨n, hn⟩ := h.settles
      rcases suggested_eq_climb hp hbelow h.valid n with hmet | ⟨hsame, hlow⟩
      · exact hmet
      · -- at the target and still below it
        rw [suggested, hn n (Nat.le_refl n)] at hsame
        omega
  · intro h
    rcases h with hle | ⟨n, hreach, hword⟩
    · exact info.converges_of_ge hle
    · exact info.converges_of_climb n hp hreach hword

/-- **When suggested limits are valid and converge.** For every parent limit that consensus
allows and every registration the suggestion is valid; it and all that follow it lead to the
target if and only if the climb meets the target within the word. -/
theorem valid_and_convergent_iff (info : ValidatorScheduleSlotInfo) (p : UInt64)
    (hp : 5000 ≤ p.toNat) (hmax : p.toNat ≤ 2 ^ 63 - 1) :
    ValidStep info p ∧ (Converges info p ↔ Fits info p) :=
  ⟨info.validStep_of_le hp hmax, info.converges_iff hp⟩

/-- **A target that no climb can pass over**: all but the last thousandth of the words. -/
theorem fits_of_target_le (info : ValidatorScheduleSlotInfo) {p : UInt64} (hp : 5000 ≤ p.toNat)
    (htarget : info.desiredLimit.toNat ≤ 18428747250223005713) : Fits info p := by
  -- by the distance left to the target
  induction hd : info.desiredLimit.toNat - p.toNat using Nat.strongRecOn generalizing p with
  | ind d ih =>
    by_cases hle : info.desiredLimit ≤ p
    · exact .inl hle
    · have hbelow := UInt64.lt_iff_toNat_lt.mp (UInt64.not_le.mp hle)
      have hclimb : climb p.toNat < 2 ^ 64 ∧ p.toNat < climb p.toNat := by
        unfold climb
        omega
      have hword : (UInt64.ofNat (climb p.toNat)).toNat = climb p.toNat :=
        UInt64.toNat_ofNat_of_lt hclimb.1
      have hnext : Fits info (UInt64.ofNat (climb p.toNat)) :=
        ih _ (by omega) (by omega) rfl
      refine .inr ?_
      rcases hnext with hmet | ⟨n, hreach, hfits⟩
      · rw [UInt64.le_iff_toNat_le, hword] at hmet
        exact ⟨1, hmet, hclimb.1⟩
      · rw [hword] at hreach hfits
        exact ⟨n + 1, hreach, hfits⟩

end ValidatorScheduleSlotInfo

open ValidatorScheduleSlotInfo

/-- A registration of the largest limit. -/
def largestLimit : ValidatorScheduleSlotInfo where
  proposer := []
  feeRecipient := 0
  gasLimit := 18446744073709551615
  slot := 1

/-- The suggestions of an ordinary registration converge. -/
theorem valid_and_convergent_ordinary :
    ValidStep { largestLimit with gasLimit := 30000000 } 15000000 ∧
    (Converges { largestLimit with gasLimit := 30000000 } 15000000 ↔
      Fits { largestLimit with gasLimit := 30000000 } 15000000) :=
  valid_and_convergent_iff { largestLimit with gasLimit := 30000000 } 15000000
    (by decide) (by decide)

/-- From a limit below `2 ^ 63` the climb to the largest limit wraps after 711 blocks, to a
limit of 1026 that no further block changes. -/
theorem wrapped_limit_stays :
    5000 ≤ (9215535996658419795 : UInt64).toNat ∧
    (9215535996658419795 : UInt64).toNat ≤ 2 ^ 63 - 1 ∧
    (∀ n, 711 ≤ n → largestLimit.suggested 9215535996658419795 n = 1026) ∧
    ¬ Converges largestLimit 9215535996658419795 := by
  have hstuck : ∀ n, 711 ≤ n → largestLimit.suggested 9215535996658419795 n = 1026 := by
    intro n hn
    have hwrapped : largestLimit.suggestGasLimit^[711] 9215535996658419795 = 1026 := by
      decide +kernel
    have hfixed : largestLimit.suggestGasLimit 1026 = 1026 := by decide
    rw [suggested, show n = (n - 711) + 711 by omega, Function.iterate_add_apply, hwrapped,
      Function.iterate_fixed hfixed]
  refine ⟨by decide, by decide, hstuck, fun h => ?_⟩
  obtain ⟨m, hm⟩ := h.settles
  have htarget := hm (m + 711) (by omega)
  have hlow := hstuck (m + 711) (by omega)
  rw [suggested, htarget] at hlow
  exact absurd hlow (by decide)

end BlockBuilder
