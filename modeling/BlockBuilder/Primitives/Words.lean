import Mathlib.Algebra.Group.Int.Defs
import Mathlib.Algebra.Group.Nat.Defs

/-!
# The builder's machine words

Rust's `u64` is `UInt64`, whose arithmetic wraps as a release build's does.
The wider integers are `BitVec`s: ruint's `+` and `*` on `U256` wrap as well,
and its saturating operations are the three definitions below, each with the
exact value it computes.
-/

namespace BlockBuilder

abbrev U128 := BitVec 128
abbrev U256 := BitVec 256
/-- 32 opaque bytes: hashes and roots. -/
abbrev B256 := BitVec 256
abbrev Address := BitVec 160
abbrev Bytes := List UInt8
abbrev Uuid := BitVec 128
/-- A signed word, read with `toInt`. -/
abbrev I128 := BitVec 128

variable {w : Nat}

def saturatingAdd (a b : BitVec w) : BitVec w :=
  if BitVec.uaddOverflow a b then BitVec.allOnes w else a + b

def saturatingSub (a b : BitVec w) : BitVec w :=
  if b.toNat ≤ a.toNat then a - b else 0#w

def saturatingMul (a b : BitVec w) : BitVec w :=
  if BitVec.umulOverflow a b then BitVec.allOnes w else a * b

/-- The 32 bytes of a hash, most significant first. -/
def B256.asSlice (h : B256) : Bytes :=
  (List.range 32).map fun i => UInt8.ofNat (h.toNat >>> (8 * (31 - i)))

/-- Saturating subtraction is subtraction of naturals. -/
@[simp] theorem saturatingSub_toNat (a b : BitVec w) :
    (saturatingSub a b).toNat = a.toNat - b.toNat := by
  unfold saturatingSub
  split
  next h =>
    rw [BitVec.toNat_sub_of_le (BitVec.le_def.mpr h)]
  next h =>
    rw [BitVec.toNat_ofNat, Nat.zero_mod]
    omega

theorem saturatingAdd_toNat (a b : BitVec w) :
    (saturatingAdd a b).toNat = min (a.toNat + b.toNat) (2 ^ w - 1) := by
  unfold saturatingAdd BitVec.uaddOverflow
  split
  next h =>
    have h' := of_decide_eq_true h
    rw [BitVec.toNat_allOnes]
    omega
  next h =>
    have h' : a.toNat + b.toNat < 2 ^ w := by simpa using h
    rw [BitVec.toNat_add_of_lt h']
    omega

/-- Saturating multiplication is multiplication of naturals, up to the largest word. -/
theorem saturatingMul_toNat (a b : BitVec w) :
    (saturatingMul a b).toNat = min (a.toNat * b.toNat) (2 ^ w - 1) := by
  unfold saturatingMul BitVec.umulOverflow
  split
  next h =>
    have h' := of_decide_eq_true h
    rw [BitVec.toNat_allOnes]
    omega
  next h =>
    have h' : a.toNat * b.toNat < 2 ^ w := by simpa using h
    rw [BitVec.toNat_mul, Nat.mod_eq_of_lt h']
    omega

/-- `Ord::max`. -/
def wordMax (a b : BitVec w) : BitVec w := if a ≤ b then b else a

/-- `Ord::min`. -/
def wordMin (a b : BitVec w) : BitVec w := if a ≤ b then a else b

@[simp] theorem wordMax_toNat (a b : BitVec w) : (wordMax a b).toNat = max a.toNat b.toNat := by
  unfold wordMax
  split
  next h => exact (Nat.max_eq_right (BitVec.le_def.mp h)).symm
  next h => exact (Nat.max_eq_left (Nat.le_of_lt (BitVec.not_le.mp h))).symm

@[simp] theorem wordMin_toNat (a b : BitVec w) : (wordMin a b).toNat = min a.toNat b.toNat := by
  unfold wordMin
  split
  next h => exact (Nat.min_eq_left (BitVec.le_def.mp h)).symm
  next h => exact (Nat.min_eq_right (Nat.le_of_lt (BitVec.not_le.mp h))).symm

/-- What stops a task: an arithmetic operation without a result. -/
inductive Panic where
  | valueNegative
  | divisionByZero
  deriving DecidableEq, Repr

/-- `U256::from` on an `i128`, which panics on a negative number. -/
def U256.ofI128 (x : I128) : Except Panic U256 :=
  if x.toInt < 0 then .error .valueNegative else .ok (BitVec.ofNat 256 x.toInt.toNat)

/-- `Uint::div`. -/
def U256.div (a b : U256) : Except Panic U256 :=
  if b = 0 then .error .divisionByZero else .ok (a / b)

/-- `U256::from` on a `u64`. -/
def U256.ofU64 (x : UInt64) : U256 := BitVec.ofNat 256 x.toNat

/-- `U256::from` on a `u128`. -/
def U256.ofU128 (x : U128) : U256 := BitVec.ofNat 256 x.toNat

@[simp] theorem U256.ofU64_toNat (x : UInt64) : (U256.ofU64 x).toNat = x.toNat := by
  have := x.toNat_lt
  rw [U256.ofU64, BitVec.toNat_ofNat]
  omega

@[simp] theorem U256.ofU128_toNat (x : U128) : (U256.ofU128 x).toNat = x.toNat := by
  have := x.isLt
  rw [U256.ofU128, BitVec.toNat_ofNat]
  omega

/-- `U256::from(miner_fee) * U256::from(gas_used)` never overflows. -/
theorem U256.ofU128_mul_ofU64_toNat (x : U128) (y : UInt64) :
    (U256.ofU128 x * U256.ofU64 y).toNat = x.toNat * y.toNat := by
  have hx : x.toNat < 2 ^ 128 := x.isLt
  have hy : y.toNat < 2 ^ 64 := y.toNat_lt
  have hxy : x.toNat * y.toNat < 2 ^ 128 * 2 ^ 64 := Nat.mul_lt_mul'' hx hy
  rw [BitVec.toNat_mul, U256.ofU128_toNat, U256.ofU64_toNat]
  exact Nat.mod_eq_of_lt (by omega)

/-- A number a little out of the signed range does not wrap to one that is not negative. -/
theorem bmod_of_nonneg {d : Int} (hlow : -2 ^ 127 ≤ d) (hhigh : d < 2 ^ 128)
    (h : 0 ≤ d.bmod (2 ^ 128)) : d.bmod (2 ^ 128) = d := by
  rw [Int.bmod_def] at h ⊢
  split at h
  next hlt =>
    rw [if_pos hlt]
    omega
  next hge =>
    rw [if_neg hge]
    omega

theorem I128.toInt_add_of_nonneg {x y : I128} (hy : 0 ≤ y.toInt) (h : 0 ≤ (x + y).toInt) :
    (x + y).toInt = x.toInt + y.toInt := by
  have hx := x.toInt_lt
  have hx' := x.le_toInt
  have hy' := y.toInt_lt
  rw [BitVec.toInt_add] at h ⊢
  exact bmod_of_nonneg (by omega) (by omega) h

theorem I128.toInt_sub_of_nonneg {x y : I128} (hle : y.toInt ≤ x.toInt)
    (h : 0 ≤ (x - y).toInt) : (x - y).toInt = x.toInt - y.toInt := by
  have hx := x.toInt_lt
  have hy := y.le_toInt
  rw [BitVec.toInt_sub] at h ⊢
  exact bmod_of_nonneg (by omega) (by omega) h

/-- A number a little out of the signed range wraps to a negative one. -/
theorem bmod_nonneg_iff {d : Int} (hlow : -2 ^ 127 ≤ d) (hhigh : d < 2 ^ 128) :
    0 ≤ d.bmod (2 ^ 128) ↔ 0 ≤ d ∧ d < 2 ^ 127 := by
  rw [Int.bmod_def]
  split
  next => omega
  next => omega

theorem I128.toInt_add_nonneg_iff {x y : I128} (hy : 0 ≤ y.toInt) :
    0 ≤ (x + y).toInt ↔ 0 ≤ x.toInt + y.toInt ∧ x.toInt + y.toInt < 2 ^ 127 := by
  have hx := x.toInt_lt
  have hx' := x.le_toInt
  have hy' := y.toInt_lt
  rw [BitVec.toInt_add]
  exact bmod_nonneg_iff (by omega) (by omega)

theorem I128.toInt_sub_nonneg_iff {x y : I128} (hle : y.toInt ≤ x.toInt) :
    0 ≤ (x - y).toInt ↔ x.toInt - y.toInt < 2 ^ 127 := by
  have hx := x.toInt_lt
  have hy := y.le_toInt
  rw [BitVec.toInt_sub, bmod_nonneg_iff (by omega) (by omega)]
  omega

theorem U256.exists_ofI128_iff (x : I128) : (∃ u, U256.ofI128 x = .ok u) ↔ 0 ≤ x.toInt := by
  unfold U256.ofI128
  split
  next hneg =>
    constructor
    · intro ⟨_, h⟩
      cases h
    · intro h
      omega
  next hnonneg => exact ⟨fun _ => by omega, fun _ => ⟨_, rfl⟩⟩

theorem U256.exists_div_iff (a b : U256) : (∃ u, U256.div a b = .ok u) ↔ b ≠ 0 := by
  unfold U256.div
  split
  next hzero =>
    constructor
    · intro ⟨_, h⟩
      cases h
    · intro h
      exact absurd hzero h
  next hb => exact ⟨fun _ => hb, fun _ => ⟨_, rfl⟩⟩

theorem U256.ofI128_eq_ok {x : I128} {u : U256} (h : U256.ofI128 x = .ok u) :
    0 ≤ x.toInt ∧ (u.toNat : Int) = x.toInt := by
  unfold U256.ofI128 at h
  split at h
  next => cases h
  next hx =>
    cases h
    have hlt : x.toInt.toNat < 2 ^ 128 := by
      have := x.toInt_lt
      omega
    rw [BitVec.toNat_ofNat, Nat.mod_eq_of_lt (by omega)]
    omega

theorem U256.div_eq_ok {a b u : U256} (h : U256.div a b = .ok u) :
    b ≠ 0 ∧ u.toNat = a.toNat / b.toNat := by
  unfold U256.div at h
  split at h
  next => cases h
  next hb =>
    cases h
    exact ⟨hb, BitVec.toNat_udiv⟩

end BlockBuilder
