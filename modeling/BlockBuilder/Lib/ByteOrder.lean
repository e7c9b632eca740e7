import Mathlib.Algebra.Order.Ring.Nat
import Mathlib.Tactic.Ring

/-!
# Numbers as bytes

`leBytes n v` is `v` in `n` bytes, least significant first, and `beBytes n v` the
same bytes the other way round; `ofLeBytes` and `ofBeBytes` read them back. A
number that does not fit loses its high bytes, which is what
`ofLeBytes_leBytes` says exactly. `leBytes_ofLeBytes` is the other direction:
nothing is lost by reading. `ByteOrder` is what the two orders have in common, for
what holds in both.
-/

namespace BlockBuilder.Lib

def leBytes : Nat → Nat → List UInt8
  | 0, _ => []
  | n + 1, v => UInt8.ofNat v :: leBytes n (v / 256)

def ofLeBytes : List UInt8 → Nat
  | [] => 0
  | b :: bs => b.toNat + 256 * ofLeBytes bs

def beBytes (n v : Nat) : List UInt8 := (leBytes n v).reverse

def ofBeBytes (bs : List UInt8) : Nat := ofLeBytes bs.reverse

@[simp] theorem length_leBytes (n v : Nat) : (leBytes n v).length = n := by
  induction n generalizing v with
  | zero => rfl
  | succ n ih => rw [leBytes, List.length_cons, ih]

@[simp] theorem length_beBytes (n v : Nat) : (beBytes n v).length = n := by
  rw [beBytes, List.length_reverse, length_leBytes]

theorem ofLeBytes_lt (bs : List UInt8) : ofLeBytes bs < 256 ^ bs.length := by
  induction bs with
  | nil => decide
  | cons b bs ih =>
    have hb : b.toNat < 256 := b.toNat_lt
    rw [ofLeBytes, List.length_cons, Nat.pow_succ]
    omega

theorem ofBeBytes_lt (bs : List UInt8) : ofBeBytes bs < 256 ^ bs.length := by
  rw [← List.length_reverse]
  exact ofLeBytes_lt _

/-- Reading back loses exactly what did not fit. -/
theorem ofLeBytes_leBytes (n v : Nat) : ofLeBytes (leBytes n v) = v % 256 ^ n := by
  induction n generalizing v with
  | zero => rw [leBytes, ofLeBytes, Nat.pow_zero, Nat.mod_one]
  | succ n ih =>
    have hb : (UInt8.ofNat v).toNat = v % 256 := UInt8.toNat_ofNat'
    rw [leBytes, ofLeBytes, ih, hb, Nat.pow_succ, Nat.mul_comm (256 ^ n), Nat.mod_mul]

theorem ofBeBytes_beBytes (n v : Nat) : ofBeBytes (beBytes n v) = v % 256 ^ n := by
  rw [ofBeBytes, beBytes, List.reverse_reverse, ofLeBytes_leBytes]

theorem leBytes_ofLeBytes (bs : List UInt8) : leBytes bs.length (ofLeBytes bs) = bs := by
  induction bs with
  | nil => rfl
  | cons b bs ih =>
    have hb : b.toNat < 256 := b.toNat_lt
    have hlow : UInt8.ofNat (b.toNat + 256 * ofLeBytes bs) = b := by
      apply UInt8.toNat_inj.mp
      rw [UInt8.toNat_ofNat']
      omega
    have hhigh : (b.toNat + 256 * ofLeBytes bs) / 256 = ofLeBytes bs := by omega
    rw [List.length_cons, ofLeBytes, leBytes, hlow, hhigh, ih]

theorem beBytes_ofBeBytes (bs : List UInt8) : beBytes bs.length (ofBeBytes bs) = bs := by
  rw [beBytes, ofBeBytes, ← List.length_reverse, leBytes_ofLeBytes, List.reverse_reverse]

/-- A way of writing numbers in bytes that loses nothing but what does not fit. -/
structure ByteOrder where
  toBytes : Nat → Nat → List UInt8
  ofBytes : List UInt8 → Nat
  length_toBytes : ∀ n v, (toBytes n v).length = n
  ofBytes_lt : ∀ bs, ofBytes bs < 256 ^ bs.length
  ofBytes_toBytes : ∀ n v, ofBytes (toBytes n v) = v % 256 ^ n
  toBytes_ofBytes : ∀ bs, toBytes bs.length (ofBytes bs) = bs

namespace ByteOrder

def little : ByteOrder where
  toBytes := leBytes
  ofBytes := ofLeBytes
  length_toBytes := length_leBytes
  ofBytes_lt := ofLeBytes_lt
  ofBytes_toBytes := ofLeBytes_leBytes
  toBytes_ofBytes := leBytes_ofLeBytes

def big : ByteOrder where
  toBytes := beBytes
  ofBytes := ofBeBytes
  length_toBytes := length_beBytes
  ofBytes_lt := ofBeBytes_lt
  ofBytes_toBytes := ofBeBytes_beBytes
  toBytes_ofBytes := beBytes_ofBeBytes

variable (order : ByteOrder)

theorem ofBytes_toBytes_of_lt {n v : Nat} (h : v < 256 ^ n) :
    order.ofBytes (order.toBytes n v) = v := by
  rw [order.ofBytes_toBytes, Nat.mod_eq_of_lt h]

/-- A number that fits is determined by its bytes. -/
theorem toBytes_inj {n v w : Nat} (hv : v < 256 ^ n) (hw : w < 256 ^ n)
    (h : order.toBytes n v = order.toBytes n w) : v = w := by
  have hread := congrArg order.ofBytes h
  rwa [order.ofBytes_toBytes_of_lt hv, order.ofBytes_toBytes_of_lt hw] at hread

end ByteOrder

/-- The bytes picked out one by one by shifts. -/
theorem leBytes_eq_map (n v : Nat) :
    leBytes n v = (List.range n).map fun i => UInt8.ofNat (v >>> (8 * i)) := by
  induction n generalizing v with
  | zero => rfl
  | succ n ih =>
    rw [leBytes, ih, List.range_succ_eq_map, List.map_cons, List.map_map]
    congr 1
    apply List.map_congr_left
    intro i _
    have hshift : v / 256 = v >>> 8 := by rw [Nat.shiftRight_eq_div_pow]
    rw [Function.comp_apply, hshift, ← Nat.shiftRight_add, Nat.mul_succ, Nat.add_comm]

theorem beBytes_eq_map (n v : Nat) :
    beBytes n v = (List.range n).map fun i => UInt8.ofNat (v >>> (8 * (n - 1 - i))) := by
  have hreverse : (List.range n).reverse = (List.range n).map fun i => n - 1 - i := by
    rw [List.range_eq_range', List.reverse_range', ← List.range_eq_range', Nat.zero_add]
  rw [beBytes, leBytes_eq_map, ← List.map_reverse, hreverse, List.map_map]
  rfl

end BlockBuilder.Lib
