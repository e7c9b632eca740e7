import BlockBuilder.Lib.ByteOrder
import Mathlib.Data.List.Forall2

/-!
# Fields laid out by offsets

A run of fields is written in two parts. The head has a slot for each field: the
field itself where its length is fixed, and otherwise four bytes that say where
it starts. The body has the fields that the head only points at, in order.
`split` undoes it: it takes the bytes of each field out again, having checked
that the first offset points just past the head and that the others are in order
and in bounds.

`split_layOut` is when it does: exactly when every offset written fits in its four
bytes, since an offset that does not loses its high bytes. `layOut_of_split` is the
other direction, with nothing assumed: what is split is laid out so.

`split` runs over the slots once and checks each offset against the one after
it, so where two checks fail it may report the later one.
-/

namespace BlockBuilder.Lib

inductive DecodeError where
  | invalidByteLength (len expected : Nat)
  | invalidLengthPrefix (len expected : Nat)
  | offsetOutOfBounds (offset : Nat)
  | offsetsAreDecreasing (offset : Nat)
  | offsetIntoFixedPortion (offset : Nat)
  | offsetSkipsVariableBytes (offset : Nat)
  | invalidListFixedBytesLen (offset : Nat)
  | bytesInvalid (message : String)
  deriving DecidableEq, Repr

def bytesPerLengthOffset : Nat := 4

inductive Slot where
  | inline (len : Nat)
  | offset
  deriving DecidableEq, Repr

namespace Slot

def len : Slot → Nat
  | inline len => len
  | offset => bytesPerLengthOffset

/-- The bytes are of a length the slot can hold. -/
def Holds : Slot → List UInt8 → Prop
  | inline len, value => value.length = len
  | offset, _ => True

end Slot

def headLen (slots : List Slot) : Nat := (slots.map Slot.len).sum

@[simp] theorem headLen_cons (slot : Slot) (slots : List Slot) :
    headLen (slot :: slots) = slot.len + headLen slots :=
  List.sum_cons

/-- The low four bytes of a length. -/
def encodeLength (len : Nat) : List UInt8 := leBytes bytesPerLengthOffset len

def readOffset (bytes : List UInt8) : Except DecodeError Nat :=
  if bytes.length < bytesPerLengthOffset then
    .error (.invalidLengthPrefix bytes.length bytesPerLengthOffset)
  else
    .ok (ofLeBytes (bytes.take bytesPerLengthOffset))

/-- The head, the next field of the body starting at `next`. -/
def head : Nat → List Slot → List (List UInt8) → List UInt8
  | next, .inline _ :: slots, value :: values => value ++ head next slots values
  | next, .offset :: slots, value :: values =>
      encodeLength next ++ head (next + value.length) slots values
  | _, _, _ => []

def body : List Slot → List (List UInt8) → List UInt8
  | .inline _ :: slots, _ :: values => body slots values
  | .offset :: slots, value :: values => value ++ body slots values
  | _, _ => []

def layOut (start : Nat) (slots : List Slot) (values : List (List UInt8)) : List UInt8 :=
  head start slots values ++ body slots values

/-- Every offset the head writes fits in its bytes. -/
def OffsetsFit : Nat → List Slot → List (List UInt8) → Prop
  | next, .inline _ :: slots, _ :: values => OffsetsFit next slots values
  | next, .offset :: slots, value :: values =>
      next < 256 ^ bytesPerLengthOffset ∧ OffsetsFit (next + value.length) slots values
  | _, _, _ => True

/-- The fields in the slots from `index` on, and where the first of them that is
not in its slot starts. -/
def splitFrom (bytes : List UInt8) : Nat → List Slot → Except DecodeError (List (List UInt8) × Nat)
  | _, [] => .ok ([], bytes.length)
  | index, .inline len :: slots =>
      if index + len ≤ bytes.length then do
        let (values, next) ← splitFrom bytes (index + len) slots
        return ((bytes.drop index).take len :: values, next)
      else
        .error (.invalidByteLength bytes.length (index + len))
  | index, .offset :: slots => do
      let offset ← readOffset (bytes.drop index)
      let (values, next) ← splitFrom bytes (index + bytesPerLengthOffset) slots
      if offset ≤ next then
        return ((bytes.take next).drop offset :: values, offset)
      else if bytes.length < offset then
        .error (.offsetOutOfBounds offset)
      else
        .error (.offsetsAreDecreasing offset)

def split (slots : List Slot) (bytes : List UInt8) : Except DecodeError (List (List UInt8)) := do
  let (values, first) ← splitFrom bytes 0 slots
  if first = headLen slots then
    return values
  else if .offset ∉ slots then
    .error (.invalidByteLength bytes.length (headLen slots))
  else if first < headLen slots then
    .error (.offsetIntoFixedPortion first)
  else
    .error (.offsetSkipsVariableBytes first)

theorem except_bind_eq_ok {ε α β : Type} {x : Except ε α} {f : α → Except ε β} {b : β} :
    x >>= f = .ok b ↔ ∃ a, x = .ok a ∧ f a = .ok b := by
  cases x with
  | error e =>
    constructor
    · intro h
      cases h
    · rintro ⟨_, h, _⟩
      cases h
  | ok a =>
    constructor
    · exact fun h => ⟨a, rfl, h⟩
    · rintro ⟨_, h, hf⟩
      cases h
      exact hf

theorem length_encodeLength (len : Nat) : (encodeLength len).length = bytesPerLengthOffset :=
  length_leBytes _ _

variable {slots : List Slot} {values : List (List UInt8)}

@[simp] theorem length_head {next : Nat} (h : List.Forall₂ Slot.Holds slots values) :
    (head next slots values).length = headLen slots := by
  induction h generalizing next with
  | nil => rfl
  | @cons slot value slots values hv _ ih =>
    cases slot with
    | inline len =>
      rw [head, List.length_append, ih, headLen_cons, Slot.len]
      rw [Slot.Holds] at hv
      omega
    | offset => rw [head, List.length_append, ih, headLen_cons, length_encodeLength, Slot.len]

theorem readOffset_encodeLength {len : Nat} (h : len < 256 ^ bytesPerLengthOffset)
    (rest : List UInt8) : readOffset (encodeLength len ++ rest) = .ok len := by
  have hlen := length_encodeLength len
  have hlong : ¬(encodeLength len ++ rest).length < bytesPerLengthOffset := by
    rw [List.length_append, hlen]
    omega
  rw [readOffset, if_neg hlong, List.take_left' hlen, encodeLength, ofLeBytes_leBytes,
    Nat.mod_eq_of_lt h]

/-- What was written after `front` is read back. -/
theorem splitFrom_head {bytes front rest : List UInt8} {next : Nat}
    (hhold : List.Forall₂ Slot.Holds slots values) (hfit : OffsetsFit next slots values)
    (hhead : bytes = front ++ (head next slots values ++ rest))
    (hbody : bytes.drop next = body slots values)
    (hlen : bytes.length = next + (body slots values).length) :
    splitFrom bytes front.length slots = .ok (values, next) := by
  induction hhold generalizing front next with
  | nil =>
    rw [splitFrom, hlen]
    rfl
  | @cons slot value slots values hv _ ih =>
    cases slot with
    | inline len =>
      rw [Slot.Holds] at hv
      rw [head, List.append_assoc] at hhead
      have hin : front.length + len ≤ bytes.length := by
        rw [hhead, List.length_append, List.length_append]
        omega
      have hrec : splitFrom bytes (front ++ value).length slots = .ok (values, next) :=
        ih hfit (by rw [hhead, List.append_assoc]) hbody hlen
      rw [List.length_append, hv] at hrec
      rw [splitFrom, if_pos hin, hrec, hhead, List.drop_left, List.take_left' hv]
      rfl
    | offset =>
      rw [head, List.append_assoc] at hhead
      rw [body] at hbody hlen
      rw [List.length_append] at hlen
      have hread : readOffset (bytes.drop front.length) = .ok next := by
        rw [hhead, List.drop_left]
        exact readOffset_encodeLength hfit.1 _
      have htail : bytes.drop (next + value.length) = body slots values := by
        rw [← List.drop_drop, hbody, List.drop_left]
      have hrec : splitFrom bytes (front ++ encodeLength next).length slots =
          .ok (values, next + value.length) :=
        ih hfit.2 (by rw [hhead, List.append_assoc]) htail (by omega)
      rw [List.length_append, length_encodeLength] at hrec
      have hvalue : (bytes.take (next + value.length)).drop next = value := by
        rw [List.drop_take, hbody, Nat.add_sub_cancel_left, List.take_left]
      refine except_bind_eq_ok.mpr ⟨_, hread, except_bind_eq_ok.mpr ⟨_, hrec, ?_⟩⟩
      simp only
      rw [if_pos (Nat.le_add_right next _), hvalue]
      rfl

theorem encodeLength_readOffset {bytes : List UInt8} {offset : Nat}
    (h : readOffset bytes = .ok offset) :
    bytesPerLengthOffset ≤ bytes.length ∧ offset < 256 ^ bytesPerLengthOffset ∧
      encodeLength offset = bytes.take bytesPerLengthOffset := by
  unfold readOffset at h
  split at h
  next => cases h
  next hlong =>
    have hlen : (bytes.take bytesPerLengthOffset).length = bytesPerLengthOffset := by
      rw [List.length_take]
      omega
    have hback := leBytes_ofLeBytes (bytes.take bytesPerLengthOffset)
    have hlt := ofLeBytes_lt (bytes.take bytesPerLengthOffset)
    rw [hlen] at hback hlt
    cases h
    exact ⟨by omega, hlt, hback⟩

/-- What a split found of the slots from `index` on. -/
structure SplitAt (bytes : List UInt8) (index : Nat) (slots : List Slot)
    (values : List (List UInt8)) (next : Nat) : Prop where
  holds : List.Forall₂ Slot.Holds slots values
  next_le : next ≤ bytes.length
  head_eq : (bytes.drop index).take (headLen slots) = head next slots values
  body_eq : bytes.drop next = body slots values
  fits : OffsetsFit next slots values

theorem splitAt_of_splitFrom {bytes : List UInt8} {index next : Nat}
    (h : splitFrom bytes index slots = .ok (values, next)) :
    SplitAt bytes index slots values next := by
  induction slots generalizing index values next with
  | nil =>
    cases h
    exact ⟨.nil, Nat.le_refl _, rfl, List.drop_length, trivial⟩
  | cons slot slots ih =>
    cases slot with
    | inline len =>
      unfold splitFrom at h
      split at h
      next hin =>
        obtain ⟨⟨rest, next'⟩, hrest, heq⟩ := except_bind_eq_ok.mp h
        cases heq
        have found := ih hrest
        have hlen : ((bytes.drop index).take len).length = len := by
          rw [List.length_take, List.length_drop]
          omega
        refine ⟨.cons hlen found.holds, found.next_le, ?_, found.body_eq, found.fits⟩
        rw [headLen_cons, Slot.len, head, List.take_add, List.drop_drop, found.head_eq]
      next => cases h
    | offset =>
      obtain ⟨offset, hread, hwith⟩ := except_bind_eq_ok.mp h
      obtain ⟨⟨rest, next'⟩, hrest, heq⟩ := except_bind_eq_ok.mp hwith
      obtain ⟨_, hlt, hhead⟩ := encodeLength_readOffset hread
      have found := ih hrest
      simp only at heq
      split at heq
      next hle =>
        cases heq
        have htake : (bytes.take next').length = next' := by
          rw [List.length_take, Nat.min_eq_left found.next_le]
        have hlen : ((bytes.take next').drop next).length = next' - next := by
          rw [List.length_drop, htake]
        have hnext : next + (next' - next) = next' := by omega
        refine ⟨.cons trivial found.holds, hle.trans found.next_le, ?_, ?_, ?_⟩
        · rw [headLen_cons, Slot.len, head, List.take_add, List.drop_drop, found.head_eq, hlen,
            hnext, hhead]
        · rw [body, ← found.body_eq, ← List.drop_append_of_le_length (htake.symm ▸ hle),
            List.take_append_drop]
        · rw [OffsetsFit, hlen, hnext]
          exact ⟨hlt, found.fits⟩
      next => split at heq <;> cases heq

/-- What was split was laid out, and every offset read fits. -/
theorem layOut_of_split {bytes : List UInt8} (h : split slots bytes = .ok values) :
    List.Forall₂ Slot.Holds slots values ∧ OffsetsFit (headLen slots) slots values ∧
      layOut (headLen slots) slots values = bytes := by
  obtain ⟨⟨values', first⟩, hfrom, hwith⟩ := except_bind_eq_ok.mp h
  simp only at hwith
  split at hwith
  next hfirst =>
    cases hwith
    have found := splitAt_of_splitFrom hfrom
    subst hfirst
    refine ⟨found.holds, found.fits, ?_⟩
    have hhead := found.head_eq
    rw [List.drop_zero] at hhead
    rw [layOut, ← hhead, ← found.body_eq, List.take_append_drop]
  next =>
    split at hwith
    next => cases hwith
    next => split at hwith <;> cases hwith

/-- **A layout is split into its fields** exactly when its offsets fit. -/
theorem split_layOut (hhold : List.Forall₂ Slot.Holds slots values) :
    split slots (layOut (headLen slots) slots values) = .ok values ↔
      OffsetsFit (headLen slots) slots values := by
  constructor
  · exact fun h => (layOut_of_split h).2.1
  · intro hfit
    have hlen : (head (headLen slots) slots values).length = headLen slots := length_head hhold
    have hbody : (layOut (headLen slots) slots values).drop (headLen slots) = body slots values :=
      List.drop_left' hlen
    have htotal : (layOut (headLen slots) slots values).length =
        headLen slots + (body slots values).length := by
      rw [layOut, List.length_append, hlen]
    have hfrom : splitFrom (layOut (headLen slots) slots values) ([] : List UInt8).length slots =
        .ok (values, headLen slots) :=
      splitFrom_head hhold hfit rfl hbody htotal
    exact except_bind_eq_ok.mpr ⟨_, hfrom, if_pos rfl⟩

/-- A layout shorter than an offset can say has no offset that does not fit. -/
theorem offsetsFit_of_length_lt {next : Nat} (hhold : List.Forall₂ Slot.Holds slots values)
    (h : next + (body slots values).length < 256 ^ bytesPerLengthOffset) :
    OffsetsFit next slots values := by
  induction hhold generalizing next with
  | nil => exact trivial
  | @cons slot value slots values _ _ ih =>
    cases slot with
    | inline len => exact ih h
    | offset =>
      rw [body, List.length_append] at h
      exact ⟨by omega, ih (by omega)⟩

end BlockBuilder.Lib
