import BlockBuilder.Lib.Layout

/-!
# Codecs of containers and lists

A codec says of a type whether its encodings have one length, which, and how
long the encoding of a value is, and it writes and reads the bytes. Containers and
lists are laid out from what the codecs of their parts *declare*, so a wrong
declaration would corrupt what comes after it. `Declares` is that the declarations
are true, and `Lawful` that moreover what is read writes the same bytes again.

Each way of building a codec has two lemmas: that it is lawful when its parts are,
and `RoundTrips`, when exactly a value is read back from its own bytes. A value
fails to come back only where a part does or where an offset does not fit.
-/

namespace BlockBuilder.Lib

structure Encode (α : Type) where
  isSszFixedLen : Bool
  sszFixedLen : Nat
  sszBytesLen : α → Nat
  /-- The bytes `ssz_append` adds. -/
  sszAppend : α → List UInt8

structure Decode (α : Type) where
  isSszFixedLen : Bool
  sszFixedLen : Nat
  fromSszBytes : List UInt8 → Except DecodeError α

structure Codec (α : Type) where
  encode : Encode α
  decode : Decode α

def Slot.ofDeclared (isSszFixedLen : Bool) (sszFixedLen : Nat) : Slot :=
  if isSszFixedLen then .inline sszFixedLen else .offset

variable {α β : Type}

namespace Codec

def encodeSlot (c : Codec α) : Slot := .ofDeclared c.encode.isSszFixedLen c.encode.sszFixedLen

def decodeSlot (c : Codec α) : Slot := .ofDeclared c.decode.isSszFixedLen c.decode.sszFixedLen

/-- A value is what its own bytes are read as. -/
def RoundTrips (c : Codec α) (x : α) : Prop := c.decode.fromSszBytes (c.encode.sszAppend x) = .ok x

/-- What the codec says of its lengths is so. -/
structure Declares (c : Codec α) : Prop where
  sameFixed : c.decode.isSszFixedLen = c.encode.isSszFixedLen
  sameLen : c.decode.sszFixedLen = c.encode.sszFixedLen
  bytesLen : ∀ x, (c.encode.sszAppend x).length = c.encode.sszBytesLen x
  fixedLen : c.encode.isSszFixedLen = true → ∀ x, c.encode.sszBytesLen x = c.encode.sszFixedLen
  offsetLen : c.encode.isSszFixedLen = false → c.encode.sszFixedLen = bytesPerLengthOffset

structure Lawful (c : Codec α) : Prop extends Declares c where
  canonical : ∀ bytes x, c.decode.fromSszBytes bytes = .ok x → c.encode.sszAppend x = bytes

variable {c : Codec α}

theorem Declares.decodeSlot_eq (h : c.Declares) : c.decodeSlot = c.encodeSlot := by
  rw [decodeSlot, encodeSlot, h.sameFixed, h.sameLen]

theorem Declares.encodeSlot_len (h : c.Declares) : c.encodeSlot.len = c.encode.sszFixedLen := by
  unfold encodeSlot Slot.ofDeclared
  split
  next => rfl
  next hvar => exact (h.offsetLen (Bool.eq_false_of_not_eq_true hvar)).symm

theorem Declares.holds (h : c.Declares) (x : α) : c.encodeSlot.Holds (c.encode.sszAppend x) := by
  unfold encodeSlot Slot.ofDeclared
  split
  next hfixed => exact (h.bytesLen x).trans (h.fixedLen hfixed x)
  next => trivial

/-! ## Codecs of one length -/

/-- Exactly `n` bytes, whatever they mean. -/
def ofFixed (n : Nat) (write : α → List UInt8) (read : List UInt8 → Except DecodeError α) :
    Codec α where
  encode :=
    { isSszFixedLen := true
      sszFixedLen := n
      sszBytesLen := fun _ => n
      sszAppend := write }
  decode :=
    { isSszFixedLen := true
      sszFixedLen := n
      fromSszBytes := fun bytes =>
        if bytes.length ≠ n then .error (.invalidByteLength bytes.length n) else read bytes }

section

variable {n : Nat} {write : α → List UInt8} {read : List UInt8 → Except DecodeError α}

theorem lawful_ofFixed (hlen : ∀ x, (write x).length = n)
    (hread : ∀ bytes x, bytes.length = n → read bytes = .ok x → write x = bytes) :
    (ofFixed n write read).Lawful where
  sameFixed := rfl
  sameLen := rfl
  bytesLen := hlen
  fixedLen := fun _ _ => rfl
  offsetLen := nofun
  canonical := by
    intro bytes x h
    simp only [ofFixed] at h
    split at h
    next => cases h
    next heq => exact hread bytes x (not_not.mp heq) h

theorem roundTrips_ofFixed (hlen : ∀ x, (write x).length = n) {x : α} :
    (ofFixed n write read).RoundTrips x ↔ read (write x) = .ok x := by
  unfold RoundTrips ofFixed
  simp only
  rw [if_neg (not_not.mpr (hlen x))]

end

end Codec

/-! ## Containers -/

/-- The fields of a container in order, their values a nested product. -/
structure Fields (α : Type) where
  encodeSlots : List Slot
  /-- The sum of the declared lengths, four for a field that is pointed at. -/
  fixedLens : Nat
  decodeSlots : List Slot
  parts : α → List (List UInt8)
  /-- The declared lengths of what is pointed at. -/
  bodyLen : α → Nat
  fromItems : List (List UInt8) → Except DecodeError α

namespace Fields

def nil : Fields Unit where
  encodeSlots := []
  fixedLens := 0
  decodeSlots := []
  parts := fun _ => []
  bodyLen := fun _ => 0
  fromItems := fun _ => .ok ()

def cons (c : Codec α) (fs : Fields β) : Fields (α × β) where
  encodeSlots := c.encodeSlot :: fs.encodeSlots
  fixedLens := c.encode.sszFixedLen + fs.fixedLens
  decodeSlots := c.decodeSlot :: fs.decodeSlots
  parts := fun x => c.encode.sszAppend x.1 :: fs.parts x.2
  bodyLen := fun x =>
    (if c.encode.isSszFixedLen then 0 else c.encode.sszBytesLen x.1) + fs.bodyLen x.2
  fromItems := fun items => do
    let first ← c.decode.fromSszBytes (items.headD [])
    let rest ← fs.fromItems items.tail
    return (first, rest)

def RoundTrips (fs : Fields α) (x : α) : Prop := fs.fromItems (fs.parts x) = .ok x

structure Lawful (fs : Fields α) : Prop where
  slots : fs.decodeSlots = fs.encodeSlots
  fixedLens : fs.fixedLens = headLen fs.encodeSlots
  holds : ∀ x, List.Forall₂ Slot.Holds fs.encodeSlots (fs.parts x)
  bodyLen : ∀ x, (body fs.encodeSlots (fs.parts x)).length = fs.bodyLen x
  canonical : ∀ items x, items.length = fs.encodeSlots.length → fs.fromItems items = .ok x →
    fs.parts x = items

theorem Lawful.nil : Fields.nil.Lawful where
  slots := rfl
  fixedLens := rfl
  holds := fun _ => .nil
  bodyLen := fun _ => rfl
  canonical := by
    intro items x hlen _
    exact (List.length_eq_zero_iff.mp hlen).symm

theorem roundTrips_nil : nil.RoundTrips () := rfl

variable {c : Codec α} {fs : Fields β}

theorem Lawful.cons (hc : c.Lawful) (hfs : fs.Lawful) : (Fields.cons c fs).Lawful where
  slots := congrArg₂ List.cons hc.decodeSlot_eq hfs.slots
  fixedLens := by
    rw [Fields.cons, headLen_cons, hc.encodeSlot_len, hfs.fixedLens]
  holds := fun x => .cons (hc.holds x.1) (hfs.holds x.2)
  bodyLen := by
    intro x
    have hrest := hfs.bodyLen x.2
    simp only [Fields.cons, Codec.encodeSlot, Slot.ofDeclared]
    split
    next => rw [body, hrest, Nat.zero_add]
    next => rw [body, List.length_append, hc.bytesLen, hrest]
  canonical := by
    intro items x hlen h
    cases items with
    | nil => cases hlen
    | cons item items =>
      obtain ⟨first, hfirst, hwith⟩ := except_bind_eq_ok.mp h
      obtain ⟨rest, hrest, heq⟩ := except_bind_eq_ok.mp hwith
      cases heq
      exact congrArg₂ List.cons (hc.canonical _ _ hfirst)
        (hfs.canonical _ _ (Nat.succ_injective hlen) hrest)

theorem roundTrips_cons {x : α} {y : β} :
    (cons c fs).RoundTrips (x, y) ↔ c.RoundTrips x ∧ fs.RoundTrips y := by
  constructor
  · intro h
    obtain ⟨first, hfirst, hwith⟩ := except_bind_eq_ok.mp h
    obtain ⟨rest, hrest, heq⟩ := except_bind_eq_ok.mp hwith
    cases heq
    exact ⟨hfirst, hrest⟩
  · rintro ⟨hx, hy⟩
    exact except_bind_eq_ok.mpr ⟨_, hx, except_bind_eq_ok.mpr ⟨_, hy, rfl⟩⟩

end Fields

theorem body_of_inline {slots : List Slot} {values : List (List UInt8)} (h : .offset ∉ slots) :
    body slots values = [] := by
  induction slots generalizing values with
  | nil => rfl
  | cons slot slots ih =>
    cases values with
    | nil => cases slot <;> rfl
    | cons value values =>
      rw [List.mem_cons, not_or] at h
      cases slot with
      | inline len => exact ih h.2
      | offset => exact absurd rfl h.1

namespace Codec

/-- The derived codec of a record with the fields `fs`. -/
def container (fs : Fields β) (fields : α → β) (record : β → α) : Codec α where
  encode :=
    { isSszFixedLen := .offset ∉ fs.encodeSlots
      sszFixedLen := if .offset ∉ fs.encodeSlots then fs.fixedLens else bytesPerLengthOffset
      sszBytesLen := fun x =>
        if .offset ∉ fs.encodeSlots then fs.fixedLens else fs.fixedLens + fs.bodyLen (fields x)
      sszAppend := fun x => layOut fs.fixedLens fs.encodeSlots (fs.parts (fields x)) }
  decode :=
    { isSszFixedLen := .offset ∉ fs.decodeSlots
      sszFixedLen :=
        if .offset ∉ fs.decodeSlots then headLen fs.decodeSlots else bytesPerLengthOffset
      fromSszBytes := fun bytes => do
        let items ← split fs.decodeSlots bytes
        let x ← fs.fromItems items
        return record x }

section

variable {fs : Fields β} {fields : α → β} {record : β → α}

theorem length_container (hfs : fs.Lawful) (x : α) :
    ((container fs fields record).encode.sszAppend x).length =
      fs.fixedLens + fs.bodyLen (fields x) := by
  simp only [container]
  rw [layOut, List.length_append, length_head (hfs.holds _), hfs.bodyLen, hfs.fixedLens]

theorem lawful_container (hfs : fs.Lawful) (hrecord : ∀ y, fields (record y) = y) :
    (container fs fields record).Lawful where
  sameFixed := by
    simp only [container]
    rw [hfs.slots]
  sameLen := by
    simp only [container]
    rw [hfs.slots, hfs.fixedLens]
  bytesLen := by
    intro x
    rw [length_container hfs]
    simp only [container]
    split
    next hinline =>
      have hnone := hfs.bodyLen (fields x)
      rw [body_of_inline hinline] at hnone
      rw [← hnone]
      rfl
    next => rfl
  fixedLen := by
    intro hfixed x
    have hinline : .offset ∉ fs.encodeSlots := of_decide_eq_true hfixed
    simp only [container]
    rw [if_pos hinline, if_pos hinline]
  offsetLen := by
    intro hvar
    exact if_neg (of_decide_eq_false hvar)
  canonical := by
    intro bytes x h
    obtain ⟨items, hsplit, hwith⟩ := except_bind_eq_ok.mp h
    obtain ⟨y, hitems, heq⟩ := except_bind_eq_ok.mp hwith
    cases heq
    rw [hfs.slots] at hsplit
    obtain ⟨hholds, _, hlay⟩ := layOut_of_split hsplit
    simp only [container]
    rw [hrecord, hfs.canonical items y hholds.length_eq.symm hitems, hfs.fixedLens, hlay]

/-- A record comes back when its fields do and its offsets fit. -/
theorem roundTrips_container (hfs : fs.Lawful) (hrecord : ∀ y, fields (record y) = y)
    (hfields : ∀ x, record (fields x) = x) (x : α) :
    (container fs fields record).RoundTrips x ↔
      OffsetsFit fs.fixedLens fs.encodeSlots (fs.parts (fields x)) ∧
        fs.RoundTrips (fields x) := by
  have hlay : split fs.decodeSlots ((container fs fields record).encode.sszAppend x) =
        .ok (fs.parts (fields x)) ↔
      OffsetsFit fs.fixedLens fs.encodeSlots (fs.parts (fields x)) := by
    rw [hfs.slots, hfs.fixedLens, ← split_layOut (hfs.holds (fields x)), ← hfs.fixedLens]
    rfl
  constructor
  · intro h
    obtain ⟨items, hsplit, hwith⟩ := except_bind_eq_ok.mp h
    obtain ⟨y, hitems, heq⟩ := except_bind_eq_ok.mp hwith
    have hxy : fields x = y := by
      cases heq
      exact hrecord y
    -- What is split has as many items as there are fields, so they are its own parts.
    have hholds := (layOut_of_split hsplit).1
    rw [hfs.slots] at hholds
    have hparts := hfs.canonical items y hholds.length_eq.symm hitems
    rw [← hparts, ← hxy] at hsplit hitems
    exact ⟨hlay.mp hsplit, hitems⟩
  · rintro ⟨hfit, hrest⟩
    refine except_bind_eq_ok.mpr ⟨_, hlay.mpr hfit, except_bind_eq_ok.mpr ⟨_, hrest, ?_⟩⟩
    exact congrArg Except.ok (hfields x)

/-- A record shorter than an offset can say has no offset that does not fit. -/
theorem roundTrips_container_of_length_lt (hfs : fs.Lawful) (hrecord : ∀ y, fields (record y) = y)
    (hfields : ∀ x, record (fields x) = x) {x : α} (hrest : fs.RoundTrips (fields x))
    (h : ((container fs fields record).encode.sszAppend x).length < 256 ^ bytesPerLengthOffset) :
    (container fs fields record).RoundTrips x := by
  refine (roundTrips_container hfs hrecord hfields x).mpr ⟨?_, hrest⟩
  rw [length_container hfs] at h
  refine offsetsFit_of_length_lt (hfs.holds _) ?_
  rwa [hfs.bodyLen]

end

end Codec

end BlockBuilder.Lib
