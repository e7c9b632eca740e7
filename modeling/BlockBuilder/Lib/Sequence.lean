import BlockBuilder.Lib.Codec

/-!
# Codecs of lists

The items of a list are written one after another where they have one length, and
are laid out by offsets where they have not. An empty list is no bytes. A list
with offsets does not say how many items it has: the first offset does, since it
points just past the others.
-/

namespace BlockBuilder.Lib

variable {α : Type}

/-- Pieces of `n`, `fuel` of them at most. -/
def chunksFuel (n : Nat) : Nat → List α → List (List α)
  | 0, _ => []
  | fuel + 1, items =>
      if items.length = 0 then [] else items.take n :: chunksFuel n fuel (items.drop n)

/-- Pieces of `n`, the last one of what is left. -/
def chunks (n : Nat) (items : List α) : List (List α) := chunksFuel n items.length items

theorem flatten_chunksFuel {n fuel : Nat} (hn : 0 < n) {items : List α}
    (hfuel : items.length ≤ fuel) : (chunksFuel n fuel items).flatten = items := by
  induction fuel generalizing items with
  | zero => exact (List.length_eq_zero_iff.mp (Nat.le_zero.mp hfuel)).symm
  | succ fuel ih =>
    unfold chunksFuel
    split
    next hempty => exact (List.length_eq_zero_iff.mp hempty).symm
    next hne =>
      have hrest : (items.drop n).length ≤ fuel := by
        rw [List.length_drop]
        omega
      rw [List.flatten_cons, ih hrest, List.take_append_drop]

theorem chunksFuel_flatten {n fuel : Nat} (hn : 0 < n) {pieces : List (List α)}
    (hlen : ∀ piece ∈ pieces, piece.length = n) (hfuel : pieces.flatten.length ≤ fuel) :
    chunksFuel n fuel pieces.flatten = pieces := by
  induction pieces generalizing fuel with
  | nil => cases fuel <;> rfl
  | cons piece pieces ih =>
    have hpiece : piece.length = n := hlen piece List.mem_cons_self
    rw [List.flatten_cons, List.length_append] at hfuel
    cases fuel with
    | zero => omega
    | succ fuel =>
      have hne : ¬(piece ++ pieces.flatten).length = 0 := by
        rw [List.length_append]
        omega
      rw [List.flatten_cons, chunksFuel, if_neg hne, List.take_left' hpiece,
        List.drop_left' hpiece, ih (fun p hp => hlen p (List.mem_cons_of_mem _ hp)) (by omega)]

theorem flatten_chunks {n : Nat} (hn : 0 < n) (items : List α) : (chunks n items).flatten = items :=
  flatten_chunksFuel hn (Nat.le_refl _)

theorem chunks_flatten {n : Nat} (hn : 0 < n) {pieces : List (List α)}
    (hlen : ∀ piece ∈ pieces, piece.length = n) : chunks n pieces.flatten = pieces :=
  chunksFuel_flatten hn hlen (Nat.le_refl _)

/-- The items of a list laid out by offsets. -/
def decodeListOfVariableLengthItems (fromSszBytes : List UInt8 → Except DecodeError α)
    (bytes : List UInt8) : Except DecodeError (List α) := do
  let firstOffset ← readOffset bytes
  if bytes.length < firstOffset then
    .error (.offsetOutOfBounds firstOffset)
  else if firstOffset % bytesPerLengthOffset ≠ 0 ∨ firstOffset < bytesPerLengthOffset then
    .error (.invalidListFixedBytesLen firstOffset)
  else
    let items ← split (List.replicate (firstOffset / bytesPerLengthOffset) .offset) bytes
    items.mapM fromSszBytes

namespace Codec

def vec (c : Codec α) : Codec (List α) where
  encode :=
    { isSszFixedLen := false
      sszFixedLen := bytesPerLengthOffset
      sszBytesLen := fun xs =>
        if c.encode.isSszFixedLen then c.encode.sszFixedLen * xs.length
        else (xs.map c.encode.sszBytesLen).sum + bytesPerLengthOffset * xs.length
      sszAppend := fun xs =>
        if c.encode.isSszFixedLen then (xs.map c.encode.sszAppend).flatten
        else
          layOut (xs.length * bytesPerLengthOffset) (List.replicate xs.length .offset)
            (xs.map c.encode.sszAppend) }
  decode :=
    { isSszFixedLen := false
      sszFixedLen := bytesPerLengthOffset
      fromSszBytes := fun bytes =>
        if bytes.isEmpty then .ok []
        else if c.decode.isSszFixedLen then
          (chunks c.decode.sszFixedLen bytes).mapM c.decode.fromSszBytes
        else
          decodeListOfVariableLengthItems c.decode.fromSszBytes bytes }

end Codec

/-- Every item is read, in order. -/
theorem mapM_eq_ok {ε β : Type} {f : β → Except ε α} {items : List β} {xs : List α} :
    items.mapM f = .ok xs ↔ List.Forall₂ (fun item x => f item = .ok x) items xs := by
  induction items generalizing xs with
  | nil =>
    rw [List.mapM_nil, List.forall₂_nil_left_iff]
    constructor
    · intro h
      cases h
      rfl
    · rintro rfl
      rfl
  | cons item items ih =>
    rw [List.mapM_cons, List.forall₂_cons_left_iff]
    constructor
    · intro h
      obtain ⟨x, hx, hwith⟩ := except_bind_eq_ok.mp h
      obtain ⟨rest, hrest, heq⟩ := except_bind_eq_ok.mp hwith
      cases heq
      exact ⟨x, rest, hx, ih.mp hrest, rfl⟩
    · rintro ⟨x, rest, hx, hrest, rfl⟩
      exact except_bind_eq_ok.mpr ⟨_, hx, except_bind_eq_ok.mpr ⟨_, ih.mpr hrest, rfl⟩⟩

theorem headLen_replicate (n : Nat) :
    headLen (List.replicate n .offset) = n * bytesPerLengthOffset := by
  rw [headLen, List.map_replicate, List.sum_replicate_nat]
  rfl

theorem holds_replicate (values : List (List UInt8)) :
    List.Forall₂ Slot.Holds (List.replicate values.length .offset) values := by
  induction values with
  | nil => exact .nil
  | cons value values ih => exact .cons trivial ih

theorem body_replicate (values : List (List UInt8)) :
    body (List.replicate values.length .offset) values = values.flatten := by
  induction values with
  | nil => rfl
  | cons value values ih =>
    rw [List.length_cons, List.replicate_succ, body, ih, List.flatten_cons]

theorem length_layOut_replicate (values : List (List UInt8)) (start : Nat) :
    (layOut start (List.replicate values.length .offset) values).length =
      values.length * bytesPerLengthOffset + values.flatten.length := by
  rw [layOut, List.length_append, length_head (holds_replicate values), headLen_replicate,
    body_replicate]

/-- The first of the offsets says how many there are. -/
theorem readOffset_layOut_replicate {values : List (List UInt8)} (hne : values ≠ [])
    (hfit : OffsetsFit (values.length * bytesPerLengthOffset)
      (List.replicate values.length .offset) values) :
    readOffset (layOut (values.length * bytesPerLengthOffset)
        (List.replicate values.length .offset) values) =
      .ok (values.length * bytesPerLengthOffset) := by
  cases values with
  | nil => exact absurd rfl hne
  | cons value values =>
    rw [layOut, List.length_cons, List.replicate_succ, head, List.append_assoc]
    exact readOffset_encodeLength hfit.1 _

/-- What is read by offsets is laid out by them, at least one item of it. -/
theorem decodeListOfVariableLengthItems_eq_ok {f : List UInt8 → Except DecodeError α}
    {bytes : List UInt8} {xs : List α} :
    decodeListOfVariableLengthItems f bytes = .ok xs ↔
      ∃ values : List (List UInt8), values ≠ [] ∧
        OffsetsFit (values.length * bytesPerLengthOffset)
          (List.replicate values.length .offset) values ∧
        layOut (values.length * bytesPerLengthOffset)
          (List.replicate values.length .offset) values = bytes ∧
        List.Forall₂ (fun value x => f value = .ok x) values xs := by
  constructor
  · intro h
    obtain ⟨first, hfirst, hwith⟩ := except_bind_eq_ok.mp h
    split at hwith
    next => cases hwith
    next =>
      split at hwith
      next => cases hwith
      next hshape =>
        obtain ⟨items, hsplit, hmap⟩ := except_bind_eq_ok.mp hwith
        obtain ⟨hholds, hfit, hlay⟩ := layOut_of_split hsplit
        have hcount : items.length = first / bytesPerLengthOffset := by
          rw [← hholds.length_eq, List.length_replicate]
        rw [not_or] at hshape
        have hpos : 0 < first / bytesPerLengthOffset :=
          Nat.div_pos (Nat.le_of_not_lt hshape.2) (by decide)
        rw [headLen_replicate, ← hcount] at hfit hlay
        refine ⟨items, ?_, hfit, hlay, mapM_eq_ok.mp hmap⟩
        rintro rfl
        rw [← hcount] at hpos
        exact absurd hpos (Nat.lt_irrefl 0)
  · rintro ⟨values, hne, hfit, rfl, hitems⟩
    have hlen := length_layOut_replicate values (values.length * bytesPerLengthOffset)
    have hpos : 0 < values.length := List.length_pos_iff.mpr hne
    have hread := readOffset_layOut_replicate hne hfit
    have hdiv : values.length * bytesPerLengthOffset / bytesPerLengthOffset = values.length :=
      Nat.mul_div_cancel _ (by decide)
    have hmod : values.length * bytesPerLengthOffset % bytesPerLengthOffset = 0 :=
      Nat.mul_mod_left _ _
    refine except_bind_eq_ok.mpr ⟨_, hread, ?_⟩
    rw [if_neg (by omega), if_neg, hdiv]
    · rw [← headLen_replicate] at hfit ⊢
      exact except_bind_eq_ok.mpr
        ⟨_, (split_layOut (holds_replicate values)).mpr hfit, mapM_eq_ok.mpr hitems⟩
    · rw [not_or, not_not]
      exact ⟨hmod, Nat.not_lt.mpr (Nat.le_mul_of_pos_left _ hpos)⟩

namespace Codec

variable {c : Codec α}

theorem Lawful.map_eq {values : List (List UInt8)} {xs : List α} (hc : c.Lawful)
    (h : List.Forall₂ (fun value x => c.decode.fromSszBytes value = .ok x) values xs) :
    xs.map c.encode.sszAppend = values := by
  induction h with
  | nil => rfl
  | cons hx _ ih => rw [List.map_cons, ih, hc.canonical _ _ hx]

theorem forall₂_append_iff {xs : List α} :
    List.Forall₂ (fun value x => c.decode.fromSszBytes value = .ok x)
      (xs.map c.encode.sszAppend) xs ↔ ∀ x ∈ xs, c.RoundTrips x := by
  rw [List.forall₂_map_left_iff, List.forall₂_same]
  rfl

theorem length_flatten_map (hc : c.Declares) (xs : List α) :
    (xs.map c.encode.sszAppend).flatten.length = (xs.map c.encode.sszBytesLen).sum := by
  rw [List.length_flatten, List.map_map]
  congr 1
  exact List.map_congr_left fun x _ => hc.bytesLen x

theorem sum_bytesLen_of_fixed (hc : c.Declares) (hfixed : c.encode.isSszFixedLen = true)
    (xs : List α) : (xs.map c.encode.sszBytesLen).sum = c.encode.sszFixedLen * xs.length := by
  have hsame : xs.map c.encode.sszBytesLen = xs.map fun _ => c.encode.sszFixedLen :=
    List.map_congr_left fun x _ => hc.fixedLen hfixed x
  rw [hsame, List.map_const', List.sum_replicate_nat, Nat.mul_comm]

theorem length_vec (hc : c.Declares) (xs : List α) :
    (c.vec.encode.sszAppend xs).length = c.vec.encode.sszBytesLen xs := by
  simp only [vec]
  split
  next hfixed => rw [length_flatten_map hc, sum_bytesLen_of_fixed hc hfixed]
  next =>
    have hlay := length_layOut_replicate (xs.map c.encode.sszAppend)
      (xs.length * bytesPerLengthOffset)
    rw [List.length_map] at hlay
    rw [hlay, length_flatten_map hc, Nat.add_comm, Nat.mul_comm]

/-- Where each of several pieces has one positive length, none is lost. -/
theorem chunks_map (hc : c.Lawful) (hfixed : c.encode.isSszFixedLen = true)
    (hpos : 0 < c.encode.sszFixedLen) (xs : List α) :
    chunks c.decode.sszFixedLen (xs.map c.encode.sszAppend).flatten =
      xs.map c.encode.sszAppend := by
  rw [hc.sameLen]
  refine chunks_flatten hpos fun piece hpiece => ?_
  obtain ⟨x, _, rfl⟩ := List.mem_map.mp hpiece
  exact (hc.bytesLen x).trans (hc.fixedLen hfixed x)

theorem lawful_vec (hc : c.Lawful)
    (hpos : c.encode.isSszFixedLen = true → 0 < c.encode.sszFixedLen) : c.vec.Lawful where
  sameFixed := rfl
  sameLen := rfl
  bytesLen := length_vec hc.toDeclares
  fixedLen := nofun
  offsetLen := fun _ => rfl
  canonical := by
    intro bytes xs h
    simp only [vec] at h ⊢
    rw [hc.sameFixed, hc.sameLen] at h
    split at h
    next hempty =>
      cases h
      rw [List.isEmpty_iff.mp hempty]
      split <;> rfl
    next =>
      split at h
      next hfixed =>
        rw [if_pos hfixed, hc.map_eq (mapM_eq_ok.mp h), flatten_chunks (hpos hfixed)]
      next hvar =>
        obtain ⟨values, _, _, hlay, hitems⟩ := decodeListOfVariableLengthItems_eq_ok.mp h
        rw [if_neg hvar, hc.map_eq hitems, ← hitems.length_eq, hlay]

theorem bytesLen_vec_pos (hpos : c.encode.isSszFixedLen = true → 0 < c.encode.sszFixedLen)
    (x : α) (xs : List α) : 0 < c.vec.encode.sszBytesLen (x :: xs) := by
  simp only [vec]
  split
  next hfixed => exact Nat.mul_pos (hpos hfixed) (Nat.succ_pos _)
  next => exact Nat.add_pos_right _ (Nat.mul_pos (by decide) (Nat.succ_pos _))

/-- A list comes back when its items do and, where it has offsets, they fit. -/
theorem roundTrips_vec (hc : c.Lawful)
    (hpos : c.encode.isSszFixedLen = true → 0 < c.encode.sszFixedLen) (xs : List α) :
    c.vec.RoundTrips xs ↔ (∀ x ∈ xs, c.RoundTrips x) ∧
      (c.encode.isSszFixedLen = false →
        OffsetsFit (xs.length * bytesPerLengthOffset) (List.replicate xs.length .offset)
          (xs.map c.encode.sszAppend)) := by
  cases xs with
  | nil =>
    have hnil : c.vec.RoundTrips [] := by
      simp only [RoundTrips, vec, List.map_nil, List.length_nil]
      split <;> rfl
    exact iff_of_true hnil ⟨nofun, fun _ => trivial⟩
  | cons x xs =>
    have hne : ¬(c.vec.encode.sszAppend (x :: xs)).isEmpty = true := by
      intro hempty
      have hlen := length_vec hc.toDeclares (x :: xs)
      rw [List.isEmpty_iff.mp hempty] at hlen
      exact absurd hlen.symm (Nat.ne_of_gt (bytesLen_vec_pos hpos x xs))
    unfold RoundTrips
    simp only [vec] at hne ⊢
    rw [if_neg hne, hc.sameFixed]
    cases hfixed : c.encode.isSszFixedLen with
    | true =>
      rw [if_pos rfl, if_pos rfl, chunks_map hc hfixed (hpos hfixed), mapM_eq_ok,
        forall₂_append_iff]
      exact (and_iff_left nofun).symm
    | false =>
      rw [if_neg Bool.false_ne_true, if_neg Bool.false_ne_true,
        decodeListOfVariableLengthItems_eq_ok]
      have hcount : ((x :: xs).map c.encode.sszAppend).length = (x :: xs).length :=
        List.length_map _
      constructor
      · rintro ⟨values, _, hfit, _, hitems⟩
        have hvalues := hc.map_eq hitems
        rw [← hvalues] at hfit hitems
        rw [hcount] at hfit
        exact ⟨forall₂_append_iff.mp hitems, fun _ => hfit⟩
      · rintro ⟨hall, hfit⟩
        refine ⟨(x :: xs).map c.encode.sszAppend, nofun, ?_, ?_, forall₂_append_iff.mpr hall⟩
        · rw [hcount]
          exact hfit rfl
        · rw [hcount]

/-- A list shorter than an offset can say has no offset that does not fit. -/
theorem roundTrips_vec_of_length_lt (hc : c.Lawful)
    (hpos : c.encode.isSszFixedLen = true → 0 < c.encode.sszFixedLen) {xs : List α}
    (hall : ∀ x ∈ xs, c.RoundTrips x)
    (h : (c.vec.encode.sszAppend xs).length < 256 ^ bytesPerLengthOffset) :
    c.vec.RoundTrips xs := by
  refine (roundTrips_vec hc hpos xs).mpr ⟨hall, fun hvar => ?_⟩
  have hlay := length_layOut_replicate (xs.map c.encode.sszAppend)
    (xs.length * bytesPerLengthOffset)
  have hholds := holds_replicate (xs.map c.encode.sszAppend)
  have hbody := body_replicate (xs.map c.encode.sszAppend)
  simp only [vec] at h
  rw [if_neg (Bool.not_eq_true _ ▸ hvar)] at h
  rw [List.length_map] at hlay hholds hbody
  refine offsetsFit_of_length_lt hholds ?_
  rwa [hbody, ← hlay]

end Codec

end BlockBuilder.Lib
