import BlockBuilder.Lib.Codec
import BlockBuilder.Primitives.Bid

/-!
# Public keys and signatures (`crates/primitives/src/blst/`)

A public key is a point that is not at infinity, and a signature is a point or the
empty value, which stands for 96 zero bytes. Both are written compressed.

Mirroring notes:
- `Blst` is the library of points, `blst::min_pk`. `Inverse` is what is relied on:
  compressing and decompressing are inverse on valid points, as is documented, and
  a point that is not compressed is longer than these lengths.
- The infinity flag of a signature is set by `deserialize` from the bytes.
- `BlstError.debug` is the derived `Debug` of the source's `Error`.
-/

namespace BlockBuilder

open Lib (Codec DecodeError)

/-- Points of public keys and of signatures, and their encodings. -/
structure Blst (Pub Sig : Type) where
  compress : Pub → FixedBytes 48
  keyValidate : Bytes → Except String Pub
  toBytes : Sig → FixedBytes 96
  fromBytes : Bytes → Except String Sig

def publicKeyBytesLen : Nat := 48
def signatureBytesLen : Nat := 96

def infinityPublicKey : Bytes := 0xc0 :: List.replicate 47 0
def infinitySignature : Bytes := 0xc0 :: List.replicate 95 0
/-- The bytes of an empty signature. -/
def noneSignature : Bytes := List.replicate signatureBytesLen 0

inductive BlstError where
  | blst (error : String)
  | invalidByteLength (got expected : Nat)
  | invalidSecretKeyLength (got expected : Nat)
  | invalidInfinityPublicKey
  | invalidZeroSecretKey
  deriving DecidableEq, Repr

def BlstError.debug : BlstError → String
  | blst error => "Blst(" ++ error ++ ")"
  | invalidByteLength got expected =>
      "InvalidByteLength \x7b got: " ++ toString got ++ ", expected: " ++ toString expected ++
        " \x7d"
  | invalidSecretKeyLength got expected =>
      "InvalidSecretKeyLength \x7b got: " ++ toString got ++ ", expected: " ++
        toString expected ++ " \x7d"
  | invalidInfinityPublicKey => "InvalidInfinityPublicKey"
  | invalidZeroSecretKey => "InvalidZeroSecretKey"

structure GenericPublicKey (Pub : Type) where
  point : Pub
  deriving DecidableEq, Repr

structure GenericSignature (Sig : Type) where
  point : Option Sig
  isInfinity : Bool
  deriving DecidableEq, Repr

variable {Pub Sig : Type} (blst : Blst Pub Sig)

/-- The point's own `deserialize`, which takes the compressed length only. -/
def TPublicKey.deserialize (bytes : Bytes) : Except BlstError Pub :=
  if bytes.length ≠ publicKeyBytesLen then
    .error (.invalidByteLength bytes.length publicKeyBytesLen)
  else
    (blst.keyValidate bytes).mapError .blst

namespace GenericPublicKey

def serialize (key : GenericPublicKey Pub) : Bytes := (blst.compress key.point).bytes

def deserialize (bytes : Bytes) : Except BlstError (GenericPublicKey Pub) :=
  if bytes = infinityPublicKey then .error .invalidInfinityPublicKey
  else (TPublicKey.deserialize blst bytes).map fun point => { point := point }

def codec : Codec (GenericPublicKey Pub) :=
  .ofFixed publicKeyBytesLen (serialize blst) fun bytes =>
    (deserialize blst bytes).mapError fun e => .bytesInvalid e.debug

end GenericPublicKey

namespace GenericSignature

def empty : GenericSignature Sig where
  point := none
  isInfinity := false

def serialize (signature : GenericSignature Sig) : Bytes :=
  match signature.point with
  | some point => (blst.toBytes point).bytes
  | none => noneSignature

def deserialize (bytes : Bytes) : Except BlstError (GenericSignature Sig) := do
  let point ←
    if bytes = noneSignature then .ok none
    else ((blst.fromBytes bytes).mapError .blst).map some
  return { point := point, isInfinity := bytes = infinitySignature }

def codec : Codec (GenericSignature Sig) :=
  .ofFixed signatureBytesLen (serialize blst) fun bytes =>
    (deserialize blst bytes).mapError fun e => .bytesInvalid e.debug

end GenericSignature

/-- What is relied on of the library: decompressing a valid point's bytes gives the
point, what decompresses is the bytes of a valid point, and zeros are not one. -/
structure Blst.Inverse (blst : Blst Pub Sig) (ValidKey : Pub → Prop) (ValidSig : Sig → Prop) :
    Prop where
  keyValidate_compress : ∀ point, ValidKey point →
    blst.keyValidate (blst.compress point).bytes = .ok point
  compress_keyValidate : ∀ bytes point, bytes.length = publicKeyBytesLen →
    blst.keyValidate bytes = .ok point → ValidKey point ∧ (blst.compress point).bytes = bytes
  fromBytes_toBytes : ∀ point, ValidSig point →
    blst.fromBytes (blst.toBytes point).bytes = .ok point
  toBytes_fromBytes : ∀ bytes point, bytes.length = signatureBytesLen →
    blst.fromBytes bytes = .ok point → ValidSig point ∧ (blst.toBytes point).bytes = bytes
  none_invalid : ∀ point, blst.fromBytes noneSignature ≠ .ok point

def generatorG1 : FixedBytes 48 where
  bytes := Lib.beBytes 48
    0x97f1d3a73197d7942695638c4fa9ac0fc3688c4f9774b905a14e3a3f171bac586c55e83ff97a1aeffb3af00adb22c6bb
  length_eq := Lib.length_beBytes 48 _

def generatorG2 : FixedBytes 96 where
  bytes := Lib.beBytes 96
    0x93e02b6052719f607dacd3a088274f65596bd0d09920b61ab5da61bbdc7f5049334cf11213945d57e5ac7d055d042b7e024aa2b2f08f0a91260805272dc51051c6e47ad4fa403b02b4510b647ae3d1770bac0326a805bbefd48056c8c121bdb8
  length_eq := Lib.length_beBytes 96 _

/-- The library on the generators of the two groups, the only points it has. -/
def Blst.ofGenerators : Blst Unit Unit where
  compress := fun _ => generatorG1
  keyValidate := fun bytes =>
    if bytes = generatorG1.bytes then .ok () else .error "BLST_BAD_ENCODING"
  toBytes := fun _ => generatorG2
  fromBytes := fun bytes =>
    if bytes = generatorG2.bytes then .ok () else .error "BLST_BAD_ENCODING"

theorem Blst.inverse_ofGenerators :
    Blst.ofGenerators.Inverse (fun _ => True) (fun _ => True) where
  keyValidate_compress := by
    intro point _
    simp only [ofGenerators, if_true]
  compress_keyValidate := by
    intro bytes point _ h
    simp only [ofGenerators] at h
    split at h
    next heq => exact ⟨trivial, heq.symm⟩
    next => cases h
  fromBytes_toBytes := by
    intro point _
    simp only [ofGenerators, if_true]
  toBytes_fromBytes := by
    intro bytes point _ h
    simp only [ofGenerators] at h
    split at h
    next heq => exact ⟨trivial, heq.symm⟩
    next => cases h
  none_invalid := by
    intro point h
    have hne : noneSignature ≠ generatorG2.bytes := by decide +kernel
    simp only [ofGenerators] at h
    rw [if_neg hne] at h
    cases h

/-- A valid point that is not at infinity. -/
def GenericPublicKey.Valid (ValidKey : Pub → Prop) (key : GenericPublicKey Pub) : Prop :=
  ValidKey key.point ∧ key.serialize blst ≠ infinityPublicKey

/-- A valid point with the flag that its bytes have, or the empty signature. -/
def GenericSignature.Valid (ValidSig : Sig → Prop) (signature : GenericSignature Sig) : Prop :=
  match signature.point with
  | some point =>
      ValidSig point ∧
        signature.isInfinity = decide ((blst.toBytes point).bytes = infinitySignature)
  | none => signature = .empty

theorem mapError_eq_ok {ε ε' α : Type} {f : ε → ε'} {x : Except ε α} {a : α} :
    x.mapError f = .ok a ↔ x = .ok a := by
  cases x with
  | error e => exact iff_of_false nofun nofun
  | ok a' => exact (Except.ok.injEq ..).to_iff.trans (Except.ok.injEq ..).to_iff.symm

theorem map_eq_ok {ε α β : Type} {f : α → β} {x : Except ε α} {b : β} :
    x.map f = .ok b ↔ ∃ a, x = .ok a ∧ f a = b := by
  cases x with
  | error e =>
    refine iff_of_false nofun ?_
    rintro ⟨_, h, _⟩
    cases h
  | ok a =>
    constructor
    · intro h
      cases h
      exact ⟨a, rfl, rfl⟩
    · rintro ⟨_, h, rfl⟩
      cases h
      rfl

section

variable {blst : Blst Pub Sig} {ValidKey : Pub → Prop} {ValidSig : Sig → Prop}

theorem GenericPublicKey.length_serialize (key : GenericPublicKey Pub) :
    (key.serialize blst).length = publicKeyBytesLen :=
  (blst.compress key.point).length_eq

theorem GenericPublicKey.deserialize_eq_ok {bytes : Bytes} {key : GenericPublicKey Pub}
    (hlen : bytes.length = publicKeyBytesLen) :
    deserialize blst bytes = .ok key ↔
      bytes ≠ infinityPublicKey ∧ blst.keyValidate bytes = .ok key.point := by
  unfold deserialize TPublicKey.deserialize
  rw [if_neg (not_not.mpr hlen)]
  split
  next hinf => exact iff_of_false nofun fun h => h.1 hinf
  next hinf =>
    rw [map_eq_ok]
    constructor
    · rintro ⟨point, hpoint, rfl⟩
      exact ⟨hinf, mapError_eq_ok.mp hpoint⟩
    · rintro ⟨_, hpoint⟩
      exact ⟨key.point, mapError_eq_ok.mpr hpoint, rfl⟩

theorem GenericPublicKey.lawful_codec (laws : blst.Inverse ValidKey ValidSig) :
    (GenericPublicKey.codec blst).Lawful := by
  refine Codec.lawful_ofFixed length_serialize fun bytes key hlen h => ?_
  have hkey := ((deserialize_eq_ok hlen).mp (mapError_eq_ok.mp h)).2
  exact (laws.compress_keyValidate bytes key.point hlen hkey).2

theorem GenericPublicKey.roundTrips_codec (laws : blst.Inverse ValidKey ValidSig)
    (key : GenericPublicKey Pub) :
    (GenericPublicKey.codec blst).RoundTrips key ↔ key.Valid blst ValidKey := by
  unfold codec
  rw [Codec.roundTrips_ofFixed length_serialize, mapError_eq_ok,
    deserialize_eq_ok (length_serialize key)]
  constructor
  · rintro ⟨hinf, hkey⟩
    exact ⟨(laws.compress_keyValidate _ _ (length_serialize key) hkey).1, hinf⟩
  · rintro ⟨hvalid, hinf⟩
    exact ⟨hinf, laws.keyValidate_compress key.point hvalid⟩

theorem GenericSignature.length_serialize (signature : GenericSignature Sig) :
    (signature.serialize blst).length = signatureBytesLen := by
  unfold serialize
  split
  next point _ => exact (blst.toBytes point).length_eq
  next => exact List.length_replicate

theorem GenericSignature.deserialize_none {signature : GenericSignature Sig} :
    deserialize blst noneSignature = .ok signature ↔ signature = .empty := by
  have hempty : deserialize blst noneSignature = .ok .empty := by
    unfold deserialize
    rw [if_pos rfl]
    rfl
  rw [hempty]
  exact ⟨fun h => (Except.ok.inj h).symm, fun h => congrArg Except.ok h.symm⟩

theorem GenericSignature.deserialize_some {bytes : Bytes} {signature : GenericSignature Sig}
    (hbytes : bytes ≠ noneSignature) :
    deserialize blst bytes = .ok signature ↔
      ∃ point, blst.fromBytes bytes = .ok point ∧
        signature = { point := some point, isInfinity := bytes = infinitySignature } := by
  unfold deserialize
  rw [if_neg hbytes, Lib.except_bind_eq_ok]
  constructor
  · rintro ⟨_, hpoint, heq⟩
    obtain ⟨point, hfrom, rfl⟩ := map_eq_ok.mp hpoint
    cases heq
    exact ⟨point, mapError_eq_ok.mp hfrom, rfl⟩
  · rintro ⟨point, hfrom, rfl⟩
    exact ⟨some point, map_eq_ok.mpr ⟨point, mapError_eq_ok.mpr hfrom, rfl⟩, rfl⟩

theorem GenericSignature.lawful_codec (laws : blst.Inverse ValidKey ValidSig) :
    (GenericSignature.codec blst).Lawful := by
  refine Codec.lawful_ofFixed length_serialize fun bytes signature hlen h => ?_
  have hread := mapError_eq_ok.mp h
  by_cases hbytes : bytes = noneSignature
  · subst hbytes
    rw [deserialize_none.mp hread]
    rfl
  · obtain ⟨point, hfrom, rfl⟩ := (deserialize_some hbytes).mp hread
    exact (laws.toBytes_fromBytes bytes point hlen hfrom).2

theorem GenericSignature.roundTrips_codec (laws : blst.Inverse ValidKey ValidSig)
    (signature : GenericSignature Sig) :
    (GenericSignature.codec blst).RoundTrips signature ↔ signature.Valid blst ValidSig := by
  unfold codec Valid
  rw [Codec.roundTrips_ofFixed length_serialize, mapError_eq_ok]
  obtain ⟨_ | point, isInfinity⟩ := signature
  · exact deserialize_none
  · by_cases hbytes : (blst.toBytes point).bytes = noneSignature
    · -- Zeros are neither read as a point nor the bytes of a valid one.
      constructor
      · intro h
        have hnone : deserialize blst noneSignature =
            .ok { point := some point, isInfinity := isInfinity } := hbytes ▸ h
        cases deserialize_none.mp hnone
      · rintro ⟨hvalid, _⟩
        have hfrom := laws.fromBytes_toBytes point hvalid
        rw [hbytes] at hfrom
        exact absurd hfrom (laws.none_invalid point)
    · refine (deserialize_some hbytes).trans ⟨?_, ?_⟩
      · rintro ⟨point', hfrom, heq⟩
        cases heq
        exact ⟨(laws.toBytes_fromBytes _ _ (blst.toBytes point).length_eq hfrom).1, rfl⟩
      · rintro ⟨hvalid, hflag⟩
        exact ⟨point, laws.fromBytes_toBytes point hvalid, congrArg _ hflag⟩

end

end BlockBuilder
