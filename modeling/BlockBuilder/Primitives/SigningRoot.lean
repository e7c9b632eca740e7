import BlockBuilder.Lib.ByteOrder
import BlockBuilder.Lib.HashTree
import BlockBuilder.Primitives.Bid
import Mathlib.Data.Nat.Log

/-!
# What a signature is made over (`crates/primitives/src/blst/mod.rs`, `blst/macros.rs`)

A bid is signed by its signing root: the tree hash of the bid, hashed once more
with the domain. The leaves of the tree are written by hand for `B256`, `U256`,
`Address` and the public key, and the containers are merkleized by the derive.

Mirroring notes:
- `hash32Concat` is the compression function of the tree hash, the hash of two
  chunks one after the other. Nothing is assumed of it.
- `merkleRoot` and `merkleHasher` are the tree hash's own: leaves up to a power of
  two, those that are missing are zero. The source asks `merkleRoot` for
  `div_ceil(48, 32)` leaves of a public key.
- `Hash256::from_slice` takes exactly 32 bytes, which is what each caller gives it.

The root of a bid is the root of one tree of named chunks (`signingRoot_eq_root`),
so two bids with one root agree on every chunk or collide in the tree, and each
leaf rule is injective.
-/

namespace BlockBuilder

open Lib (ByteOrder HashTree leBytes beBytes merkleize)

abbrev Hash256 := FixedBytes 32

def bytesPerChunk : Nat := 32

/-- The bytes copied over a zero chunk from its start. -/
def Hash256.copyFromSlice (bytes : Bytes) : Hash256 where
  bytes := (bytes ++ List.replicate 32 0).take 32
  length_eq := by
    rw [List.length_take, List.length_append, List.length_replicate]
    omega

def Hash256.zero : Hash256 := Hash256.copyFromSlice []

/-- The tree hash's own for `u64`. -/
def uint64TreeHashRoot (value : UInt64) : Hash256 :=
  Hash256.copyFromSlice (leBytes 8 value.toNat)

def B256.toHash256 (hash : B256) : Hash256 where
  bytes := hash.asSlice
  length_eq := by rw [B256.asSlice, List.length_map, List.length_range]

def B256.treeHashRoot (hash : B256) : Hash256 := B256.toHash256 hash

def U256.asLeSlice (value : U256) : Bytes := leBytes 32 value.toNat

def U256.treeHashRoot (value : U256) : Hash256 where
  bytes := U256.asLeSlice value
  length_eq := Lib.length_leBytes 32 _

def Address.asSlice (address : Address) : Bytes := beBytes 20 address.toNat

def Address.treeHashRoot (address : Address) : Hash256 :=
  Hash256.copyFromSlice (Address.asSlice address)

structure SigningData where
  objectRoot : Hash256
  domain : Hash256
  deriving DecidableEq, Repr

section

variable (hash32Concat : Hash256 → Hash256 → Hash256)

def merkleHasher (numLeaves : Nat) (leaves : List Hash256) : Hash256 :=
  merkleize hash32Concat Hash256.zero (Nat.clog 2 numLeaves) leaves

def merkleRoot (bytes : Bytes) (minimumLeafCount : Nat) : Hash256 :=
  let leaves := max ((bytes.length + (bytesPerChunk - 1)) / bytesPerChunk) minimumLeafCount
  merkleHasher hash32Concat leaves
    ((List.range leaves).map fun i => Hash256.copyFromSlice (bytes.drop (bytesPerChunk * i)))

/-- The macro's, at the serialized key. -/
def PublicKey.treeHashRoot (key : Bytes48) : Hash256 :=
  let minimumChunkCount := (48 + (bytesPerChunk - 1)) / bytesPerChunk
  merkleRoot hash32Concat key.bytes minimumChunkCount

variable {Pub : Type} (serialize : Pub → Bytes48)

def BidMessage.treeHashRoot (bid : BidMessage Pub) : Hash256 :=
  merkleHasher hash32Concat 9
    [uint64TreeHashRoot bid.slot,
      B256.treeHashRoot bid.parentHash,
      B256.treeHashRoot bid.blockHash,
      PublicKey.treeHashRoot hash32Concat (serialize bid.builderPubkey),
      PublicKey.treeHashRoot hash32Concat (serialize bid.proposerPubkey),
      Address.treeHashRoot bid.proposerFeeRecipient,
      uint64TreeHashRoot bid.gasLimit,
      uint64TreeHashRoot bid.gasUsed,
      U256.treeHashRoot bid.value]

def SigningData.treeHashRoot (data : SigningData) : Hash256 :=
  merkleHasher hash32Concat 2 [data.objectRoot, data.domain]

def BidMessage.signingRoot (bid : BidMessage Pub) (domain : Hash256) : Hash256 :=
  SigningData.treeHashRoot hash32Concat
    { objectRoot := bid.treeHashRoot hash32Concat serialize, domain := domain }

end

/-! ## The leaves lose nothing -/

theorem Hash256.copyFromSlice_take (bytes : Bytes) (h : 32 ≤ bytes.length) :
    (Hash256.copyFromSlice bytes).bytes = bytes.take 32 :=
  List.take_append_of_le_length h

theorem Hash256.copyFromSlice_inj {a b : Bytes} (ha : a.length ≤ 32) (hab : a.length = b.length)
    (h : Hash256.copyFromSlice a = Hash256.copyFromSlice b) : a = b := by
  have htake : ∀ c : Bytes, c.length ≤ 32 →
      (Hash256.copyFromSlice c).bytes.take c.length = c := by
    intro c hc
    have hmin : min c.length 32 = c.length := Nat.min_eq_left hc
    rw [copyFromSlice, List.take_take, hmin, List.take_left]
  have hbytes := congrArg FixedBytes.bytes h
  calc a = (Hash256.copyFromSlice a).bytes.take a.length := (htake a ha).symm
    _ = (Hash256.copyFromSlice b).bytes.take b.length := by rw [hbytes, hab]
    _ = b := htake b (hab ▸ ha)

theorem uint64TreeHashRoot_inj {v w : UInt64} (h : uint64TreeHashRoot v = uint64TreeHashRoot w) :
    v = w := by
  have hbytes := Hash256.copyFromSlice_inj (by rw [Lib.length_leBytes]; decide)
    (by rw [Lib.length_leBytes, Lib.length_leBytes]) h
  exact UInt64.toNat_inj.mp (@ByteOrder.toBytes_inj .little 8 _ _ v.toNat_lt w.toNat_lt hbytes)

theorem B256.bytes_toHash256 (hash : B256) :
    (B256.toHash256 hash).bytes = beBytes 32 hash.toNat :=
  (Lib.beBytes_eq_map 32 _).symm

theorem B256.treeHashRoot_inj {v w : B256} (h : B256.treeHashRoot v = B256.treeHashRoot w) :
    v = w := by
  have hbytes : (B256.toHash256 v).bytes = (B256.toHash256 w).bytes := congrArg FixedBytes.bytes h
  rw [B256.bytes_toHash256, B256.bytes_toHash256] at hbytes
  exact BitVec.toNat_inj.mp (@ByteOrder.toBytes_inj .big 32 _ _ v.isLt w.isLt hbytes)

theorem U256.treeHashRoot_inj {v w : U256} (h : U256.treeHashRoot v = U256.treeHashRoot w) :
    v = w :=
  BitVec.toNat_inj.mp (@ByteOrder.toBytes_inj .little 32 _ _ v.isLt w.isLt
    (congrArg FixedBytes.bytes h))

theorem Address.treeHashRoot_inj {v w : Address}
    (h : Address.treeHashRoot v = Address.treeHashRoot w) : v = w := by
  have hbytes := Hash256.copyFromSlice_inj (by rw [asSlice, Lib.length_beBytes]; decide)
    (by rw [asSlice, asSlice, Lib.length_beBytes, Lib.length_beBytes]) h
  exact BitVec.toNat_inj.mp (@ByteOrder.toBytes_inj .big 20 _ _ v.isLt w.isLt hbytes)

/-- The chunk `i` of a public key. -/
def PublicKey.chunk (key : Bytes48) (i : Nat) : Hash256 :=
  Hash256.copyFromSlice (key.bytes.drop (bytesPerChunk * i))

/-- A key of 48 bytes is a whole chunk and half of one. -/
theorem PublicKey.chunk_inj {v w : Bytes48} (hhead : PublicKey.chunk v 0 = PublicKey.chunk w 0)
    (htail : PublicKey.chunk v 1 = PublicKey.chunk w 1) : v = w := by
  have hlong : ∀ k : Bytes48, 32 ≤ (k.bytes.drop (bytesPerChunk * 0)).length := by
    intro k
    rw [List.length_drop, k.length_eq]
    decide
  have hrest : ∀ k : Bytes48, (k.bytes.drop (bytesPerChunk * 1)).length = 16 := by
    intro k
    rw [List.length_drop, k.length_eq]
    rfl
  have hfirst : v.bytes.take 32 = w.bytes.take 32 := by
    have hbytes := congrArg FixedBytes.bytes hhead
    rw [chunk, chunk, Hash256.copyFromSlice_take _ (hlong v),
      Hash256.copyFromSlice_take _ (hlong w)] at hbytes
    exact hbytes
  have hlast : v.bytes.drop 32 = w.bytes.drop 32 :=
    Hash256.copyFromSlice_inj ((hrest v).trans_le (by decide)) ((hrest v).trans (hrest w).symm) htail
  apply FixedBytes.ext
  rw [← List.take_append_drop 32 v.bytes, hfirst, hlast, List.take_append_drop]

/-! ## The tree of a signing root -/

/-- A place of the tree a bid and its domain are hashed along. -/
inductive SigningChunk where
  | slot
  | parentHash
  | blockHash
  | builderPubkey (i : Nat)
  | proposerPubkey (i : Nat)
  | proposerFeeRecipient
  | gasLimit
  | gasUsed
  | value
  | domain
  | padding
  deriving DecidableEq, Repr

namespace SigningChunk

def publicKeyTree (key : Nat → SigningChunk) : HashTree SigningChunk :=
  .perfect (.leaf padding) 1 [.leaf (key 0), .leaf (key 1)]

def bidTree : HashTree SigningChunk :=
  .perfect (.leaf padding) 4
    [.leaf slot, .leaf parentHash, .leaf blockHash, publicKeyTree builderPubkey,
      publicKeyTree proposerPubkey, .leaf proposerFeeRecipient, .leaf gasLimit, .leaf gasUsed,
      .leaf value]

def signingTree : HashTree SigningChunk := .perfect (.leaf padding) 1 [bidTree, .leaf domain]

variable {Pub : Type} (serialize : Pub → Bytes48)

/-- What a bid and a domain put at a place. -/
def of (bid : BidMessage Pub) (domain : Hash256) : SigningChunk → Hash256
  | slot => uint64TreeHashRoot bid.slot
  | parentHash => B256.treeHashRoot bid.parentHash
  | blockHash => B256.treeHashRoot bid.blockHash
  | builderPubkey i => PublicKey.chunk (serialize bid.builderPubkey) i
  | proposerPubkey i => PublicKey.chunk (serialize bid.proposerPubkey) i
  | proposerFeeRecipient => Address.treeHashRoot bid.proposerFeeRecipient
  | gasLimit => uint64TreeHashRoot bid.gasLimit
  | gasUsed => uint64TreeHashRoot bid.gasUsed
  | value => U256.treeHashRoot bid.value
  | .domain => domain
  | padding => Hash256.zero

end SigningChunk

section

variable {hash32Concat : Hash256 → Hash256 → Hash256} {Pub : Type} {serialize : Pub → Bytes48}

theorem PublicKey.treeHashRoot_eq (key : Bytes48) :
    PublicKey.treeHashRoot hash32Concat key =
      merkleize hash32Concat Hash256.zero 1 [PublicKey.chunk key 0, PublicKey.chunk key 1] := by
  unfold PublicKey.treeHashRoot merkleRoot
  rw [key.length_eq]
  rfl

/-- The root of a key binds the key, or its one call collides. -/
theorem PublicKey.treeHashRoot_binds {v w : Bytes48}
    (h : PublicKey.treeHashRoot hash32Concat v = PublicKey.treeHashRoot hash32Concat w) :
    v = w ∨ (PublicKey.chunk v 0, PublicKey.chunk v 1) ≠
        (PublicKey.chunk w 0, PublicKey.chunk w 1) ∧
      hash32Concat (PublicKey.chunk v 0) (PublicKey.chunk v 1) =
        hash32Concat (PublicKey.chunk w 0) (PublicKey.chunk w 1) := by
  rw [PublicKey.treeHashRoot_eq, PublicKey.treeHashRoot_eq] at h
  by_cases hpair : (PublicKey.chunk v 0, PublicKey.chunk v 1) =
      (PublicKey.chunk w 0, PublicKey.chunk w 1)
  · exact .inl (PublicKey.chunk_inj (congrArg Prod.fst hpair) (congrArg Prod.snd hpair))
  · exact .inr ⟨hpair, h⟩

/-- The root of a bid is the root of the tree of its chunks. -/
theorem signingRoot_eq_root (bid : BidMessage Pub) (domain : Hash256) :
    bid.signingRoot hash32Concat serialize domain =
      SigningChunk.signingTree.root hash32Concat (SigningChunk.of serialize bid domain) := by
  have hnine : Nat.clog 2 9 = 4 := by decide
  have htwo : Nat.clog 2 2 = 1 := by decide
  unfold BidMessage.signingRoot SigningData.treeHashRoot BidMessage.treeHashRoot merkleHasher
  rw [hnine, htwo, PublicKey.treeHashRoot_eq, PublicKey.treeHashRoot_eq]
  unfold SigningChunk.signingTree SigningChunk.bidTree SigningChunk.publicKeyTree
  simp only [HashTree.root_perfect, List.map_cons, List.map_nil, HashTree.root, SigningChunk.of]

/-- Equal signing roots are equal chunks, so equal fields, or a collision. -/
theorem signingRoot_binds {bid bid' : BidMessage Pub} {domain domain' : Hash256}
    (h : bid.signingRoot hash32Concat serialize domain =
      bid'.signingRoot hash32Concat serialize domain') :
    (bid.serialized (fun key => (serialize key).bytes) =
        bid'.serialized (fun key => (serialize key).bytes) ∧ domain = domain') ∨
      SigningChunk.signingTree.Collision hash32Concat (SigningChunk.of serialize bid domain)
        (SigningChunk.of serialize bid' domain') := by
  rw [signingRoot_eq_root, signingRoot_eq_root] at h
  refine (HashTree.root_binds SigningChunk.signingTree h).imp_left fun hleaves => ?_
  refine ⟨?_, hleaves .domain (by decide)⟩
  unfold BidMessage.serialized
  congr 1
  · exact uint64TreeHashRoot_inj (hleaves .slot (by decide))
  · exact B256.treeHashRoot_inj (hleaves .parentHash (by decide))
  · exact B256.treeHashRoot_inj (hleaves .blockHash (by decide))
  · exact congrArg FixedBytes.bytes (PublicKey.chunk_inj (hleaves (.builderPubkey 0) (by decide))
      (hleaves (.builderPubkey 1) (by decide)))
  · exact congrArg FixedBytes.bytes (PublicKey.chunk_inj (hleaves (.proposerPubkey 0) (by decide))
      (hleaves (.proposerPubkey 1) (by decide)))
  · exact Address.treeHashRoot_inj (hleaves .proposerFeeRecipient (by decide))
  · exact uint64TreeHashRoot_inj (hleaves .gasLimit (by decide))
  · exact uint64TreeHashRoot_inj (hleaves .gasUsed (by decide))
  · exact U256.treeHashRoot_inj (hleaves .value (by decide))

end

/-- **A signature binds one bid and one domain**, up to a collision of the
compression function met while hashing the two: the hand-written leaves lose
nothing, and every field has its own place in the tree. -/
theorem signature_binds_one_bid (hash32Concat : Hash256 → Hash256 → Hash256) {Pub : Type}
    (serialize : Pub → Bytes48) :
    Function.Injective B256.treeHashRoot ∧ Function.Injective U256.treeHashRoot ∧
      Function.Injective Address.treeHashRoot ∧
      (∀ v w : Bytes48,
        PublicKey.treeHashRoot hash32Concat v = PublicKey.treeHashRoot hash32Concat w →
          v = w ∨ (PublicKey.chunk v 0, PublicKey.chunk v 1) ≠
              (PublicKey.chunk w 0, PublicKey.chunk w 1) ∧
            hash32Concat (PublicKey.chunk v 0) (PublicKey.chunk v 1) =
              hash32Concat (PublicKey.chunk w 0) (PublicKey.chunk w 1)) ∧
      ∀ (bid bid' : BidMessage Pub) (domain domain' : Hash256),
        bid.signingRoot hash32Concat serialize domain =
            bid'.signingRoot hash32Concat serialize domain' →
          (bid.serialized (fun key => (serialize key).bytes) =
              bid'.serialized (fun key => (serialize key).bytes) ∧ domain = domain') ∨
            SigningChunk.signingTree.Collision hash32Concat
              (SigningChunk.of serialize bid domain) (SigningChunk.of serialize bid' domain') :=
  ⟨fun _ _ h => B256.treeHashRoot_inj h, fun _ _ h => U256.treeHashRoot_inj h,
    fun _ _ h => Address.treeHashRoot_inj h, fun _ _ h => PublicKey.treeHashRoot_binds h,
    fun _ _ _ _ h => signingRoot_binds h⟩

end BlockBuilder
