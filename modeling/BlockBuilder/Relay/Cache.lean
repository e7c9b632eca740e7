import BlockBuilder.Lib.Argmax
import BlockBuilder.Lib.Run
import BlockBuilder.Lib.Table
import BlockBuilder.Primitives.Bid

/-!
# The cache of the internal relay (`crates/relay/src/internal_relay.rs`)

The internal relay keeps the bids it was sent for the last four blocks. Every
insertion is followed by an eviction against the largest block number seen, so
a bid for a block that is already too old goes in and out at once.

`Exact` says what the cache holds in terms of everything inserted: under a block
within four of the largest, all its bids in order, and nothing under any other.
One insertion keeps it (`exact_insert`), and `cache_exact` reads the queries off
it.

Mirroring notes:
- The subtraction from the largest block is a word's; the early exit for small
  block numbers keeps it from wrapping.
- `get_best_bid` takes the last of the bids of greatest value.
-/

namespace BlockBuilder

open Lib (Table run run_concat maxByKey maxByKey_mem le_of_maxByKey maxByKey_eq_none)

def MAX_CACHE_BLOCK_SIZE : UInt64 := 4

/-- The cache maps block numbers to the bids received for them, with their traces. -/
structure RelayBidCache (Pub Sig : Type) where
  lastBlock : UInt64
  cache : Table UInt64 (List (SignedBid Pub Sig × FullBidTrace Pub))

/-- A bid that is inserted, and the time its trace is given. -/
structure Insertion (Pub Sig : Type) where
  bid : SignedBid Pub Sig
  utcNowMs : UInt64

namespace RelayBidCache

variable {Pub Sig : Type}

def default : RelayBidCache Pub Sig := ⟨0, ∅⟩

/-- Remove the blocks that have expired, if the cache can be full. -/
def resize (c : RelayBidCache Pub Sig) : RelayBidCache Pub Sig :=
  if c.lastBlock < MAX_CACHE_BLOCK_SIZE then c
  else
    let expiredBlocks := c.cache.keys.filter (· ≤ c.lastBlock - MAX_CACHE_BLOCK_SIZE)
    { c with cache := expiredBlocks.foldl (fun cache block => cache.erase block) c.cache }

/-- Add a bid to the cache and resize it. -/
def insert (c : RelayBidCache Pub Sig) (i : Insertion Pub Sig) : RelayBidCache Pub Sig :=
  let blockNumber := i.bid.blockNumber
  let trace := i.bid.toTrace i.utcNowMs
  let cache := match c.cache.lookup blockNumber with
    | none => c.cache.insert blockNumber [(i.bid, trace)]
    | some bids => c.cache.insert blockNumber (bids ++ [(i.bid, trace)])
  resize ⟨if c.lastBlock ≤ blockNumber then blockNumber else c.lastBlock, cache⟩

def getAllBids (c : RelayBidCache Pub Sig) (blockNumber : UInt64) :
    Option (List (SignedBid Pub Sig × FullBidTrace Pub)) :=
  c.cache.lookup blockNumber

def getBestBid (c : RelayBidCache Pub Sig) (blockNumber timestamp : UInt64) :
    Option (SignedBid Pub Sig) :=
  match c.getAllBids blockNumber with
  | some bids =>
    (maxByKey (fun e => e.1.message.value.toNat)
      (bids.filter fun e => e.2.timestampMs < timestamp)).map (·.1)
  | none => none

/-! ## What each operation leaves under a block -/

/-- A resize drops the blocks four or more below the largest. -/
theorem lookup_resize (c : RelayBidCache Pub Sig) (b : UInt64) :
    c.resize.cache.lookup b =
      if c.lastBlock.toNat < b.toNat + 4 then c.cache.lookup b else none := by
  unfold resize
  split
  next hsmall =>
    have hlt : c.lastBlock.toNat < 4 := UInt64.lt_iff_toNat_lt.mp hsmall
    rw [if_pos (by omega)]
  next hlarge =>
    have hge : 4 ≤ c.lastBlock.toNat := UInt64.le_iff_toNat_le.mp (UInt64.not_lt.mp hlarge)
    have hsub : (c.lastBlock - MAX_CACHE_BLOCK_SIZE).toNat = c.lastBlock.toNat - 4 :=
      UInt64.toNat_sub_of_le _ _ (UInt64.not_lt.mp hlarge)
    have hexpired : b ≤ c.lastBlock - MAX_CACHE_BLOCK_SIZE ↔
        ¬ c.lastBlock.toNat < b.toNat + 4 := by
      rw [UInt64.le_iff_toNat_le, hsub]
      omega
    show (List.foldl _ c.cache _).lookup b = _
    rw [Table.lookup_foldl_erase]
    have hmem : b ∈ c.cache.keys.filter (· ≤ c.lastBlock - MAX_CACHE_BLOCK_SIZE) ↔
        b ∈ c.cache.keys ∧ ¬ c.lastBlock.toNat < b.toNat + 4 := by
      rw [List.mem_filter, decide_eq_true_eq, hexpired]
    by_cases hrecent : c.lastBlock.toNat < b.toNat + 4
    · rw [if_neg (fun h => (hmem.mp h).2 hrecent), if_pos hrecent]
    · rw [if_neg hrecent]
      -- a block that is no key has nothing under it anyway
      by_cases hkey : b ∈ c.cache.keys
      · rw [if_pos (hmem.mpr ⟨hkey, hrecent⟩)]
      · rw [if_neg (fun h => hkey (hmem.mp h).1)]
        exact AList.lookup_eq_none.mpr hkey

theorem lastBlock_resize (c : RelayBidCache Pub Sig) : c.resize.lastBlock = c.lastBlock := by
  unfold resize
  split <;> rfl

theorem lastBlock_insert (c : RelayBidCache Pub Sig) (i : Insertion Pub Sig) :
    (c.insert i).lastBlock.toNat = max c.lastBlock.toNat i.bid.blockNumber.toNat := by
  unfold insert
  rw [lastBlock_resize]
  show (if _ then _ else _ : UInt64).toNat = _
  rw [apply_ite UInt64.toNat]
  simp only [UInt64.le_iff_toNat_le]
  split <;> omega

/-- An insertion appends to the bids of its block, and the resize drops what is then too old. -/
theorem lookup_insert (c : RelayBidCache Pub Sig) (i : Insertion Pub Sig) (b : UInt64) :
    (c.insert i).cache.lookup b =
      if max c.lastBlock.toNat i.bid.blockNumber.toNat < b.toNat + 4 then
        if b = i.bid.blockNumber then
          some ((c.cache.lookup b).getD [] ++ [(i.bid, i.bid.toTrace i.utcNowMs)])
        else c.cache.lookup b
      else none := by
  have hlast := c.lastBlock_insert i
  unfold insert at hlast ⊢
  rw [lastBlock_resize] at hlast
  rw [lookup_resize, hlast]
  congr 1
  by_cases hb : b = i.bid.blockNumber
  · rw [if_pos hb, hb]
    cases c.cache.lookup i.bid.blockNumber with
    | none => exact AList.lookup_insert ..
    | some bids => exact AList.lookup_insert ..
  · rw [if_neg hb]
    cases c.cache.lookup i.bid.blockNumber with
    | none => exact AList.lookup_insert_ne hb
    | some bids => exact AList.lookup_insert_ne hb

end RelayBidCache

open RelayBidCache

variable {Pub Sig : Type}

/-! ## The cache against everything inserted -/

/-- The largest block number inserted. -/
def largestBlock (is : List (Insertion Pub Sig)) : Nat :=
  (is.map (·.bid.blockNumber.toNat)).foldl max 0

/-- The bids inserted for a block, in order, with their traces. -/
def insertedFor (b : UInt64) (is : List (Insertion Pub Sig)) :
    List (SignedBid Pub Sig × FullBidTrace Pub) :=
  (is.filter (·.bid.blockNumber = b)).map fun i => (i.bid, i.bid.toTrace i.utcNowMs)

theorem le_largestBlock {is : List (Insertion Pub Sig)} {i : Insertion Pub Sig} (h : i ∈ is) :
    i.bid.blockNumber.toNat ≤ largestBlock is := by
  have hge : ∀ (l : List Nat) (m : Nat), m ≤ l.foldl max m ∧ ∀ n ∈ l, n ≤ l.foldl max m := by
    intro l
    induction l with
    | nil => simp
    | cons x l ih =>
      intro m
      obtain ⟨hinit, hmem⟩ := ih (max m x)
      refine ⟨by rw [List.foldl_cons]; omega, fun n hn => ?_⟩
      rcases List.mem_cons.mp hn with rfl | hn
      · rw [List.foldl_cons]
        omega
      · exact hmem n hn
  exact (hge _ 0).2 _ (List.mem_map_of_mem h)

theorem largestBlock_concat (is : List (Insertion Pub Sig)) (i : Insertion Pub Sig) :
    largestBlock (is ++ [i]) = max (largestBlock is) i.bid.blockNumber.toNat := by
  simp [largestBlock]

theorem insertedFor_concat (b : UInt64) (is : List (Insertion Pub Sig)) (i : Insertion Pub Sig) :
    insertedFor b (is ++ [i]) =
      if b = i.bid.blockNumber then
        insertedFor b is ++ [(i.bid, i.bid.toTrace i.utcNowMs)]
      else insertedFor b is := by
  unfold insertedFor
  rw [List.filter_append, List.map_append, List.filter_singleton]
  by_cases hb : b = i.bid.blockNumber
  · simp [hb]
  · simp [hb, Ne.symm hb]

/-- The cache holds the bids of the recent blocks, each block's in order, and nothing else. -/
structure Exact (is : List (Insertion Pub Sig)) (c : RelayBidCache Pub Sig) : Prop where
  last : c.lastBlock.toNat = largestBlock is
  bids : ∀ b, c.cache.lookup b =
    if largestBlock is < b.toNat + 4 ∧ insertedFor b is ≠ [] then some (insertedFor b is)
    else none

theorem exact_default : Exact [] (default : RelayBidCache Pub Sig) where
  last := rfl
  bids := by
    intro b
    show AList.lookup b ∅ = _
    rw [AList.lookup_empty]
    simp [insertedFor]

/-- **One insertion.** -/
theorem exact_insert {is : List (Insertion Pub Sig)} {c : RelayBidCache Pub Sig}
    (h : Exact is c) (i : Insertion Pub Sig) : Exact (is ++ [i]) (c.insert i) where
  last := by rw [lastBlock_insert, h.last, largestBlock_concat]
  bids := by
    intro b
    rw [lookup_insert, h.last, h.bids, insertedFor_concat, largestBlock_concat]
    by_cases hrecent : max (largestBlock is) i.bid.blockNumber.toNat < b.toNat + 4
    · have hbefore : largestBlock is < b.toNat + 4 := by omega
      rw [if_pos hrecent]
      by_cases hb : b = i.bid.blockNumber
      · have hheld : (if largestBlock is < b.toNat + 4 ∧ insertedFor b is ≠ [] then
            some (insertedFor b is) else none).getD [] = insertedFor b is := by
          by_cases hempty : insertedFor b is = []
          · rw [hempty, if_neg (fun h => h.2 rfl)]
            rfl
          · rw [if_pos ⟨hbefore, hempty⟩]
            rfl
        rw [if_pos hb, if_pos hb, hheld, if_pos ⟨hrecent, by simp⟩]
      · simp [hb, hbefore, hrecent]
    · rw [if_neg hrecent, if_neg (fun h => hrecent h.1)]

theorem exact_run (is : List (Insertion Pub Sig)) : Exact is (run insert default is) := by
  induction is using List.reverseRecOn with
  | nil => exact exact_default
  | append_singleton is i ih =>
    rw [run_concat]
    exact exact_insert ih i

/-! ## What the queries return -/

/-- A bid of greatest value among those of a block before a time. -/
def BestBefore (bids : List (SignedBid Pub Sig × FullBidTrace Pub)) (timestamp : UInt64)
    (bid : SignedBid Pub Sig) : Prop :=
  (∃ trace, (bid, trace) ∈ bids ∧ trace.timestampMs < timestamp) ∧
    ∀ e ∈ bids, e.2.timestampMs < timestamp →
      e.1.message.value.toNat ≤ bid.message.value.toNat

/-- The best bid is one of the bids of its block, before the time and of greatest value. -/
theorem getBestBid_spec {c : RelayBidCache Pub Sig} {b timestamp : UInt64}
    {bid : SignedBid Pub Sig} (h : c.getBestBid b timestamp = some bid) :
    BestBefore ((c.getAllBids b).getD []) timestamp bid := by
  unfold getBestBid at h
  cases hbids : c.getAllBids b with
  | none =>
    rw [hbids] at h
    cases h
  | some bids =>
    rw [hbids] at h
    obtain ⟨⟨bid', trace⟩, hmax, rfl⟩ := Option.map_eq_some_iff.mp h
    have hmem := List.mem_filter.mp (maxByKey_mem hmax)
    refine ⟨⟨trace, hmem.1, of_decide_eq_true hmem.2⟩, fun e he hbefore => ?_⟩
    have hcandidate : e ∈ bids.filter fun e => e.2.timestampMs < timestamp :=
      List.mem_filter.mpr ⟨he, decide_eq_true hbefore⟩
    have hle := le_of_maxByKey hmax hcandidate
    exact hle

theorem getBestBid_eq_none {c : RelayBidCache Pub Sig} {b timestamp : UInt64} :
    c.getBestBid b timestamp = none ↔
      ∀ e ∈ (c.getAllBids b).getD [], ¬ e.2.timestampMs < timestamp := by
  unfold getBestBid
  cases c.getAllBids b with
  | none => simp
  | some bids =>
    show Option.map _ (maxByKey _ _) = none ↔ _
    rw [Option.map_eq_none_iff, maxByKey_eq_none, List.filter_eq_nil_iff]
    simp

/-- The blocks of a cache that is exact lie in a window of four. -/
theorem Exact.keys_in_window {is : List (Insertion Pub Sig)} {c : RelayBidCache Pub Sig}
    (h : Exact is c) {b : UInt64} (hb : b ∈ c.cache.keys) :
    largestBlock is < b.toNat + 4 ∧ b.toNat ≤ largestBlock is := by
  obtain ⟨bids, hbids⟩ := Option.isSome_iff_exists.mp (AList.lookup_isSome.mpr hb)
  rw [h.bids] at hbids
  split at hbids
  next hrecent =>
    refine ⟨hrecent.1, ?_⟩
    -- a bid was inserted for the block, so the largest is no smaller
    obtain ⟨e, he⟩ := List.exists_mem_of_ne_nil _ hrecent.2
    obtain ⟨i, hi, -⟩ := List.mem_map.mp he
    obtain ⟨hmem, hblock⟩ := List.mem_filter.mp hi
    rw [← of_decide_eq_true hblock]
    exact le_largestBlock hmem
  next => cases hbids

/-- **The cache never holds more than four blocks.** -/
theorem Exact.len_le {is : List (Insertion Pub Sig)} {c : RelayBidCache Pub Sig}
    (h : Exact is c) : c.cache.len ≤ 4 := by
  have hnodup : (c.cache.keys.map UInt64.toNat).Nodup :=
    c.cache.keys_nodup.map fun a b hab => UInt64.toNat_inj.mp hab
  have hsubset : c.cache.keys.map UInt64.toNat ⊆ List.range' (largestBlock is - 3) 4 := by
    intro n hn
    obtain ⟨b, hb, rfl⟩ := List.mem_map.mp hn
    obtain ⟨hlow, hhigh⟩ := h.keys_in_window hb
    rw [List.mem_range'_1]
    omega
  have hlen := (List.subperm_of_subset hnodup hsubset).length_le
  rw [List.length_map, List.length_range'] at hlen
  rw [Table.len_eq]
  exact hlen

/-- **The cache keeps exactly the recent blocks.** After any insertions, the bids of a block
are all there, in order, if the block is within four of the largest and has a bid, and
otherwise none is; no more than four blocks are held; and the best bid before a time is one
of greatest value, or there is none. -/
theorem cache_exact (is : List (Insertion Pub Sig)) (b timestamp : UInt64) :
    (run insert default is).getAllBids b =
        (if largestBlock is < b.toNat + 4 ∧ insertedFor b is ≠ [] then some (insertedFor b is)
        else none) ∧
      (run insert default is).cache.len ≤ 4 ∧
      match (run insert default is).getBestBid b timestamp with
      | some bid =>
        BestBefore (((run insert default is).getAllBids b).getD []) timestamp bid
      | none => ∀ e ∈ ((run insert default is).getAllBids b).getD [],
        ¬ e.2.timestampMs < timestamp := by
  refine ⟨(exact_run is).bids b, (exact_run is).len_le, ?_⟩
  cases hbest : (run insert default is).getBestBid b timestamp with
  | some bid => exact getBestBid_spec hbest
  | none => exact getBestBid_eq_none.mp hbest

end BlockBuilder
