import BlockBuilder.Bundles.Bundle
import BlockBuilder.Lib.Table

/-!
# The bundle pool behind its lock (`crates/bundles/src/inner.rs`)

Bundles by hash, with four indices from block numbers, time bounds and uuids to
hashes. That a bundle is stored under its own hash is a field of the pool, so
no operation can break it.

Mirroring notes, each of them the source's own behaviour:
- `cancelBundle` takes the hash out of the block-number and the min-timestamp
  index only; the max-timestamp and the uuid index keep it.
- `handleReplacementUuid` reads the first hash of a uuid and cancels it, and
  indexes the new hash only when the uuid had no hash at all.
- `addBundle` logs a failed replacement and goes on.
- `prune` takes the removed hashes out of every index.
-/

namespace BlockBuilder

open Lib (Table Index)

inductive PoolError where
  | bundleNotFound
  | bundleReplacementFailed
  deriving DecidableEq, Repr

structure BundlePoolInner where
  bundles : Table B256 Bundle
  blockNumberIndex : Index UInt64 B256
  minTimestampIndex : Index UInt64 B256
  maxTimestampIndex : Index UInt64 B256
  uuidIndex : Index Uuid B256
  /-- Every bundle is stored under its hash. -/
  hash_of_lookup : ∀ {h : B256} {b : Bundle}, bundles.lookup h = some b → b.hash = h

namespace BundlePoolInner

def new : BundlePoolInner where
  bundles := ∅
  blockNumberIndex := .new
  minTimestampIndex := .new
  maxTimestampIndex := .new
  uuidIndex := .new
  hash_of_lookup := by
    intro h b hb
    rw [AList.lookup_empty] at hb
    exact absurd hb (by simp)

def len (p : BundlePoolInner) : Nat := p.bundles.len

def isEmpty (p : BundlePoolInner) : Bool := p.len = 0

/-! ## Operations -/

def insertBundle (p : BundlePoolInner) (bundle : Bundle) : BundlePoolInner :=
  { p with
    bundles := p.bundles.insert bundle.hash bundle
    hash_of_lookup := by
      intro h b hb
      rcases Table.lookup_insert_eq_some.mp hb with ⟨rfl, rfl⟩ | ⟨_, hb⟩
      · rfl
      · exact p.hash_of_lookup hb }

def indexBlockNumber (p : BundlePoolInner) (blockNumber : UInt64) (hash : B256) :
    BundlePoolInner :=
  { p with blockNumberIndex := p.blockNumberIndex.insert blockNumber hash }

def indexMinTs (p : BundlePoolInner) (timestamp : UInt64) (hash : B256) : BundlePoolInner :=
  { p with minTimestampIndex := p.minTimestampIndex.insert timestamp hash }

def indexMaxTs (p : BundlePoolInner) (timestamp : UInt64) (hash : B256) : BundlePoolInner :=
  { p with maxTimestampIndex := p.maxTimestampIndex.insert timestamp hash }

def removeBundle (p : BundlePoolInner) (hash : B256) : BundlePoolInner :=
  { p with
    bundles := p.bundles.erase hash
    hash_of_lookup := by
      intro h b hb
      exact p.hash_of_lookup (Table.lookup_erase_eq_some.mp hb).2 }

/-- Cancel and remove a bundle. -/
def cancelBundle (p : BundlePoolInner) (hash : B256) : Except PoolError BundlePoolInner :=
  match p.bundles.lookup hash with
  | none => .error .bundleNotFound
  | some bundle =>
    .ok { p.removeBundle hash with
      minTimestampIndex :=
        match bundle.minTimestamp with
        | some key => p.minTimestampIndex.retainAt key (· ≠ hash)
        | none => p.minTimestampIndex
      blockNumberIndex := p.blockNumberIndex.retainAt bundle.blockNumber (· ≠ hash) }

/-- The first hash of a uuid. -/
def findByUuid (p : BundlePoolInner) (uuid : Uuid) : Option B256 :=
  (p.uuidIndex.get uuid).head?

/-- Cancel the bundle a uuid is indexed at, or index the uuid. -/
def handleReplacementUuid (p : BundlePoolInner) (uuid : Uuid) (hash : B256) :
    Except PoolError BundlePoolInner :=
  match p.findByUuid uuid with
  | some hash =>
    match p.cancelBundle hash with
    | .ok p' => .ok p'
    | .error _ => .error .bundleReplacementFailed
  | none => .ok { p with uuidIndex := p.uuidIndex.insert uuid hash }

/-- The pool after the uuid of a new bundle is handled; a failed replacement is only logged. -/
def replaced (p : BundlePoolInner) (bundle : Bundle) : BundlePoolInner :=
  match bundle.replacementUuid with
  | none => p
  | some uuid =>
    match p.handleReplacementUuid uuid bundle.hash with
    | .ok p' => p'
    | .error _ => p

/-- Add a bundle; the hash it answers is the bundle's. -/
def addBundle (p : BundlePoolInner) (bundle : Bundle) : B256 × BundlePoolInner :=
  let p := ((p.replaced bundle).insertBundle bundle).indexBlockNumber bundle.blockNumber bundle.hash
  let p := match bundle.minTimestamp with
    | some timestamp => p.indexMinTs timestamp bundle.hash
    | none => p
  let p := match bundle.maxTimestamp with
    | some timestamp => p.indexMaxTs timestamp bundle.hash
    | none => p
  (bundle.hash, p)

def getByBlockAndTs (p : BundlePoolInner) (hash : B256) (blockNumber timestamp : UInt64) :
    Option Bundle :=
  (p.bundles.lookup hash).filter fun bundle =>
    bundle.isWithinTimestamp timestamp && bundle.isWithinBlockNumber blockNumber

/-- The bundles valid for a block number and a timestamp. -/
def bundlesAt (p : BundlePoolInner) (blockNumber timestamp : UInt64) : List Bundle :=
  (p.blockNumberIndex.get blockNumber).filterMap fun hash =>
    p.getByBlockAndTs hash blockNumber timestamp

/-- The hashes a prune removes. -/
def prunableHashes (p : BundlePoolInner) (blockNumber timestamp : UInt64) : List B256 :=
  (p.bundles.entries.filter fun e => e.2.isPrunable blockNumber timestamp).map (·.1)

/-- Remove the bundles that are no longer valid; answers how many went and how many are left. -/
def prune (p : BundlePoolInner) (blockNumber timestamp : UInt64) :
    (Nat × Nat) × BundlePoolInner :=
  let removed := p.prunableHashes blockNumber timestamp
  let p' : BundlePoolInner :=
    { bundles := p.bundles.retain fun _ bundle => !bundle.isPrunable blockNumber timestamp
      blockNumberIndex := p.blockNumberIndex.retainAll (!removed.contains ·)
      minTimestampIndex := p.minTimestampIndex.retainAll (!removed.contains ·)
      maxTimestampIndex := p.maxTimestampIndex.retainAll (!removed.contains ·)
      uuidIndex := p.uuidIndex.retainAll (!removed.contains ·)
      hash_of_lookup := by
        intro h b hb
        exact p.hash_of_lookup (Table.lookup_retain_eq_some.mp hb).1 }
  ((removed.length, p'.len), p')

/-! ## What each operation leaves under a hash

A bundle is *live* when it is stored. These lemmas say which bundles are live
after an operation; the theorems about runs use nothing else of the table. -/

def Live (p : BundlePoolInner) (b : Bundle) : Prop := p.bundles.lookup b.hash = some b

theorem live_of_lookup {p : BundlePoolInner} {h : B256} {b : Bundle}
    (hb : p.bundles.lookup h = some b) : p.Live b := by
  have hh := p.hash_of_lookup hb
  subst hh
  exact hb

theorem Live.eq_of_hash {p : BundlePoolInner} {a b : Bundle} (ha : p.Live a) (hb : p.Live b)
    (h : a.hash = b.hash) : a = b := by
  unfold Live at ha hb
  rw [h, hb] at ha
  exact (Option.some.inj ha).symm

@[simp] theorem not_live_new (b : Bundle) : ¬ new.Live b := by
  show ¬ AList.lookup b.hash (∅ : Table B256 Bundle) = some b
  rw [AList.lookup_empty]
  simp

/-- A cancellation that succeeds removes the bundle of that hash and no other. -/
theorem live_cancelBundle {p p' : BundlePoolInner} {hash : B256}
    (h : p.cancelBundle hash = .ok p') (b : Bundle) :
    p'.Live b ↔ b.hash ≠ hash ∧ p.Live b := by
  unfold cancelBundle at h
  split at h
  next => cases h
  next bundle _ =>
    cases h
    exact Table.lookup_erase_eq_some

/-- Handling the uuid of a new bundle removes the bundle the uuid is indexed at, if any. -/
theorem live_replaced (p : BundlePoolInner) (bundle b : Bundle) :
    (p.replaced bundle).Live b ↔
      p.Live b ∧ ∀ uuid, bundle.replacementUuid = some uuid → p.findByUuid uuid ≠ some b.hash := by
  unfold replaced
  cases bundle.replacementUuid with
  | none => simp
  | some uuid =>
    simp only [Option.some.injEq, forall_eq']
    unfold handleReplacementUuid
    cases hfind : p.findByUuid uuid with
    | none =>
      show p.Live b ↔ _
      simp
    | some hash =>
      simp only [ne_eq, Option.some.injEq]
      cases hcancel : p.cancelBundle hash with
      | ok p' =>
        rw [live_cancelBundle hcancel, ne_comm, and_comm, ne_eq]
      | error e =>
        -- the uuid is indexed at a bundle that is gone, so nothing live has that hash
        show p.Live b ↔ p.Live b ∧ _
        refine ⟨fun hb => ⟨hb, ?_⟩, fun hb => hb.1⟩
        intro heq
        rw [heq] at hcancel
        unfold cancelBundle at hcancel
        rw [show p.bundles.lookup b.hash = some b from hb] at hcancel
        cases hcancel

/-- After an addition the new bundle is live, and so is every bundle of another
hash that the uuid of the new one did not replace. -/
theorem live_addBundle (p : BundlePoolInner) (bundle b : Bundle) :
    (p.addBundle bundle).2.Live b ↔
      b = bundle ∨ b.hash ≠ bundle.hash ∧ (p.replaced bundle).Live b := by
  have hinsert : (p.addBundle bundle).2.bundles
      = (p.replaced bundle).bundles.insert bundle.hash bundle := by
    unfold addBundle
    cases bundle.minTimestamp <;> cases bundle.maxTimestamp <;> rfl
  unfold Live
  rw [hinsert, Table.lookup_insert_eq_some]
  constructor
  · intro h
    rcases h with ⟨_, hnew⟩ | hold
    · exact .inl hnew.symm
    · exact .inr hold
  · intro h
    rcases h with rfl | hold
    · exact .inl ⟨rfl, rfl⟩
    · exact .inr hold

/-- A prune removes exactly the prunable bundles. -/
theorem live_prune (p : BundlePoolInner) (blockNumber timestamp : UInt64) (b : Bundle) :
    (p.prune blockNumber timestamp).2.Live b ↔
      p.Live b ∧ b.isPrunable blockNumber timestamp = false := by
  show (Table.retain _ p.bundles).lookup b.hash = some b ↔ _
  rw [Table.lookup_retain_eq_some, Bool.not_eq_true']
  rfl

theorem mem_prunableHashes (p : BundlePoolInner) (blockNumber timestamp : UInt64) (hash : B256) :
    hash ∈ p.prunableHashes blockNumber timestamp ↔
      ∃ b, p.bundles.lookup hash = some b ∧ b.isPrunable blockNumber timestamp = true := by
  unfold prunableHashes
  simp only [List.mem_map, List.mem_filter, Sigma.exists]
  constructor
  · intro h
    obtain ⟨hash', b, ⟨hmem, hprunable⟩, rfl⟩ := h
    exact ⟨b, Table.mem_entries.mp hmem, hprunable⟩
  · intro h
    obtain ⟨b, hb, hprunable⟩ := h
    exact ⟨hash, b, ⟨Table.mem_entries.mpr hb, hprunable⟩, rfl⟩

/-- What a query returns: the live bundles indexed at the block, in their window. -/
theorem mem_bundlesAt {p : BundlePoolInner} {b : Bundle} {blockNumber timestamp : UInt64} :
    b ∈ p.bundlesAt blockNumber timestamp ↔
      p.Live b ∧ b.hash ∈ p.blockNumberIndex.get blockNumber ∧
        b.isWithinTimestamp timestamp = true ∧ blockNumber = b.blockNumber := by
  unfold bundlesAt getByBlockAndTs
  simp only [List.mem_filterMap, Option.filter_eq_some_iff, Bool.and_eq_true,
    Bundle.isWithinBlockNumber, decide_eq_true_eq]
  constructor
  · intro h
    obtain ⟨hash, hindex, hlookup, hts, hbn⟩ := h
    have hlive := live_of_lookup hlookup
    rw [p.hash_of_lookup hlookup]
    exact ⟨hlive, hindex, hts, hbn⟩
  · intro h
    obtain ⟨hlive, hindex, hts, hbn⟩ := h
    exact ⟨b.hash, hindex, hlive, hts, hbn⟩

/-! ## What each operation leaves in the block-number index -/

/-- A cancellation takes no other hash out of the index. -/
theorem blockNumberIndex_cancelBundle {p p' : BundlePoolInner} {hash hash' : B256}
    (h : p.cancelBundle hash = .ok p') (hne : hash' ≠ hash) (n : UInt64) :
    hash' ∈ p'.blockNumberIndex.get n ↔ hash' ∈ p.blockNumberIndex.get n := by
  unfold cancelBundle at h
  split at h
  next => cases h
  next bundle _ =>
    cases h
    show hash' ∈ (p.blockNumberIndex.retainAt bundle.blockNumber (· ≠ hash)).get n ↔ _
    rw [Index.get_retainAt]
    split
    next => simp [hne]
    next => rfl

theorem blockNumberIndex_replaced {p : BundlePoolInner} {bundle : Bundle} {hash : B256}
    (h : ∀ uuid, bundle.replacementUuid = some uuid → p.findByUuid uuid ≠ some hash)
    (n : UInt64) :
    hash ∈ (p.replaced bundle).blockNumberIndex.get n ↔ hash ∈ p.blockNumberIndex.get n := by
  unfold replaced
  cases huuid : bundle.replacementUuid with
  | none => rfl
  | some uuid =>
    have hfind := h uuid huuid
    simp only [handleReplacementUuid]
    cases hf : p.findByUuid uuid with
    | none => rfl
    -- The hash found is cancelled; a cancel touches no other hash, and may fail.
    | some hash' =>
      have hne : hash ≠ hash' := by
        intro heq
        rw [heq] at hfind
        exact hfind hf
      simp only
      cases hcancel : p.cancelBundle hash' with
      | ok p' => exact blockNumberIndex_cancelBundle hcancel hne n
      | error e => rfl

theorem blockNumberIndex_addBundle (p : BundlePoolInner) (bundle : Bundle) (hash : B256)
    (n : UInt64) :
    hash ∈ (p.addBundle bundle).2.blockNumberIndex.get n ↔
      hash ∈ (p.replaced bundle).blockNumberIndex.get n ∨
        n = bundle.blockNumber ∧ hash = bundle.hash := by
  have hindex : (p.addBundle bundle).2.blockNumberIndex
      = (p.replaced bundle).blockNumberIndex.insert bundle.blockNumber bundle.hash := by
    unfold addBundle
    cases bundle.minTimestamp <;> cases bundle.maxTimestamp <;> rfl
  rw [hindex, Index.mem_get_insert]

/-- A prune takes out the hashes of the bundles it removes. -/
theorem blockNumberIndex_prune (p : BundlePoolInner) (blockNumber timestamp : UInt64)
    (hash : B256) (n : UInt64) :
    hash ∈ (p.prune blockNumber timestamp).2.blockNumberIndex.get n ↔
      hash ∈ p.blockNumberIndex.get n ∧ hash ∉ p.prunableHashes blockNumber timestamp := by
  show hash ∈ (p.blockNumberIndex.retainAll _).get n ↔ _
  rw [Index.get_retainAll, List.mem_filter]
  simp

/-! ## What a prune leaves of a query -/

theorem getByBlockAndTs_prune (p : BundlePoolInner) (blockNumber timestamp : UInt64) (hash : B256)
    (n ts : UInt64) :
    (p.prune blockNumber timestamp).2.getByBlockAndTs hash n ts =
      (p.getByBlockAndTs hash n ts).filter (!·.isPrunable blockNumber timestamp) := by
  have hlookup : (p.prune blockNumber timestamp).2.bundles.lookup hash =
      (p.bundles.lookup hash).filter (!·.isPrunable blockNumber timestamp) := by
    ext b
    rw [Option.filter_eq_some_iff]
    exact Table.lookup_retain_eq_some
  unfold getByBlockAndTs
  rw [hlookup, Option.filter_filter, Option.filter_filter]
  congr 1
  funext b
  exact Bool.and_comm ..

/-- **A prune filters every query**: what it returned before, without the
bundles the prune found out of date. -/
theorem bundlesAt_prune (p : BundlePoolInner) (blockNumber timestamp n ts : UInt64) :
    (p.prune blockNumber timestamp).2.bundlesAt n ts =
      (p.bundlesAt n ts).filter (!·.isPrunable blockNumber timestamp) := by
  unfold bundlesAt
  rw [List.filter_filterMap]
  show ((p.blockNumberIndex.get n).filter _).filterMap _ = _
  rw [List.filterMap_filter]
  refine List.filterMap_congr fun hash _ => ?_
  rw [getByBlockAndTs_prune]
  split
  next => rfl
  next hremoved =>
    -- the hash went out of the index with its bundle, which the filter refuses as well
    have hmem : hash ∈ p.prunableHashes blockNumber timestamp := by simpa using hremoved
    obtain ⟨b, hlookup, hprunable⟩ := (p.mem_prunableHashes blockNumber timestamp hash).mp hmem
    unfold getByBlockAndTs
    rw [hlookup, Option.filter_filter]
    simp [Option.filter, hprunable]

end BundlePoolInner

end BlockBuilder
