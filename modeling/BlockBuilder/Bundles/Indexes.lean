import BlockBuilder.Bundles.Replacement

/-!
# What the indexes keep of a removed bundle (`crates/bundles/src/inner.rs`)

The pool keeps four indexes by hand beside the map of bundles, and takes a
bundle out of the map in three places. A prune takes what it removes out of
all four. A cancellation looks at two keys only, the bundle's block number and
its min timestamp, and a replacement is a cancellation whose uuid entry stays.

`NoDangling` says that every hash in an index is stored. `no_dangling_iff` is
the exact set of histories that keep it: each cancellation takes out a bundle
indexed under no key but these two, and each addition with a uuid finds the
uuid unindexed or indexed first at its own hash. A bundle with a max timestamp
that is cancelled breaks it (`cancelled_stays_indexed`).
-/

namespace BlockBuilder

open Lib (Index Along run forall_prefix_iff_along)

/-- A key of one of the four indexes. -/
inductive IndexKey where
  | blockNumber (n : UInt64)
  | minTimestamp (ts : UInt64)
  | maxTimestamp (ts : UInt64)
  | uuid (uuid : Uuid)
  deriving DecidableEq, Repr

namespace Bundle

/-- The keys an addition indexes a bundle under, its uuid apart. -/
def Indexes (b : Bundle) : IndexKey → Prop
  | .blockNumber n => n = b.blockNumber
  | .minTimestamp ts => b.minTimestamp = some ts
  | .maxTimestamp ts => b.maxTimestamp = some ts
  | .uuid _ => False

/-- The keys a cancellation takes a bundle out of. -/
def Clears (b : Bundle) : IndexKey → Prop
  | .blockNumber n => n = b.blockNumber
  | .minTimestamp ts => b.minTimestamp = some ts
  | .maxTimestamp _ => False
  | .uuid _ => False

end Bundle

namespace BundlePoolInner

/-- The hashes an index has under a key. -/
def hashesAt (p : BundlePoolInner) : IndexKey → List B256
  | .blockNumber n => p.blockNumberIndex.get n
  | .minTimestamp ts => p.minTimestampIndex.get ts
  | .maxTimestamp ts => p.maxTimestampIndex.get ts
  | .uuid uuid => p.uuidIndex.get uuid

/-! ## What each operation leaves under a key -/

theorem mem_of_findByUuid {p : BundlePoolInner} {uuid : Uuid} {hash : B256}
    (h : p.findByUuid uuid = some hash) : hash ∈ p.hashesAt (.uuid uuid) :=
  List.mem_of_mem_head? h

/-- A cancellation takes its hash out from under the keys it clears, and no other hash. -/
theorem mem_hashesAt_cancelBundle {p p' : BundlePoolInner} {hash : B256}
    (h : p.cancelBundle hash = .ok p') :
    ∃ b, p.bundles.lookup hash = some b ∧ p'.bundles = p.bundles.erase hash ∧
      ∀ key hash', hash' ∈ p'.hashesAt key ↔
        hash' ∈ p.hashesAt key ∧ ¬ (hash' = hash ∧ b.Clears key) := by
  unfold cancelBundle at h
  split at h
  next => cases h
  next bundle hlookup =>
    cases h
    refine ⟨bundle, hlookup, rfl, fun key hash' => ?_⟩
    cases key with
    | blockNumber n =>
      refine Index.mem_get_retainAt.trans (and_congr_right fun _ => ?_)
      rw [decide_eq_true_eq, and_comm, not_and]
      rfl
    | minTimestamp ts =>
      show _ ↔ _ ∧ ¬ (_ ∧ bundle.minTimestamp = some ts)
      unfold hashesAt
      cases bundle.minTimestamp with
      | none => simp
      | some key =>
        refine Index.mem_get_retainAt.trans (and_congr_right fun _ => ?_)
        rw [decide_eq_true_eq, and_comm, not_and, Option.some.injEq, eq_comm]
    -- the other two indexes are not touched
    | maxTimestamp ts => exact ⟨fun hmem => ⟨hmem, fun hclears => hclears.2⟩, And.left⟩
    | uuid uuid => exact ⟨fun hmem => ⟨hmem, fun hclears => hclears.2⟩, And.left⟩

/-- An addition indexes its hash, after its uuid is handled. -/
theorem mem_hashesAt_addBundle (p : BundlePoolInner) (bundle : Bundle) (key : IndexKey)
    (hash : B256) :
    hash ∈ (p.addBundle bundle).2.hashesAt key ↔
      hash ∈ (p.replaced bundle).hashesAt key ∨ hash = bundle.hash ∧ bundle.Indexes key := by
  unfold addBundle hashesAt Bundle.Indexes
  cases hmin : bundle.minTimestamp <;> cases hmax : bundle.maxTimestamp <;> cases key <;>
    simp [insertBundle, indexBlockNumber, indexMinTs, indexMaxTs, Index.mem_get_insert, and_comm,
      eq_comm]

/-- A prune takes the hashes it removes out of every index. -/
theorem mem_hashesAt_prune (p : BundlePoolInner) (blockNumber timestamp : UInt64)
    (key : IndexKey) (hash : B256) :
    hash ∈ (p.prune blockNumber timestamp).2.hashesAt key ↔
      hash ∈ p.hashesAt key ∧ hash ∉ p.prunableHashes blockNumber timestamp := by
  cases key <;>
  · show hash ∈ (Index.retainAll _ _).get _ ↔ _
    rw [Index.get_retainAll, List.mem_filter]
    simp [hashesAt]

/-- Handling the uuid of a new bundle cancels what the uuid is indexed at, or indexes it. -/
theorem replaced_cases (p : BundlePoolInner) (bundle : Bundle) :
    bundle.replacementUuid = none ∧ p.replaced bundle = p ∨
    ∃ uuid, bundle.replacementUuid = some uuid ∧
      ((∃ hash, p.findByUuid uuid = some hash ∧
          p.replaced bundle = PoolOp.apply p (.cancel hash)) ∨
        p.findByUuid uuid = none ∧
          p.replaced bundle = { p with uuidIndex := p.uuidIndex.insert uuid bundle.hash }) := by
  unfold replaced
  cases huuid : bundle.replacementUuid with
  | none => exact .inl ⟨rfl, rfl⟩
  | some uuid =>
    refine .inr ⟨uuid, rfl, ?_⟩
    unfold handleReplacementUuid
    cases hfind : p.findByUuid uuid with
    | none => exact .inr ⟨rfl, by simp only [hfind]⟩
    | some hash =>
      refine .inl ⟨hash, rfl, ?_⟩
      simp only [PoolOp.apply, hfind]
      cases p.cancelBundle hash <;> rfl

end BundlePoolInner

open BundlePoolInner

/-! ## No index entry dangles -/

/-- Every hash in an index is a key of the bundles map. -/
def NoDangling (p : BundlePoolInner) : Prop :=
  ∀ key hash, hash ∈ p.hashesAt key → hash ∈ p.bundles

/-- The hash is indexed, if it is stored, under keys a cancellation clears only. -/
def ClearedByCancel (p : BundlePoolInner) (hash : B256) : Prop :=
  ∀ b, p.bundles.lookup hash = some b → ∀ key, hash ∈ p.hashesAt key → b.Clears key

/-- A cancellation clears all keys of what it takes out; an addition finds its uuid
unindexed, or indexed first at its own hash. -/
def LeavesNoTrace (p : BundlePoolInner) : PoolOp → Prop
  | .add bundle => ∀ uuid, bundle.replacementUuid = some uuid →
      ∀ hash, p.findByUuid uuid = some hash → hash = bundle.hash
  | .cancel hash => ClearedByCancel p hash
  | .prune _ _ => True

theorem noDangling_new : NoDangling .new := by
  intro key hash hmem
  cases key <;> cases hmem

theorem mem_bundles_addBundle (p : BundlePoolInner) (bundle : Bundle) (hash : B256) :
    hash ∈ (p.addBundle bundle).2.bundles ↔
      hash = bundle.hash ∨ hash ∈ (p.replaced bundle).bundles := by
  have hinsert : (p.addBundle bundle).2.bundles
      = (p.replaced bundle).bundles.insert bundle.hash bundle := by
    unfold addBundle
    cases bundle.minTimestamp <;> cases bundle.maxTimestamp <;> rfl
  rw [hinsert, AList.mem_insert]

/-- A cancellation leaves every hash but its own where it was. -/
theorem NoDangling.cancel_ne {p p' : BundlePoolInner} {hash : B256} (h : NoDangling p)
    (hcancel : p.cancelBundle hash = .ok p') {key : IndexKey} {hash' : B256}
    (hmem : hash' ∈ p'.hashesAt key) (hne : hash' ≠ hash) : hash' ∈ p'.bundles := by
  obtain ⟨b, hlookup, hbundles, hiff⟩ := mem_hashesAt_cancelBundle hcancel
  rw [hbundles, AList.mem_erase]
  exact ⟨hne, h key hash' ((hiff key hash').mp hmem).1⟩

theorem noDangling_cancel {p : BundlePoolInner} (h : NoDangling p) (hash : B256) :
    NoDangling (PoolOp.apply p (.cancel hash)) ↔ ClearedByCancel p hash := by
  cases hcancel : p.cancelBundle hash with
  | error e =>
    simp only [PoolOp.apply, hcancel]
    refine iff_of_true h fun b hlookup => ?_
    unfold cancelBundle at hcancel
    rw [hlookup] at hcancel
    cases hcancel
  | ok p' =>
    simp only [PoolOp.apply, hcancel]
    obtain ⟨b, hlookup, hbundles, hiff⟩ := mem_hashesAt_cancelBundle hcancel
    constructor
    · -- what was indexed elsewhere still is, and the hash is no longer stored
      intro hafter b' hlookup' key hmem
      cases Option.some.inj (hlookup'.symm.trans hlookup)
      by_contra hkept
      have hleft : hash ∈ p'.hashesAt key := (hiff key hash).mpr ⟨hmem, fun hc => hkept hc.2⟩
      have hstored := hafter key hash hleft
      rw [hbundles, AList.mem_erase] at hstored
      exact hstored.1 rfl
    · intro hcleared key hash' hmem
      refine h.cancel_ne hcancel hmem ?_
      intro heq
      subst heq
      obtain ⟨hbefore, hkept⟩ := (hiff key hash').mp hmem
      exact hkept ⟨rfl, hcleared b hlookup key hbefore⟩

/-- After an addition its own hash is stored; what matters is what the handling of
its uuid left of the others. -/
theorem noDangling_addBundle (p : BundlePoolInner) (bundle : Bundle) :
    NoDangling (p.addBundle bundle).2 ↔
      ∀ key hash, hash ∈ (p.replaced bundle).hashesAt key → hash ≠ bundle.hash →
        hash ∈ (p.replaced bundle).bundles := by
  constructor
  · intro h key hash hmem hne
    have hstored := h key hash ((p.mem_hashesAt_addBundle bundle key hash).mpr (.inl hmem))
    rcases (mem_bundles_addBundle p bundle hash).mp hstored with heq | hkept
    · exact absurd heq hne
    · exact hkept
  · intro h key hash hmem
    refine (mem_bundles_addBundle p bundle hash).mpr ?_
    by_cases heq : hash = bundle.hash
    · exact .inl heq
    · rcases (p.mem_hashesAt_addBundle bundle key hash).mp hmem with hold | ⟨hnew, _⟩
      · exact .inr (h key hash hold heq)
      · exact absurd hnew heq

theorem cancelBundle_of_mem {p : BundlePoolInner} {hash : B256} (h : hash ∈ p.bundles) :
    ∃ p', p.cancelBundle hash = .ok p' := by
  obtain ⟨b, hlookup⟩ := Option.isSome_iff_exists.mp (AList.lookup_isSome.mpr h)
  unfold cancelBundle
  rw [hlookup]
  exact ⟨_, rfl⟩

/-- A cancellation that stands for a replacement: the hash it cancels is still indexed by
its uuid, so it has to be the one that is added. -/
theorem noDangling_replacing {p : BundlePoolInner} (h : NoDangling p) {uuid : Uuid} {hash : B256}
    (hfind : p.findByUuid uuid = some hash) (added : B256) :
    (∀ key hash', hash' ∈ (PoolOp.apply p (.cancel hash)).hashesAt key → hash' ≠ added →
        hash' ∈ (PoolOp.apply p (.cancel hash)).bundles) ↔ hash = added := by
  have hindexed := mem_of_findByUuid hfind
  obtain ⟨p', hcancel⟩ := cancelBundle_of_mem (h _ hash hindexed)
  obtain ⟨_, _, hbundles, hiff⟩ := mem_hashesAt_cancelBundle hcancel
  simp only [PoolOp.apply, hcancel]
  constructor
  · intro hafter
    by_contra hne
    have hstored := hafter (.uuid uuid) hash
      ((hiff _ hash).mpr ⟨hindexed, fun hc => hc.2⟩) hne
    rw [hbundles, AList.mem_erase] at hstored
    exact hstored.1 rfl
  · intro hown key hash' hmem hne
    rw [← hown] at hne
    exact h.cancel_ne hcancel hmem hne

theorem noDangling_add {p : BundlePoolInner} (h : NoDangling p) (bundle : Bundle) :
    NoDangling (p.addBundle bundle).2 ↔ LeavesNoTrace p (.add bundle) := by
  rw [noDangling_addBundle]
  rcases p.replaced_cases bundle with
    ⟨huuid, heq⟩ | ⟨uuid, huuid, ⟨hash, hfind, heq⟩ | ⟨hfind, heq⟩⟩
  · rw [heq]
    refine iff_of_true (fun key hash hmem _ => h key hash hmem) ?_
    intro uuid hu
    rw [huuid] at hu
    cases hu
  · rw [heq, noDangling_replacing h hfind]
    constructor
    · intro hown uuid' hu hash' hfind'
      cases Option.some.inj (huuid.symm.trans hu)
      cases Option.some.inj (hfind.symm.trans hfind')
      exact hown
    · exact fun hown => hown uuid huuid hash hfind
  · rw [heq]
    constructor
    · intro _ uuid' hu hash hfind'
      cases Option.some.inj (huuid.symm.trans hu)
      rw [hfind] at hfind'
      cases hfind'
    · intro _ key hash hmem hne
      show hash ∈ p.bundles
      cases key with
      | blockNumber n => exact h (.blockNumber n) hash hmem
      | minTimestamp ts => exact h (.minTimestamp ts) hash hmem
      | maxTimestamp ts => exact h (.maxTimestamp ts) hash hmem
      | uuid uuid' =>
        rcases Index.mem_get_insert.mp hmem with hold | ⟨_, hnew⟩
        · exact h (.uuid uuid') hash hold
        · exact absurd hnew hne

/-- A prune takes out of the indexes exactly what it takes out of the map. -/
theorem noDangling_prune {p : BundlePoolInner} (h : NoDangling p) (blockNumber timestamp : UInt64) :
    NoDangling (p.prune blockNumber timestamp).2 := by
  intro key hash hmem
  obtain ⟨hbefore, hspared⟩ := (p.mem_hashesAt_prune blockNumber timestamp key hash).mp hmem
  obtain ⟨b, hlookup⟩ := Option.isSome_iff_exists.mp
    (AList.lookup_isSome.mpr (h key hash hbefore))
  have hkept : b.isPrunable blockNumber timestamp = false := by
    by_contra hprunable
    rw [Bool.not_eq_false] at hprunable
    exact hspared ((p.mem_prunableHashes blockNumber timestamp hash).mpr ⟨b, hlookup, hprunable⟩)
  refine AList.lookup_isSome.mp (Option.isSome_iff_exists.mpr ⟨b, ?_⟩)
  exact Lib.Table.lookup_retain_eq_some.mpr ⟨hlookup, by simp [hkept]⟩

/-- **One step.** From a pool without dangling entries, a step leads to one if and only if
it leaves no trace. -/
theorem noDangling_step {p : BundlePoolInner} (h : NoDangling p) (op : PoolOp) :
    NoDangling (op.apply p) ↔ LeavesNoTrace p op := by
  cases op with
  | add bundle => exact noDangling_add h bundle
  | cancel hash => exact noDangling_cancel h hash
  | prune blockNumber timestamp => exact iff_of_true (noDangling_prune h blockNumber timestamp) trivial

/-- **When no index entry dangles.** In every state of a history every indexed hash is
stored, if and only if every step of it leaves no trace. -/
theorem no_dangling_iff (ops : List PoolOp) :
    (∀ pre post, ops = pre ++ post → NoDangling (run PoolOp.apply .new pre)) ↔
      Along PoolOp.apply LeavesNoTrace .new ops :=
  forall_prefix_iff_along (I := fun _ p => NoDangling p) noDangling_new
    (fun _ op h => noDangling_step h op) ops

/-- A bundle for block 11 until time 50. -/
def expiringBundle : Bundle where
  hash := 1
  txs := []
  blockNumber := 11
  minTimestamp := none
  maxTimestamp := some 50
  revertingTxHashes := []
  replacementUuid := none
  refund := none

/-- Added and cancelled, it is no longer stored and still indexed at its max timestamp. -/
theorem cancelled_stays_indexed :
    (1 : B256) ∈ (run PoolOp.apply .new [.add expiringBundle, .cancel 1]).maxTimestampIndex.get 50 ∧
    ¬ NoDangling (run PoolOp.apply .new [.add expiringBundle, .cancel 1]) := by
  have hindexed : (1 : B256) ∈
      (run PoolOp.apply .new [.add expiringBundle, .cancel 1]).maxTimestampIndex.get 50 := by
    decide
  refine ⟨hindexed, fun h => ?_⟩
  have hstored := h (.maxTimestamp 50) 1 hindexed
  exact absurd hstored (by decide)

end BlockBuilder
