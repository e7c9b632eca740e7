import BlockBuilder.Bundles.Replacement

/-!
# What a query returns (`crates/bundles/src/inner.rs`)

A query walks the hashes that the block-number index has for a block, and looks
each up. Every live bundle is indexed at its block, whatever the history
(`indexed_run`), so that a query finds it, and what it finds is checked again.

But an addition appends its hash to the index even when it is there already. A
bundle that is added again for its block, without having been cancelled or
pruned, is then returned twice. `queries_exact_iff` says that nothing else goes
wrong.
-/

namespace BlockBuilder

open Lib (Index Along run run_invariant forall_prefix_iff_along)

/-! ## Every live bundle is found -/

/-- A prune does not remove the hash of a bundle it keeps. -/
theorem BundlePoolInner.not_mem_prunableHashes {p : BundlePoolInner} {b : Bundle}
    {blockNumber timestamp : UInt64} (hlive : p.Live b)
    (hkept : b.isPrunable blockNumber timestamp = false) :
    b.hash ∉ p.prunableHashes blockNumber timestamp := by
  intro hmem
  obtain ⟨b', hlookup, hprunable⟩ := (p.mem_prunableHashes blockNumber timestamp b.hash).mp hmem
  cases Option.some.inj (Eq.trans (Eq.symm hlive) hlookup)
  rw [hkept] at hprunable
  cases hprunable

/-- Every live bundle is indexed at its block. -/
def Indexed (p : BundlePoolInner) : Prop :=
  ∀ b, p.Live b → b.hash ∈ p.blockNumberIndex.get b.blockNumber

theorem indexed_step (p : BundlePoolInner) (op : PoolOp) (h : Indexed p) :
    Indexed (op.apply p) := by
  intro b hb
  cases op with
  | add bundle =>
    refine (p.blockNumberIndex_addBundle bundle b.hash b.blockNumber).mpr ?_
    rcases (p.live_addBundle bundle b).mp hb with rfl | ⟨_, hkept⟩
    · exact .inr ⟨rfl, rfl⟩
    · obtain ⟨hlive, hfind⟩ := (p.live_replaced bundle b).mp hkept
      exact .inl ((BundlePoolInner.blockNumberIndex_replaced hfind b.blockNumber).mpr (h b hlive))
  | cancel hash =>
    have hlive := PoolOp.live_cancel hb
    cases hcancel : p.cancelBundle hash with
    | error e =>
      simp only [PoolOp.apply, hcancel]
      exact h b hlive
    | ok p' =>
      simp only [PoolOp.apply, hcancel] at hb ⊢
      have hne := ((BundlePoolInner.live_cancelBundle hcancel b).mp hb).1
      exact (BundlePoolInner.blockNumberIndex_cancelBundle hcancel hne b.blockNumber).mpr
        (h b hlive)
  | prune blockNumber timestamp =>
    obtain ⟨hlive, hkept⟩ := (p.live_prune blockNumber timestamp b).mp hb
    exact (p.blockNumberIndex_prune blockNumber timestamp b.hash b.blockNumber).mpr
      ⟨h b hlive, BundlePoolInner.not_mem_prunableHashes hlive hkept⟩

/-- **Every reachable pool indexes its bundles.** -/
theorem indexed_run (ops : List PoolOp) : Indexed (run PoolOp.apply .new ops) :=
  run_invariant indexed_step ops fun b hb => absurd hb (BundlePoolInner.not_live_new b)

/-! ## How often a bundle is found -/

/-- There is a time in the window of the bundle. -/
def Bundle.opens (b : Bundle) : Bool :=
  match b.minTimestamp, b.maxTimestamp with
  | some minTs, some maxTs => minTs ≤ maxTs
  | _, _ => true

theorem Bundle.opens_iff (b : Bundle) : b.opens = true ↔ ∃ ts, b.isWithinTimestamp ts = true := by
  unfold opens isWithinTimestamp
  cases b.minTimestamp with
  | none =>
    cases b.maxTimestamp with
    | none => simp
    | some maxTs => simpa using ⟨maxTs, UInt64.le_refl maxTs⟩
  | some minTs =>
    cases b.maxTimestamp with
    | none => simpa using ⟨minTs, UInt64.le_refl minTs⟩
    | some maxTs =>
      simp only [Option.all_some, Bool.and_eq_true, decide_eq_true_eq]
      exact ⟨fun h => ⟨minTs, UInt64.le_refl minTs, h⟩, fun ⟨_, hmin, hmax⟩ =>
        UInt64.le_trans hmin hmax⟩

namespace BundlePoolInner

/-- How often a hash is indexed at a block. -/
def timesIndexed (p : BundlePoolInner) (n : UInt64) (hash : B256) : Nat :=
  (p.blockNumberIndex.get n).count hash

theorem timesIndexed_cancelBundle {p p' : BundlePoolInner} {hash hash' : B256}
    (h : p.cancelBundle hash = .ok p') (hne : hash' ≠ hash) (n : UInt64) :
    p'.timesIndexed n hash' = p.timesIndexed n hash' := by
  unfold cancelBundle at h
  split at h
  next => cases h
  next bundle _ =>
    cases h
    show ((p.blockNumberIndex.retainAt bundle.blockNumber (· ≠ hash)).get n).count hash' = _
    rw [Index.get_retainAt]
    split
    next => exact List.count_filter (by simpa using hne)
    next => rfl

theorem timesIndexed_replaced {p : BundlePoolInner} {bundle : Bundle} {hash : B256}
    (h : ∀ uuid, bundle.replacementUuid = some uuid → p.findByUuid uuid ≠ some hash)
    (n : UInt64) : (p.replaced bundle).timesIndexed n hash = p.timesIndexed n hash := by
  unfold replaced
  cases huuid : bundle.replacementUuid with
  | none => rfl
  | some uuid =>
    have hfind := h uuid huuid
    simp only [handleReplacementUuid]
    cases hf : p.findByUuid uuid with
    | none => rfl
    | some hash' =>
      have hne : hash ≠ hash' := by
        intro heq
        rw [heq] at hfind
        exact hfind hf
      simp only
      cases hcancel : p.cancelBundle hash' with
      | ok p' => exact timesIndexed_cancelBundle hcancel hne n
      | error e => rfl

/-- An addition indexes its hash once more, and no other. -/
theorem timesIndexed_addBundle (p : BundlePoolInner) (bundle : Bundle) (hash : B256) (n : UInt64) :
    (p.addBundle bundle).2.timesIndexed n hash =
      (p.replaced bundle).timesIndexed n hash +
        if n = bundle.blockNumber ∧ hash = bundle.hash then 1 else 0 := by
  have hindex : (p.addBundle bundle).2.blockNumberIndex
      = (p.replaced bundle).blockNumberIndex.insert bundle.blockNumber bundle.hash := by
    unfold addBundle
    cases bundle.minTimestamp <;> cases bundle.maxTimestamp <;> rfl
  unfold timesIndexed
  rw [hindex, Index.get_insert]
  by_cases hn : n = bundle.blockNumber
  · rw [if_pos hn, List.count_append, List.count_singleton]
    by_cases hhash : hash = bundle.hash
    · simp [hn, hhash]
    · simp [hhash, Ne.symm hhash]
  · simp [hn]

theorem timesIndexed_prune {p : BundlePoolInner} {blockNumber timestamp : UInt64} {hash : B256}
    (h : hash ∉ p.prunableHashes blockNumber timestamp) (n : UInt64) :
    (p.prune blockNumber timestamp).2.timesIndexed n hash = p.timesIndexed n hash := by
  show ((p.blockNumberIndex.retainAll _).get n).count hash = _
  rw [Index.get_retainAll]
  exact List.count_filter (by simpa using h)

/-- **A query returns a bundle as often as it is indexed.** -/
theorem count_bundlesAt {p : BundlePoolInner} {b : Bundle} {ts : UInt64} (hlive : p.Live b)
    (hwithin : b.isWithinTimestamp ts = true) :
    (p.bundlesAt b.blockNumber ts).count b = p.timesIndexed b.blockNumber b.hash := by
  unfold bundlesAt timesIndexed
  rw [List.count_filterMap]
  refine List.countP_congr fun hash _ => ?_
  have hmem : p.getByBlockAndTs hash b.blockNumber ts = some b ↔ hash = b.hash := by
    unfold getByBlockAndTs
    rw [Option.filter_eq_some_iff]
    constructor
    · intro h
      exact (p.hash_of_lookup h.1).symm
    · intro h
      rw [h]
      exact ⟨hlive, by simp [hwithin, Bundle.isWithinBlockNumber]⟩
  rw [beq_iff_eq, beq_iff_eq]
  exact hmem

end BundlePoolInner

/-! ## Exact queries -/

/-- A query returns each bundle that is stored, for the block and in its window, once,
and nothing else. -/
structure ExactAt (p : BundlePoolInner) (n ts : UInt64) : Prop where
  once : ∀ b, p.Live b → b.blockNumber = n → b.isWithinTimestamp ts = true →
    (p.bundlesAt n ts).count b = 1
  only : ∀ b ∈ p.bundlesAt n ts, p.Live b ∧ b.blockNumber = n ∧ b.isWithinTimestamp ts = true

/-- An addition finds its hash out of the index, once the bundle of its uuid is
cancelled; a bundle whose window is empty is never returned. -/
def AddsOnce (p : BundlePoolInner) : PoolOp → Prop
  | .add bundle => bundle.opens = true →
      bundle.hash ∉ (p.replaced bundle).blockNumberIndex.get bundle.blockNumber
  | _ => True

instance (p : BundlePoolInner) (op : PoolOp) : Decidable (AddsOnce p op) := by
  unfold AddsOnce
  cases op <;> infer_instance

/-- Bundles that can be returned are indexed once. -/
def IndexedOnce (p : BundlePoolInner) : Prop :=
  ∀ b, p.Live b → b.opens = true → p.timesIndexed b.blockNumber b.hash = 1

theorem exactAt_iff (p : BundlePoolInner) : (∀ n ts, ExactAt p n ts) ↔ IndexedOnce p := by
  constructor
  · intro h b hlive hopens
    obtain ⟨ts, hwithin⟩ := b.opens_iff.mp hopens
    rw [← BundlePoolInner.count_bundlesAt hlive hwithin]
    exact (h b.blockNumber ts).once b hlive rfl hwithin
  · intro h n ts
    constructor
    · intro b hlive hblock hwithin
      rw [← hblock, BundlePoolInner.count_bundlesAt hlive hwithin]
      exact h b hlive (b.opens_iff.mpr ⟨ts, hwithin⟩)
    · intro b hmem
      obtain ⟨hlive, -, hwithin, hblock⟩ := BundlePoolInner.mem_bundlesAt.mp hmem
      exact ⟨hlive, hblock.symm, hwithin⟩

/-- **One operation keeps bundles indexed once if and only if it adds once.** -/
theorem indexedOnce_step {p : BundlePoolInner} (h : IndexedOnce p) (op : PoolOp) :
    IndexedOnce (op.apply p) ↔ AddsOnce p op := by
  cases op with
  | add bundle =>
    have hold : ∀ b, b.hash ≠ bundle.hash → (p.replaced bundle).Live b → b.opens = true →
        (p.addBundle bundle).2.timesIndexed b.blockNumber b.hash = 1 := by
      intro b hne hkept hopens
      obtain ⟨hlive, hfind⟩ := (p.live_replaced bundle b).mp hkept
      rw [p.timesIndexed_addBundle, if_neg fun heq => hne heq.2, Nat.add_zero,
        BundlePoolInner.timesIndexed_replaced hfind]
      exact h b hlive hopens
    have hnew : (p.addBundle bundle).2.timesIndexed bundle.blockNumber bundle.hash = 1 ↔
        bundle.hash ∉ (p.replaced bundle).blockNumberIndex.get bundle.blockNumber := by
      rw [p.timesIndexed_addBundle, if_pos ⟨rfl, rfl⟩, ← List.count_eq_zero]
      exact Nat.succ_inj
    constructor
    · intro hafter hopens
      exact hnew.mp (hafter bundle ((p.live_addBundle bundle bundle).mpr (.inl rfl)) hopens)
    · intro hadds b hlive hopens
      rcases (p.live_addBundle bundle b).mp hlive with rfl | ⟨hne, hkept⟩
      · exact hnew.mpr (hadds hopens)
      · exact hold b hne hkept hopens
  | cancel hash =>
    refine iff_of_true (fun b hlive hopens => ?_) trivial
    have hbefore := PoolOp.live_cancel hlive
    cases hcancel : p.cancelBundle hash with
    | error e =>
      simp only [PoolOp.apply, hcancel]
      exact h b hbefore hopens
    | ok p' =>
      simp only [PoolOp.apply, hcancel] at hlive ⊢
      have hne := ((BundlePoolInner.live_cancelBundle hcancel b).mp hlive).1
      rw [BundlePoolInner.timesIndexed_cancelBundle hcancel hne]
      exact h b hbefore hopens
  | prune blockNumber timestamp =>
    refine iff_of_true (fun b hlive hopens => ?_) trivial
    obtain ⟨hbefore, hkept⟩ := (p.live_prune blockNumber timestamp b).mp hlive
    have hspared := BundlePoolInner.not_mem_prunableHashes hbefore hkept
    show (p.prune blockNumber timestamp).2.timesIndexed b.blockNumber b.hash = 1
    rw [BundlePoolInner.timesIndexed_prune hspared]
    exact h b hbefore hopens

/-- **When queries are exact.** Every query after every part of a history returns the
bundles stored for its block and time, each once, if and only if no addition in it
finds its hash indexed at its block. -/
theorem queries_exact_iff (ops : List PoolOp) :
    (∀ pre post, ops = pre ++ post → ∀ n ts, ExactAt (run PoolOp.apply .new pre) n ts) ↔
      Along PoolOp.apply AddsOnce .new ops := by
  simp only [exactAt_iff]
  refine forall_prefix_iff_along (I := fun _ p => IndexedOnce p) ?_ ?_ ops
  · intro b hlive
    exact absurd hlive (BundlePoolInner.not_live_new b)
  · intro pre op h
    exact indexedOnce_step h op

/-- A bundle for block 11 that is always eligible. -/
def plainBundle : Bundle where
  hash := 1
  txs := []
  blockNumber := 11
  minTimestamp := none
  maxTimestamp := none
  revertingTxHashes := []
  replacementUuid := none
  refund := none

/-- The same bundle added twice is returned twice. -/
theorem added_twice_returned_twice :
    (run PoolOp.apply .new [.add plainBundle, .add plainBundle]).bundlesAt 11 112 =
      [plainBundle, plainBundle] ∧
    ¬ ExactAt (run PoolOp.apply .new [.add plainBundle, .add plainBundle]) 11 112 := by
  have htwice : (run PoolOp.apply .new [.add plainBundle, .add plainBundle]).bundlesAt 11 112 =
      [plainBundle, plainBundle] := by decide
  refine ⟨htwice, fun hexact => ?_⟩
  have hlive : (run PoolOp.apply .new [.add plainBundle, .add plainBundle]).Live plainBundle := by
    unfold BundlePoolInner.Live
    decide
  have honce := hexact.once plainBundle hlive rfl (by decide)
  rw [htwice] at honce
  exact absurd honce (by decide)

end BlockBuilder
