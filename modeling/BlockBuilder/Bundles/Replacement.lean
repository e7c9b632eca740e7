import BlockBuilder.Bundles.Inner
import BlockBuilder.Lib.Run

/-!
# Replacement by uuid

A sender replaces a bundle by sending another with the same `replacementUuid`,
so in every state the pool should hold at most one bundle of a uuid, the one
added last. `UuidsCurrent` is that statement about a history and the state it
leads to.

The pool finds the bundle to replace through the first hash of the uuid index,
which it writes at the first addition only. `uuidsCurrent_iff` says exactly
which histories keep the promise: those in which each addition finds every live
bundle of its uuid under its own hash or at that first hash. The third
addition of a uuid under a third hash breaks it (`third_replacement_kept`).
-/

namespace BlockBuilder

open Lib (run Along forall_prefix_iff_along)

/-- The operations of the pool that change it, having got the lock. -/
inductive PoolOp where
  | add (bundle : Bundle)
  | cancel (hash : B256)
  | prune (blockNumber timestamp : UInt64)
  deriving DecidableEq, Repr

namespace PoolOp

def apply (p : BundlePoolInner) : PoolOp → BundlePoolInner
  | add bundle => (p.addBundle bundle).2
  | cancel hash =>
    match p.cancelBundle hash with
    | .ok p' => p'
    | .error _ => p
  | prune blockNumber timestamp => (p.prune blockNumber timestamp).2

/-- The bundle of a uuid that a history added last, given the one before it. -/
def lastAdded (uuid : Uuid) : Option Bundle → List PoolOp → Option Bundle
  | last, [] => last
  | last, add bundle :: ops =>
    lastAdded uuid (if bundle.replacementUuid = some uuid then some bundle else last) ops
  | last, _ :: ops => lastAdded uuid last ops

/-- The history's last word on a uuid. -/
theorem lastAdded_concat (uuid : Uuid) (op : PoolOp) : ∀ (ops : List PoolOp) (last : Option Bundle),
    lastAdded uuid last (ops ++ [op]) = lastAdded uuid (lastAdded uuid last ops) [op]
  | [], _ => rfl
  | add _ :: ops, _ => lastAdded_concat uuid op ops _
  | cancel _ :: ops, last => lastAdded_concat uuid op ops last
  | prune _ _ :: ops, last => lastAdded_concat uuid op ops last

theorem live_cancel {p : BundlePoolInner} {hash : B256} {b : Bundle}
    (h : (apply p (cancel hash)).Live b) : p.Live b := by
  cases hcancel : p.cancelBundle hash with
  | ok p' =>
    simp only [apply, hcancel] at h
    exact ((BundlePoolInner.live_cancelBundle hcancel b).mp h).2
  | error e =>
    simp only [apply, hcancel] at h
    exact h

end PoolOp

open PoolOp

/-- At most one live bundle of a uuid, and it is the one added last. -/
structure UuidsCurrent (ops : List PoolOp) (p : BundlePoolInner) : Prop where
  unique : ∀ a b, p.Live a → p.Live b → ∀ uuid, a.replacementUuid = some uuid →
    b.replacementUuid = some uuid → a = b
  recent : ∀ b, p.Live b → ∀ uuid, b.replacementUuid = some uuid →
    lastAdded uuid none ops = some b

/-- An addition finds every live bundle of its uuid: under its own hash, where
it overwrites it, or where the uuid is indexed, where it cancels it. -/
def FindsReplaced (p : BundlePoolInner) : PoolOp → Prop
  | .add bundle => ∀ uuid, bundle.replacementUuid = some uuid → ∀ a, p.Live a →
      a.replacementUuid = some uuid → a.hash = bundle.hash ∨ p.findByUuid uuid = some a.hash
  | _ => True

/-- The last additions alone make a bundle of a uuid unique. -/
theorem UuidsCurrent.of_recent {ops : List PoolOp} {p : BundlePoolInner}
    (h : ∀ b, p.Live b → ∀ uuid, b.replacementUuid = some uuid →
      lastAdded uuid none ops = some b) : UuidsCurrent ops p where
  unique := by
    intro a b ha hb uuid hua hub
    have hlast := h a ha uuid hua
    rw [h b hb uuid hub] at hlast
    exact (Option.some.inj hlast).symm
  recent := h

theorem uuidsCurrent_new : UuidsCurrent [] .new :=
  .of_recent fun b hb => absurd hb (BundlePoolInner.not_live_new b)

/-- Removing bundles keeps what is left current. -/
theorem UuidsCurrent.mono {ops ops' : List PoolOp} {p p' : BundlePoolInner}
    (h : UuidsCurrent ops p) (hlive : ∀ b, p'.Live b → p.Live b)
    (hlast : ∀ uuid, lastAdded uuid none ops' = lastAdded uuid none ops) :
    UuidsCurrent ops' p' :=
  .of_recent fun b hb uuid hu => (hlast uuid).trans (h.recent b (hlive b hb) uuid hu)

/-- **One step.** From a current state, a step leads to a current state if and
only if it finds what it replaces. -/
theorem uuidsCurrent_step {ops : List PoolOp} {p : BundlePoolInner} (h : UuidsCurrent ops p)
    (op : PoolOp) : UuidsCurrent (ops ++ [op]) (op.apply p) ↔ FindsReplaced p op := by
  cases op with
  | cancel hash =>
    refine ⟨fun _ => trivial, fun _ => ?_⟩
    exact h.mono (fun b hb => live_cancel hb) fun uuid => lastAdded_concat uuid _ ops none
  | prune blockNumber timestamp =>
    refine ⟨fun _ => trivial, fun _ => ?_⟩
    exact h.mono (fun b hb => ((p.live_prune blockNumber timestamp b).mp hb).1)
      fun uuid => lastAdded_concat uuid _ ops none
  | add bundle =>
    constructor
    · -- a bundle it missed stays live beside the new one
      intro hafter uuid hu a ha hua
      by_contra hmissed
      obtain ⟨hhash, hfind⟩ := not_or.mp hmissed
      have hnew : ((PoolOp.add bundle).apply p).Live bundle :=
        (p.live_addBundle bundle bundle).mpr (.inl rfl)
      have hold : ((PoolOp.add bundle).apply p).Live a := by
        refine (p.live_addBundle bundle a).mpr (.inr ⟨hhash, ?_⟩)
        refine (p.live_replaced bundle a).mpr ⟨ha, ?_⟩
        intro uuid' hu'
        rw [hu] at hu'
        cases hu'
        exact hfind
      have heq := hafter.unique a bundle hold hnew uuid hua hu
      exact hhash (congrArg Bundle.hash heq)
    · intro hfinds
      refine .of_recent fun b hb uuid hu => ?_
      rw [lastAdded_concat]
      show (if bundle.replacementUuid = some uuid then some bundle
        else lastAdded uuid none ops) = some b
      rcases (p.live_addBundle bundle b).mp hb with rfl | ⟨hhash, hkept⟩
      · rw [if_pos hu]
      · obtain ⟨hlive, hfind⟩ := (p.live_replaced bundle b).mp hkept
        -- the new bundle has another uuid, or it would have found this one
        have hne : bundle.replacementUuid ≠ some uuid := by
          intro hub
          rcases hfinds uuid hub b hlive hu with hh | hf
          · exact hhash hh
          · exact hfind uuid hub hf
        rw [if_neg hne]
        exact h.recent b hlive uuid hu

/-- **Which histories keep at most one bundle of a uuid, the last one added.** -/
theorem uuidsCurrent_iff (ops : List PoolOp) :
    (∀ pre post, ops = pre ++ post → UuidsCurrent pre (run apply .new pre)) ↔
      Along apply FindsReplaced .new ops :=
  forall_prefix_iff_along uuidsCurrent_new (fun _ op h => uuidsCurrent_step h op) ops

/-- A bundle of uuid 7 under a given hash. -/
def replacementOf (hash : B256) : Bundle where
  hash := hash
  txs := []
  blockNumber := 1
  minTimestamp := none
  maxTimestamp := none
  revertingTxHashes := []
  replacementUuid := some 7
  refund := none

/-- The third bundle of a uuid leaves the second one in the pool. -/
theorem third_replacement_kept :
    ¬ ∀ ops : List PoolOp, UuidsCurrent ops (run apply .new ops) := by
  intro h
  have hcurrent :=
    h [.add (replacementOf 1), .add (replacementOf 2), .add (replacementOf 3)]
  have heq := hcurrent.unique (replacementOf 2) (replacementOf 3)
    (by unfold BundlePoolInner.Live; decide) (by unfold BundlePoolInner.Live; decide) 7 rfl rfl
  exact absurd heq (by decide)

end BlockBuilder
