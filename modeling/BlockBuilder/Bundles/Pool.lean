import BlockBuilder.Bundles.Inner

/-!
# The bundle pool (`crates/bundles/src/pool.rs`)

`BundlePoolInner` behind a read-write lock. Every method asks for the lock with
a timeout of 100 ms and answers nothing when it does not get it in time; here
`acquired` says whether it did.
-/

namespace BlockBuilder

structure BundlePool where
  inner : BundlePoolInner

namespace BundlePool

def new : BundlePool := ⟨.new⟩

def addBundle (pool : BundlePool) (acquired : Bool) (bundle : Bundle) : Option B256 × BundlePool :=
  if acquired then (some (pool.inner.addBundle bundle).1, ⟨(pool.inner.addBundle bundle).2⟩)
  else (none, pool)

def len (pool : BundlePool) (acquired : Bool) : Option Nat :=
  if acquired then some pool.inner.len else none

def isEmpty (pool : BundlePool) (acquired : Bool) : Option Bool :=
  if acquired then some pool.inner.isEmpty else none

/-- The bundles valid for a block number and a timestamp. -/
def bundles (pool : BundlePool) (acquired : Bool) (blockNumber timestamp : UInt64) :
    Option (List Bundle) :=
  if acquired then some (pool.inner.bundlesAt blockNumber timestamp) else none

def cancelBundle (pool : BundlePool) (acquired : Bool) (hash : B256) :
    Option (Except PoolError Unit) × BundlePool :=
  if acquired then
    match pool.inner.cancelBundle hash with
    | .ok inner => (some (.ok ()), ⟨inner⟩)
    | .error err => (some (.error err), pool)
  else (none, pool)

def prune (pool : BundlePool) (acquired : Bool) (blockNumber timestamp : UInt64) : BundlePool :=
  if acquired then ⟨(pool.inner.prune blockNumber timestamp).2⟩ else pool

end BundlePool

end BlockBuilder
