import BlockBuilder.Primitives.Chain

/-!
# Execution and simulation databases (`crates/payload/src/strategy/state/db.rs`)

`ExecutionDB` is revm's `State` over the parent's state provider: transitions
not yet merged, over the bundle state, over the provider. `SimulationDB` is a
`CacheDB` over an execution db, thrown away after a simulation.

What either answers is its `view`, a chain state. Every lemma here says how an
operation changes the view, and no proof about the builder looks below it:
committing to either database overlays the committed accounts on the view,
merging transitions leaves the view alone, and a fresh `State` built on the
bundle taken from another one has the other's view.

The read caches between the layers (`CachedReads`, the accounts `CacheDB` has
loaded) are transparent and left out.
-/

namespace BlockBuilder

open Lib (Store Overlay)

/-! ## Chain states, as the databases change them -/

namespace ChainState

/-- The state with the accounts of an execution committed. -/
def commit (s : ChainState) (st : EvmState) : ChainState := st.changes.onto s

/-- An account with its balance raised, created when it does not exist. -/
def credited (acct : Option Account) (amount : U128) : Account :=
  let acct := acct.getD ⟨AccountInfo.default, []⟩
  { acct with info :=
    { acct.info with balance := saturatingAdd acct.info.balance (U256.ofU128 amount) } }

/-- `increment_balances` on a chain state. -/
def incrementBalances : ChainState → List (Address × U128) → Except ProviderError ChainState
  | s, [] => .ok s
  | s, (a, amount) :: rest =>
    if amount = 0 then incrementBalances s rest
    else
      match s a with
      | .error e => .error e
      | .ok acct =>
        incrementBalances ((Overlay.single a (some (credited acct amount))).onto s) rest

/-- The balance of an account, `0` when there is none. -/
def balance (s : ChainState) (a : Address) : U256 :=
  match s a with
  | .ok (some acct) => acct.info.balance
  | _ => 0

end ChainState

/-! ## The execution db -/

structure ExecutionDB where
  /-- The parent's state provider. -/
  database : ChainState
  bundleState : BundleState
  transitionState : BundleState

namespace ExecutionDB

/-- `State::builder().with_database_ref(..).with_bundle_update().build()`. -/
def build (database : ChainState) : ExecutionDB := ⟨database, .empty, .empty⟩

/-- The same with `.with_bundle_prestate(bundle_state)`. -/
def buildWithPrestate (database : ChainState) (bundleState : BundleState) : ExecutionDB :=
  ⟨database, bundleState, .empty⟩

/-- What a reader of the database sees. -/
def view (db : ExecutionDB) : ChainState :=
  db.transitionState.onto (db.bundleState.onto db.database)

/-- Write a layer of changes into the transitions. -/
def apply (db : ExecutionDB) (changes : BundleState) : ExecutionDB :=
  { db with transitionState := changes.stack db.transitionState }

def commit (db : ExecutionDB) (st : EvmState) : ExecutionDB := db.apply st.changes

def mergeTransitions (db : ExecutionDB) : ExecutionDB :=
  { db with bundleState := db.transitionState.stack db.bundleState, transitionState := .empty }

/-- `take_bundle`; the database is dropped afterwards. -/
def takeBundle (db : ExecutionDB) : BundleState := db.bundleState

def incrementBalances : ExecutionDB → List (Address × U128) → Except ProviderError ExecutionDB
  | db, [] => .ok db
  | db, (a, amount) :: rest =>
    if amount = 0 then incrementBalances db rest
    else
      match db.view a with
      | .error e => .error e
      | .ok acct =>
        incrementBalances
          (db.apply (Overlay.single a (some (ChainState.credited acct amount)))) rest

@[simp] theorem view_build (database : ChainState) : (build database).view = database := by
  simp [build, view]

@[simp] theorem view_buildWithPrestate (database : ChainState) (bundleState : BundleState) :
    (buildWithPrestate database bundleState).view = bundleState.onto database := by
  simp [buildWithPrestate, view]

@[simp] theorem view_apply (db : ExecutionDB) (changes : BundleState) :
    (db.apply changes).view = changes.onto db.view := by
  simp [apply, view]

@[simp] theorem view_commit (db : ExecutionDB) (st : EvmState) :
    (db.commit st).view = db.view.commit st :=
  view_apply db st.changes

/-- **Handing over a bundle.** The bundle taken after merging, laid over the
same provider, is what the database showed. -/
theorem takeBundle_onto (db : ExecutionDB) :
    db.mergeTransitions.takeBundle.onto db.database = db.view := by
  simp [mergeTransitions, takeBundle, view]

@[simp] theorem database_commit (db : ExecutionDB) (st : EvmState) :
    (db.commit st).database = db.database := rfl

theorem database_incrementBalances : ∀ (incs : List (Address × U128)) {db db' : ExecutionDB},
    db.incrementBalances incs = .ok db' → db'.database = db.database
  | [], db, db', h => by
    cases h
    rfl
  | (a, amount) :: rest, db, db', h => by
    unfold incrementBalances at h
    split at h
    next => exact database_incrementBalances rest h
    next =>
      split at h
      next => cases h
      next acct _ => exact (database_incrementBalances rest h :)

/-- Incrementing balances in the database increments them in the view. -/
theorem view_incrementBalances : ∀ (incs : List (Address × U128)) (db : ExecutionDB),
    (db.incrementBalances incs).map view = db.view.incrementBalances incs
  | [], _ => rfl
  | (a, amount) :: rest, db => by
    unfold incrementBalances ChainState.incrementBalances
    split
    next => exact view_incrementBalances rest db
    next =>
      cases hread : db.view a with
      | error e => rfl
      | ok acct =>
        have ih := view_incrementBalances rest
          (db.apply (Overlay.single a (some (ChainState.credited acct amount))))
        rw [view_apply] at ih
        exact ih

end ExecutionDB

/-! ## The simulation db -/

/-- `CacheDB<ExecutionDBRef<&mut ExecutionDB>>`. -/
structure SimulationDB where
  db : ExecutionDB
  accounts : BundleState

/-- Wrap an execution db in a new cache for simulation. -/
def simulationDb (db : ExecutionDB) : SimulationDB := ⟨db, .empty⟩

namespace SimulationDB

def view (db : SimulationDB) : ChainState := db.accounts.onto db.db.view

def commit (db : SimulationDB) (st : EvmState) : SimulationDB :=
  { db with accounts := st.changes.stack db.accounts }

@[simp] theorem view_simulationDb (db : ExecutionDB) : (simulationDb db).view = db.view := by
  simp [simulationDb, view]

@[simp] theorem view_commit (db : SimulationDB) (st : EvmState) :
    (db.commit st).view = db.view.commit st := by
  simp [commit, view, ChainState.commit]

end SimulationDB

end BlockBuilder
