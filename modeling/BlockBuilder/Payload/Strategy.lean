import BlockBuilder.Bundles.Pool
import BlockBuilder.Payload.Log
import BlockBuilder.Payload.IntoBuild

/-!
# The build strategies (`strategy/{mod,empty}.rs`, `strategy/{mempool,bundle}/`)

A strategy opens an execution db on the parent's state, makes the pre-block
call and then calls `executeTransaction` and `executeBundle`: `EmptyStrat` not
at all, `MempoolStrat` for each transaction of the pool's iterator,
`BundlesStrat` first for each selected bundle and then for the pool. The
bundle state is taken afterwards, by the latter two only, and the build is
better when its value exceeds the best one's.

`tryBuild_better` is what the rest of the development needs to know: a better
build is a run of calls on a started session, each of them offered by the
transaction pool or by the bundle pool.

Mirroring notes:
- `cancelled i` is what the job's marker says at the `i`-th look.
- `buildId` is the id `BuildState::new` draws.
- Sets of transaction hashes are lists.
- `unreachable!` in the loops stands in the branch for errors of bundles, which
  `executeTransaction` does not give (`executeTransaction_error`).
- Cached reads and metrics are left out.
-/

namespace BlockBuilder

open Lib (run Reaches)

structure BuildArguments where
  client : Client
  pool : Pool
  bundlePool : BundlePool
  /-- Whether the bundle pool's lock is got in time. -/
  acquired : Bool
  buildId : BuildId
  buildConfig : BuildConfig
  cancelled : Nat → Bool
  bestBuild : Option BuildState

inductive BuildOutcome where
  | better (buildState : BuildState)
  | aborted (blockValue : U256)
  | cancelled

inductive TxExecution where
  | jobCancelled
  | execFailed
  deriving DecidableEq, Repr

/-- What the mempool loops tell the iterator after a failed execution; `none`
when they give up. -/
def mempoolErrorCalls : BuildStateExecutionError → Option (List IterCall)
  | .ofacAddressDetected _ => some [.markInvalid]
  | .maxGasExceeded => some [.markInvalid]
  | .maxBlobGasExceeded => some [.skipBlobs, .markInvalid]
  | .payloadBuilder (.evmExecutionError (.transaction (.nonceTooLow ..))) => some []
  | .payloadBuilder (.evmExecutionError (.transaction _)) => some [.markInvalid]
  | .payloadBuilder _ => none
  -- `unreachable!("Should not receive a bundle error")`
  | .builderRefundTx _ | .bundleExection _ | .bundleReverted _ => none

/-! ## Starting and finishing -/

/-- The session every strategy starts with: a fresh build state on the parent's
state, after the pre-block call. -/
def startBuild (R : Reth) (config : PayloadConfig) (args : BuildArguments) :
    Except PayloadBuilderError Session :=
  match args.client.stateAt args.buildConfig.parentBlock.hash with
  | .error err => .error err
  | .ok state =>
    let bs := BuildState.new args.buildConfig config args.buildId
    match bs.preBlockBeaconRootContractCall R (.build state) with
    | .error err => .error err
    | .ok db => .ok (bs, db)

/-- The iterator over the pool, with the attributes of the block environment. -/
def BuildArguments.bestTransactions (args : BuildArguments) : BestTransactions :=
  let env := args.buildConfig.initializedBlockEnv
  args.pool.bestTransactionsWithAttributes env.basefee
    (env.blobGasprice.map fun gasprice => UInt64.ofNat gasprice.toNat)

/-- The value of the best build so far. -/
def BuildArguments.bestBlockValue (args : BuildArguments) : U256 :=
  (args.bestBuild.map (·.blockValue)).getD 0

/-- `merge_transitions` and `with_bundle_state(take_bundle())`. -/
def Session.finish (s : Session) : BuildState :=
  s.1.withBundleState s.2.mergeTransitions.takeBundle

/-- The end of `try_build`: better, or aborted for its value. -/
def concludeBuild (args : BuildArguments) (s : Session) : BuildOutcome :=
  if s.finish.blockValue ≤ args.bestBlockValue then .aborted s.finish.blockValue
  else .better s.finish

/-! ## The strategies -/

structure EmptyStrat where
  config : PayloadConfig

structure MempoolStrat where
  config : PayloadConfig

structure BundlesStrat where
  config : PayloadConfig

def EmptyStrat.tryBuild (R : Reth) (strat : EmptyStrat) (args : BuildArguments) :
    Except PayloadBuilderError BuildOutcome :=
  match startBuild R strat.config args with
  | .error err => .error err
  | .ok s => .ok (.better s.1)

/-- `build_empty_payload`; `strat` is the default strategy, whose key is drawn at random. -/
def buildEmptyPayload (R : Reth) (strat : EmptyStrat) (args : BuildArguments) :
    Except PayloadBuilderError Build :=
  match strat.tryBuild R args with
  | .error err => .error err
  | .ok (.better bs) => bs.intoEmptyBuild R args.client args.pool
  -- `unreachable!()`
  | .ok _ => .error (.internal (.custom "internal error: entered unreachable code"))

namespace MempoolStrat

/-- The loop over the pool, at the `i`-th transaction. -/
def executeTxs (R : Reth) (cancelled : Nat → Bool) :
    BestTransactions → Nat → Session → Except TxExecution Unit × Session
  | .done, _, s => (.ok (), s)
  | .next tx rest, i, s =>
    if cancelled i then (.error .jobCancelled, s)
    else if tx.containsOfacAddresses then
      executeTxs R cancelled (rest [.markInvalid]) (i + 1) s
    else
      match s.1.executeTransaction R s.2 tx with
      | .ok s' => executeTxs R cancelled (rest []) (i + 1) s'
      | .error err =>
        match mempoolErrorCalls err with
        | some calls => executeTxs R cancelled (rest calls) (i + 1) s
        | none => (.error .execFailed, s)

def tryBuild (R : Reth) (strat : MempoolStrat) (args : BuildArguments) :
    Except PayloadBuilderError BuildOutcome :=
  match startBuild R strat.config args with
  | .error err => .error err
  | .ok s =>
    match executeTxs R args.cancelled args.bestTransactions 0 s with
    | (.error .jobCancelled, _) => .ok .cancelled
    | (.error .execFailed, s') => .ok (.aborted s'.1.blockValue)
    | (.ok (), s') => .ok (concludeBuild args s')

end MempoolStrat

namespace BundlesStrat

/-- The bundles of the pool for a block and a time; none when the lock is not got. -/
def eligibleBundles (args : BuildArguments) (bs : BuildState) : List Bundle :=
  (args.bundlePool.bundles args.acquired bs.buildConfig.blockNumber
    bs.buildConfig.attributes.timestamp).getD []

/-- Fetch, recover and simulate the bundles on top of the block, most valuable first. -/
def decodeAndFilterBundles (R : Reth) (args : BuildArguments) (s : Session) :
    List SimulatedBundle :=
  SimulatedBundle.sortByMaxValue
    ((Bundle.recoverBundles R (eligibleBundles args s.1)).filterMap fun bundle =>
      (s.1.simulateBundle R s.2 bundle).toOption)

/-- Greedy selection of sorted bundles. -/
def commitSelectedBundles (R : Reth) :
    List SimulatedBundle → List B256 → Session →
      Except PayloadBuilderError (List B256) × Session
  | [], committed, s => (.ok committed, s)
  | b :: processed, committed, s =>
    if b.containsOfac then commitSelectedBundles R processed committed s
    else if b.containsCommittedTransaction committed then
      commitSelectedBundles R processed committed s
    else
      match s.1.executeBundle R s.2 b.bundle with
      | .ok s' => commitSelectedBundles R processed (committed ++ b.bundle.txs) s'
      | .error (.payloadBuilder err) => (.error err, s)
      | .error _ => commitSelectedBundles R processed committed s

/-- The loop over the pool after the bundles: as `MempoolStrat`'s, but it passes
over what is committed already. -/
def executeMempoolTxs (R : Reth) (cancelled : Nat → Bool) :
    BestTransactions → Nat → List B256 → Session →
      Except TxExecution Unit × List B256 × Session
  | .done, _, committed, s => (.ok (), committed, s)
  | .next tx rest, i, committed, s =>
    if cancelled i then (.error .jobCancelled, committed, s)
    else if tx.containsOfacAddresses then
      executeMempoolTxs R cancelled (rest [.markInvalid]) (i + 1) committed s
    else if committed.contains tx.hash then
      executeMempoolTxs R cancelled (rest []) (i + 1) committed s
    else
      match s.1.executeTransaction R s.2 tx with
      | .ok s' => executeMempoolTxs R cancelled (rest []) (i + 1) (tx.hash :: committed) s'
      | .error err =>
        match mempoolErrorCalls err with
        | some calls => executeMempoolTxs R cancelled (rest calls) (i + 1) committed s
        | none => (.error .execFailed, committed, s)

def tryBuild (R : Reth) (strat : BundlesStrat) (args : BuildArguments) :
    Except PayloadBuilderError BuildOutcome :=
  match startBuild R strat.config args with
  | .error err => .error err
  | .ok s =>
    match commitSelectedBundles R (decodeAndFilterBundles R args s) [] s with
    | (.error err, _) => .error err
    | (.ok committed, s) =>
      match executeMempoolTxs R args.cancelled args.bestTransactions 0 committed s with
      | (.error .jobCancelled, _, _) => .ok .cancelled
      | (.error .execFailed, _, s') => .ok (.aborted s'.1.blockValue)
      | (.ok (), _, s') => .ok (concludeBuild args s')

end BundlesStrat

/-- `dispatch_strats!`. -/
inductive Strategy where
  | emptyStrat (strat : EmptyStrat)
  | mempoolStrat (strat : MempoolStrat)
  | bundlesStrat (strat : BundlesStrat)

namespace Strategy

def config : Strategy → PayloadConfig
  | emptyStrat strat => strat.config
  | mempoolStrat strat => strat.config
  | bundlesStrat strat => strat.config

def tryBuild (R : Reth) (strategy : Strategy) (args : BuildArguments) :
    Except PayloadBuilderError BuildOutcome :=
  match strategy with
  | emptyStrat strat => strat.tryBuild R args
  | mempoolStrat strat => strat.tryBuild R args
  | bundlesStrat strat => strat.tryBuild R args

/-- The two strategies that execute transactions and store what they did. -/
def executing : Strategy → Bool
  | emptyStrat _ => false
  | _ => true

end Strategy

/-! ## The loops are runs -/

/-- What a strategy may call: the transactions the pool's iterator yields and
the recovered bundles of the bundle pool. -/
def Offered (R : Reth) (args : BuildArguments) : BuildOp → Prop
  | .transaction tx => args.bestTransactions.Yields tx
  | .bundle b => ∃ n t, b ∈
      Bundle.recoverBundles R ((args.bundlePool.bundles args.acquired n t).getD [])

/-- What a build can include: what is offered, and transfers of the builder. -/
def Includable (R : Reth) (args : BuildArguments) (bs : BuildState)
    (tx : TransactionSignedEcRecovered) : Prop :=
  (∃ op, Offered R args op ∧ tx ∈ op.txs) ∨ bs.IsBuilderTransfer R tx

/-- The errors of a single transaction are never a bundle's. -/
theorem executeTransaction_error {R : Reth} {bs : BuildState} {db : ExecutionDB}
    {tx : TransactionSignedEcRecovered} {err : BuildStateExecutionError}
    (h : bs.executeTransaction R db tx = .error err) :
    err = .maxGasExceeded ∨ err = .maxBlobGasExceeded ∨ ∃ e, err = .payloadBuilder e := by
  unfold BuildState.executeTransaction BuildState.executeTransactionSkipVerify at h
  split at h
  next e _ =>
    cases h
    exact .inr (.inr ⟨e, rfl⟩)
  next sim _ =>
    simp only [Bool.false_eq_true, if_false] at h
    split at h
    next e he =>
      cases h
      unfold BuildState.verifySimulatedTransaction at he
      split at he
      next =>
        cases he
        exact .inl rfl
      next =>
        split at he
        next =>
          cases he
          exact .inr (.inl rfl)
        next => cases he
    next => cases h

open BuildOp (step step_of_ok)

/-- A call with a transaction that the iterator yields. -/
def YieldedBy (best : BestTransactions) (op : BuildOp) : Prop :=
  ∃ tx, op = .transaction tx ∧ best.Yields tx

/-- A call with a transaction that the iterator yields and that neither comes
from nor goes to a blacklisted address. -/
def ScreenedBy (best : BestTransactions) (op : BuildOp) : Prop :=
  ∃ tx, op = .transaction tx ∧ best.Yields tx ∧ tx.containsOfacAddresses = false

theorem ScreenedBy.yieldedBy {best : BestTransactions} {op : BuildOp} (h : ScreenedBy best op) :
    YieldedBy best op := by
  obtain ⟨tx, rfl, hyields, _⟩ := h
  exact ⟨tx, rfl, hyields⟩

/-- What is reached with the rest of an iterator is reached with the iterator. -/
theorem reaches_rest {R : Reth} {tx : TransactionSignedEcRecovered}
    {rest : List IterCall → BestTransactions} {calls : List IterCall} {s s' : Session}
    (h : Reaches (step R) (ScreenedBy (rest calls)) s s') :
    Reaches (step R) (ScreenedBy (.next tx rest)) s s' := by
  refine h.mono fun op hop => ?_
  obtain ⟨tx', rfl, hyields, hclear⟩ := hop
  exact ⟨tx', rfl, .tail hyields, hclear⟩

/-- A transaction that is executed first, and then what the rest yields. -/
theorem reaches_next {R : Reth} {tx : TransactionSignedEcRecovered}
    {rest : List IterCall → BestTransactions} {calls : List IterCall} {s s' s'' : Session}
    (hclear : ¬ tx.containsOfacAddresses = true)
    (hexec : s.1.executeTransaction R s.2 tx = .ok s')
    (h : Reaches (step R) (ScreenedBy (rest calls)) s' s'') :
    Reaches (step R) (ScreenedBy (.next tx rest)) s s'' := by
  refine Lib.Reaches.head ⟨tx, rfl, .head tx rest, Bool.eq_false_iff.mpr hclear⟩ ?_
  rw [step_of_ok (.transaction tx) hexec]
  exact reaches_rest h

/-- The loop of `MempoolStrat` is a run of screened transactions of the pool. -/
theorem MempoolStrat.executeTxs_screened (R : Reth) (cancelled : Nat → Bool)
    (best : BestTransactions) : ∀ (i : Nat) (s : Session),
    Reaches (step R) (ScreenedBy best) s (executeTxs R cancelled best i s).2 := by
  induction best with
  | done => exact fun _ s => .refl s
  | next tx rest ih =>
    intro i s
    unfold executeTxs
    split
    next => exact .refl s
    next =>
      split
      next => exact reaches_rest (ih _ (i + 1) s)
      next hclear =>
        split
        next s' hs' => exact reaches_next hclear hs' (ih [] (i + 1) s')
        -- A rejected transaction is skipped or ends the loop, but changes nothing.
        next err _ =>
          split
          next calls _ => exact reaches_rest (ih calls (i + 1) s)
          next => exact .refl s

theorem MempoolStrat.executeTxs_reaches (R : Reth) (cancelled : Nat → Bool)
    (best : BestTransactions) (i : Nat) (s : Session) :
    Reaches (step R) (YieldedBy best) s (executeTxs R cancelled best i s).2 :=
  (executeTxs_screened R cancelled best i s).mono fun _ => ScreenedBy.yieldedBy

/-- The loop of `BundlesStrat` over the pool is one too. -/
theorem BundlesStrat.executeMempoolTxs_screened (R : Reth) (cancelled : Nat → Bool)
    (best : BestTransactions) : ∀ (i : Nat) (committed : List B256) (s : Session),
    Reaches (step R) (ScreenedBy best) s
      (executeMempoolTxs R cancelled best i committed s).2.2 := by
  induction best with
  | done => exact fun _ _ s => .refl s
  | next tx rest ih =>
    intro i committed s
    unfold executeMempoolTxs
    split
    next => exact .refl s
    next =>
      split
      next => exact reaches_rest (ih _ (i + 1) committed s)
      next hclear =>
        split
        next => exact reaches_rest (ih _ (i + 1) committed s)
        next =>
          split
          next s' hs' => exact reaches_next hclear hs' (ih [] (i + 1) (tx.hash :: committed) s')
          next err _ =>
            split
            next calls _ => exact reaches_rest (ih calls (i + 1) committed s)
            next => exact .refl s

theorem BundlesStrat.executeMempoolTxs_reaches (R : Reth) (cancelled : Nat → Bool)
    (best : BestTransactions) (i : Nat) (committed : List B256) (s : Session) :
    Reaches (step R) (YieldedBy best) s (executeMempoolTxs R cancelled best i committed s).2.2 :=
  (executeMempoolTxs_screened R cancelled best i committed s).mono fun _ => ScreenedBy.yieldedBy

/-- The selection loop is a run of the bundles it is given. -/
theorem BundlesStrat.commitSelectedBundles_reaches (R : Reth) (processed : List SimulatedBundle) :
    ∀ (committed : List B256) (s : Session),
    Reaches (step R) (fun op => ∃ b ∈ processed, op = .bundle b.bundle) s
      (commitSelectedBundles R processed committed s).2 := by
  induction processed with
  | nil => exact fun _ s => .refl s
  | cons b processed ih =>
    intro committed s
    -- Skipped and committed bundles alike go on with the rest of the list.
    have hrest : ∀ (committed' : List B256) (s' : Session),
        Reaches (step R) (fun op => ∃ b' ∈ b :: processed, op = .bundle b'.bundle) s'
          (commitSelectedBundles R processed committed' s').2 := by
      intro committed' s'
      refine (ih committed' s').mono fun op hop => ?_
      obtain ⟨b', hb', hop⟩ := hop
      exact ⟨b', List.mem_cons_of_mem _ hb', hop⟩
    unfold commitSelectedBundles
    split
    next => exact hrest _ s
    next =>
      split
      next => exact hrest _ s
      next =>
        split
        next s' hs' =>
          refine Lib.Reaches.head ⟨b, List.mem_cons_self .., rfl⟩ ?_
          rw [step_of_ok (.bundle b.bundle) hs']
          exact hrest (committed ++ b.bundle.txs) s'
        next => exact .refl s
        next => exact hrest _ s

/-- A processed bundle was recovered from a bundle of the pool. -/
theorem BundlesStrat.mem_decodeAndFilterBundles {R : Reth} {args : BuildArguments} {s : Session}
    {b : SimulatedBundle} (h : b ∈ decodeAndFilterBundles R args s) :
    b.bundle ∈ Bundle.recoverBundles R (eligibleBundles args s.1) := by
  unfold decodeAndFilterBundles at h
  rw [SimulatedBundle.mem_sortByMaxValue] at h
  obtain ⟨bundle, hmem, hsim⟩ := List.mem_filterMap.mp h
  cases hb : s.1.simulateBundle R s.2 bundle with
  | error err =>
    rw [hb] at hsim
    cases hsim
  | ok b' =>
    rw [hb] at hsim
    cases hsim
    obtain ⟨sims, refunds, _, _, _, _, _, rfl⟩ := BuildState.simulateBundle_ok hb
    -- Adding the refund leaves the bundle itself as it was.
    have hbundle : ∀ (xs : List SimulatedTransaction) (c : SimulatedBundle),
        (xs.foldl SimulatedBundle.addTx c).bundle = c.bundle := by
      intro xs
      induction xs with
      | nil => exact fun _ => rfl
      | cons x xs ih => exact fun c => ih (c.addTx x)
    rw [hbundle]
    exact hmem

/-! ## A better build -/

theorem concludeBuild_better {args : BuildArguments} {s : Session} {bs : BuildState}
    (h : concludeBuild args s = .better bs) :
    bs = s.finish ∧ args.bestBlockValue < bs.blockValue := by
  unfold concludeBuild at h
  split at h
  next => cases h
  next hval =>
    cases h
    exact ⟨rfl, BitVec.not_le.mp hval⟩

/-- **A better build is a run of offered calls** on a started session, and its
value exceeds the best one's. -/
theorem Strategy.tryBuild_better {R : Reth} {strategy : Strategy} {args : BuildArguments}
    {bs : BuildState} (hexec : strategy.executing = true)
    (h : strategy.tryBuild R args = .ok (.better bs)) :
    ∃ s ops, startBuild R strategy.config args = .ok s ∧
      bs = Session.finish (run (step R) s ops) ∧ args.bestBlockValue < bs.blockValue ∧
      ∀ op ∈ ops, Offered R args op := by
  -- each strategy starts a session, runs its loops and finishes what they reached
  suffices hreaches : ∃ s s', startBuild R strategy.config args = .ok s ∧
      Reaches (step R) (Offered R args) s s' ∧ concludeBuild args s' = .better bs by
    obtain ⟨s, s', hstart, ⟨ops, rfl, hoffered⟩, hconclude⟩ := hreaches
    obtain ⟨hbs, hvalue⟩ := concludeBuild_better hconclude
    exact ⟨s, ops, hstart, hbs, hvalue, hoffered⟩
  have hpool : ∀ op, YieldedBy args.bestTransactions op → Offered R args op := by
    intro op hop
    obtain ⟨tx, rfl, hyields⟩ := hop
    exact hyields
  cases strategy with
  | emptyStrat strat => cases hexec
  | mempoolStrat strat =>
    replace h : strat.tryBuild R args = .ok (.better bs) := h
    unfold MempoolStrat.tryBuild at h
    split at h
    next => cases h
    next s hs =>
      have hloop := MempoolStrat.executeTxs_reaches R args.cancelled args.bestTransactions 0 s
      split at h
      next => cases h
      next => cases h
      next s' hs' =>
        rw [hs'] at hloop
        exact ⟨s, s', hs, hloop.mono hpool, Except.ok.inj h⟩
  | bundlesStrat strat =>
    replace h : strat.tryBuild R args = .ok (.better bs) := h
    unfold BundlesStrat.tryBuild at h
    split at h
    next => cases h
    next s hs =>
      have hbundles := BundlesStrat.commitSelectedBundles_reaches R
        (BundlesStrat.decodeAndFilterBundles R args s) [] s
      split at h
      next => cases h
      next committed s' hs' =>
        rw [hs'] at hbundles
        have hloop := BundlesStrat.executeMempoolTxs_reaches R args.cancelled
          args.bestTransactions 0 committed s'
        split at h
        next => cases h
        next => cases h
        next s'' hs'' =>
          rw [hs''] at hloop
          refine ⟨s, s'', hs, (hbundles.mono fun op hop => ?_).trans (hloop.mono hpool),
            Except.ok.inj h⟩
          obtain ⟨b, hb, rfl⟩ := hop
          exact ⟨_, _, BundlesStrat.mem_decodeAndFilterBundles hb⟩

/-! ## The started session -/

/-- The pre-block call of a build: `st` is what it commits to the parent's state. -/
structure PreBlockCall (R : Reth) (client : Client) (bs : BuildState) (parent : ChainState)
    (st : EvmState) : Prop where
  parent_eq : client.stateByBlockHash bs.buildConfig.parentBlock.hash = .ok parent
  call : R.applyBeaconRootContractCall bs.payloadConfig.chainSpec
    bs.buildConfig.attributes.timestamp bs.buildConfig.blockNumber bs.preBlockBeaconRoot bs.env
    parent = .ok st

/-- The call depends on the configuration of the build state only. -/
theorem PreBlockCall.of_config {R : Reth} {client : Client} {bs bs' : BuildState}
    {parent : ChainState} {st : EvmState} (h : PreBlockCall R client bs parent st)
    (hbuild : bs'.buildConfig = bs.buildConfig) (hpayload : bs'.payloadConfig = bs.payloadConfig) :
    PreBlockCall R client bs' parent st := by
  obtain ⟨hparent, hcall⟩ := h
  unfold BuildState.preBlockBeaconRoot BuildState.env at hcall
  refine ⟨?_, ?_⟩
  · rw [hbuild]
    exact hparent
  · unfold BuildState.preBlockBeaconRoot BuildState.env
    rw [hbuild, hpayload]
    exact hcall

/-- **The start of a build**: a new build state, on the parent's state after the
pre-block call. -/
theorem startBuild_ok {R : Reth} {config : PayloadConfig} {args : BuildArguments} {s : Session}
    (h : startBuild R config args = .ok s) :
    s.1 = BuildState.new args.buildConfig config args.buildId ∧
    ∃ parent st, PreBlockCall R args.client s.1 parent st ∧
      s.2.database = parent ∧ s.2.view = parent.commit st := by
  unfold startBuild Client.stateAt at h
  split at h
  next => cases h
  next state hstate =>
    split at hstate
    next => cases hstate
    next state' hclient =>
      cases hstate
      simp only at h
      split at h
      next => cases h
      next db hdb =>
        cases h
        unfold BuildState.preBlockBeaconRootContractCall at hdb
        split at hdb
        next => cases hdb
        next st hst =>
          cases hdb
          rw [ExecutionDB.view_build] at hst
          refine ⟨rfl, state, st, ⟨hclient, hst⟩, rfl, ?_⟩
          rw [ExecutionDB.view_commit, ExecutionDB.view_build]

end BlockBuilder
