import BlockBuilder.Payload.TransferSlot

/-!
# A bundle, one transaction at a time (`strategy/state/mod.rs`)

A bundle is simulated on a cache over the execution db, and the coinbase balance
of each transaction is handed on from the result of the one before. A single
transaction is simulated on the execution db itself, and the balance is read
there. The figures are the same: the cache shows what the execution db shows
after the transactions so far were committed to it, and the result of a
transaction has the coinbase balance the database has after it.
-/

namespace BlockBuilder

open Lib (run)

/-- What revm does with the coinbase: the state of every result contains it, with the
balance it had if it was only loaded, and with none if it destroyed itself. -/
structure Reth.ReturnsCoinbase (R : Reth) (env : Env) : Prop where
  contains : ∀ s tx r, R.transact env s tx = .ok r → ∃ acct, r.state.get env.block.coinbase = some acct
  loaded : ∀ s tx r acct, R.transact env s tx = .ok r →
    r.state.get env.block.coinbase = some acct → acct.touched = false →
    acct.info.balance = s.balance env.block.coinbase
  destroyed : ∀ s tx r acct, R.transact env s tx = .ok r →
    r.state.get env.block.coinbase = some acct → acct.selfdestructed = true → acct.info.balance = 0

/-- A coinbase that is paid is returned. -/
theorem Reth.ReportsCoinbase.returns {R : Reth} {env : Env} (h : R.ReportsCoinbase env) :
    R.ReturnsCoinbase env := by
  constructor
  · intro s tx r hr
    obtain ⟨acct, hget, -, -⟩ := h s tx r hr
    exact ⟨acct, hget⟩
  · intro s tx r acct hr hacct huntouched
    obtain ⟨acct', hget, htouched, -⟩ := h s tx r hr
    cases hacct.symm.trans hget
    rw [htouched] at huntouched
    cases huntouched
  · intro s tx r acct hr hacct hdestroyed
    obtain ⟨acct', hget, -, hkept⟩ := h s tx r hr
    cases hacct.symm.trans hget
    rw [hdestroyed] at hkept
    cases hkept

/-- **The balance that is handed on is the balance in the database.** -/
theorem Reth.ReturnsCoinbase.balance_commit {R : Reth} {env : Env} (h : R.ReturnsCoinbase env)
    {s : ChainState} {tx : TransactionSignedEcRecovered} {r : ResultAndState}
    (hr : R.transact env s tx = .ok r) :
    BuildState.coinbaseBalanceAfter env.block.coinbase r.state =
      (s.commit r.state).balance env.block.coinbase := by
  obtain ⟨acct, hget⟩ := h.contains s tx r hr
  have hafter : BuildState.coinbaseBalanceAfter env.block.coinbase r.state = acct.info.balance := by
    unfold BuildState.coinbaseBalanceAfter
    rw [hget]
    rfl
  rw [hafter]
  cases htouched : acct.touched with
  | false =>
    -- only loaded: the commit leaves it alone
    have hchange : r.state.changes env.block.coinbase = none := by
      unfold EvmState.changes
      simp [hget, htouched]
    rw [h.loaded s tx r acct hr hget htouched]
    unfold ChainState.balance ChainState.commit Lib.Overlay.onto
    rw [hchange]
  | true =>
    cases hdestroyed : acct.selfdestructed with
    | false => exact (ChainState.balance_commit hget htouched hdestroyed).symm
    | true =>
      have hchange : r.state.changes env.block.coinbase = some none := by
        unfold EvmState.changes
        simp [hget, htouched, hdestroyed]
      rw [h.destroyed s tx r acct hr hget hdestroyed]
      unfold ChainState.balance ChainState.commit
      rw [Lib.Overlay.onto_of_some hchange]

namespace BuildState

/-- Simulate and commit transactions one at a time. -/
def simulateEach (R : Reth) : List TransactionSignedEcRecovered → BuildState → ExecutionDB →
    Except PayloadBuilderError (List SimulatedTransaction × BuildState × ExecutionDB)
  | [], bs, db => .ok ([], bs, db)
  | tx :: txs, bs, db =>
    match bs.simulateTx R db tx with
    | .error err => .error err
    | .ok s =>
      match simulateEach R txs (bs.commit db [s]).1 (bs.commit db [s]).2 with
      | .error err => .error err
      | .ok (sims, last) => .ok (s :: sims, last)

/-- Execute transactions one at a time, without verifying them. -/
def executeEach (R : Reth) : List TransactionSignedEcRecovered → BuildState → ExecutionDB →
    Except BuildStateExecutionError (BuildState × ExecutionDB)
  | [], bs, db => .ok (bs, db)
  | tx :: txs, bs, db =>
    match bs.executeTransactionSkipVerify R db tx true with
    | .error err => .error err
    | .ok (bs', db') => executeEach R txs bs' db'

/-- Both end where the transactions are committed. -/
theorem executeEach_of_simulateEach {R : Reth} :
    ∀ {txs : List TransactionSignedEcRecovered} {bs : BuildState} {db : ExecutionDB}
      {sims : List SimulatedTransaction} {last : BuildState × ExecutionDB},
      simulateEach R txs bs db = .ok (sims, last) →
      executeEach R txs bs db = .ok last ∧ last = bs.commit db sims := by
  intro txs
  induction txs with
  | nil =>
    intro bs db sims last h
    cases h
    exact ⟨rfl, rfl⟩
  | cons tx txs ih =>
    intro bs db sims last h
    unfold simulateEach at h
    split at h
    next => cases h
    next s hs =>
      split at h
      next => cases h
      next rest last' hrest =>
        cases h
        obtain ⟨hexec, hlast⟩ := ih hrest
        refine ⟨?_, hlast⟩
        unfold executeEach executeTransactionSkipVerify
        rw [hs]
        exact hexec

/-- The execution details do not enter into a simulation. -/
theorem simulateTx_congr (R : Reth) {bs bs' : BuildState} (h : bs'.buildConfig = bs.buildConfig)
    (db : ExecutionDB) (tx : TransactionSignedEcRecovered) :
    bs'.simulateTx R db tx = bs.simulateTx R db tx := by
  unfold simulateTx simulateTxOnDb coinbase env
  rw [h]

/-- **The two databases go together.** `db` is the cache of the bundle, and `exec` the
execution db that the transactions are committed to one at a time. -/
theorem simulateEach_of_simulateBundleTxs {R : Reth} {bs : BuildState}
    (hreturns : R.ReturnsCoinbase bs.env) :
    ∀ {txs : List TransactionSignedEcRecovered} {before : U256} {db db' : SimulationDB}
      {sims : List SimulatedTransaction} {bs' : BuildState} {exec : ExecutionDB},
      bs.simulateBundleTxs R txs before db = .ok (sims, db') →
      bs'.buildConfig = bs.buildConfig → db.view = exec.view →
      (∃ acct, exec.view bs.coinbase = .ok acct) → before = exec.view.balance bs.coinbase →
      simulateEach R txs bs' exec = .ok (sims, bs'.commit exec sims) ∧
        db'.view = (bs'.commit exec sims).2.view := by
  intro txs
  induction txs with
  | nil =>
    intro before db db' sims bs' exec h _ hview _ _
    cases h
    exact ⟨rfl, hview⟩
  | cons tx txs ih =>
    intro before db db' sims bs' exec h hconfig hview hread hbefore
    unfold simulateBundleTxs at h
    split at h
    next => cases h
    next r hr =>
      simp only at h
      split at h
      next => cases h
      next =>
        split at h
        next => cases h
        next rest last hrest =>
          cases h
          rw [hview] at hr
          have hone : bs'.simulateTx R exec tx =
              .ok ⟨tx, simulationOutcome R bs.coinbase bs.buildConfig.basefee before tx r⟩ := by
            obtain ⟨acct, hacct⟩ := hread
            have hbasic : exec.view.basic bs.coinbase = .ok (acct.map (·.info)) :=
              ChainState.basic_eq_ok_iff.mpr ⟨acct, hacct, rfl⟩
            rw [simulateTx_congr R hconfig, simulateTx, simulateTxOnDb,
              SimulationDB.view_simulationDb, hbasic]
            simp only [hr]
            rw [ChainState.balance_of_basic hbasic, ← hbefore, bs.buildConfig.basefee_eq]
            rfl
          -- both databases commit the state of the result
          have hview' : (db.commit r.state).view = (exec.commit r.state).view := by
            rw [SimulationDB.view_commit, ExecutionDB.view_commit, hview]
          have hread' : ∃ acct, (exec.commit r.state).view bs.coinbase = .ok acct := by
            rw [ExecutionDB.view_commit]
            exact Lib.Overlay.onto_ok hread
          have hbefore' : coinbaseBalanceAfter bs.coinbase r.state =
              (exec.commit r.state).view.balance bs.coinbase := by
            rw [ExecutionDB.view_commit]
            exact hreturns.balance_commit hr
          have hconfig' : (bs'.commit exec [⟨tx, simulationOutcome R bs.coinbase
              bs.buildConfig.basefee before tx r⟩]).1.buildConfig = bs.buildConfig :=
            (buildConfig_commit bs' exec _).trans hconfig
          obtain ⟨heach, hlast⟩ := ih hrest hconfig' hview' hread' hbefore'
          refine ⟨?_, hlast⟩
          unfold simulateEach
          rw [hone]
          simp only
          rw [show (bs'.commit exec [_]).2 = exec.commit r.state from rfl, heach]
          rfl

/-- Nothing to refund, or nobody to receive it. -/
theorem simulateRefundTx_none {R : Reth} {bs : BuildState} {b : SimulatedBundle} (db : SimulationDB)
    (h : b.outcome.refund = 0 ∨ b.bundle.refundRecipient = none) :
    bs.simulateRefundTx R db b = .ok none := by
  unfold simulateRefundTx
  by_cases hzero : b.outcome.refund = 0
  · rw [if_pos hzero]
  · rcases h with hrefund | hnobody
    · exact absurd hrefund hzero
    · rw [if_neg hzero, hnobody]

end BuildState

end BlockBuilder
