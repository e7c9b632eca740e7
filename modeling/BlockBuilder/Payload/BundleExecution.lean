import BlockBuilder.Lib.InPlace
import BlockBuilder.Payload.Log

/-!
# Bundle execution in place

`BuildState.executeBundle` returns a new session or an error, so by its type a
failure changes nothing. The source writes while it runs: each transaction of a
bundle goes into the cache of a simulation db that borrows the execution db, and
a failure can come at any transaction, in the refund or in a check made after
all of them.

The programs of `InPlace` write where the source writes. `executeBundle_eq`
says that nothing of a failed bundle reaches the session, so that the two
renderings agree, and `executeBundle_all_or_nothing` what a successful one adds.

Mirroring notes:
- The simulation db holds the execution db it borrows; `inSimulationDb` hands it
  back, at whatever point the simulation stops.
- `simulateRefundTx` only reads the database.
-/

namespace BlockBuilder

open Lib (Keeps answer answer_bind answer_within within exitState along_append)

namespace InPlace

/-- A method of the build state or of a database it is given. -/
abbrev Exec (σ α : Type) := EStateM BuildStateExecutionError σ α

/-- The loop of `simulate_bundle`, which commits each transaction to the cache. -/
def simulateBundleTxs (R : Reth) (bs : BuildState) :
    List TransactionSignedEcRecovered → U256 → Exec SimulationDB (List SimulatedTransaction)
  | [], _ => pure []
  | tx :: txs, coinbaseBalanceBefore => do
    let db ← get
    match R.transact bs.env db.view tx with
    | .error err => throw (.payloadBuilder (.evmExecutionError err))
    | .ok r =>
      let outcome := BuildState.simulationOutcome R bs.coinbase bs.buildConfig.basefee
        coinbaseBalanceBefore tx r
      match outcome.containsOfacAddresses with
      | some address => throw (.ofacAddressDetected address)
      | none =>
        modify (·.commit r.state)
        let sims ← simulateBundleTxs R bs txs
          (BuildState.coinbaseBalanceAfter bs.coinbase r.state)
        return ⟨tx, outcome⟩ :: sims

/-- Run on a new cache over the execution db, and drop the cache. -/
def inSimulationDb {α : Type} (m : Exec SimulationDB α) : Exec Session α :=
  within (fun s => simulationDb s.2) (fun s db => (s.1, db.db)) m

def simulateBundle (R : Reth) (bundle : RecoveredBundle) : Exec Session SimulatedBundle := do
  let (bs, _) ← get
  inSimulationDb do
    let db ← get
    match db.view.basic bs.coinbase with
    | .error err => throw (.payloadBuilder (.ofProvider err))
    | .ok acct =>
      let sims ← simulateBundleTxs R bs bundle.recoveredTxs ((acct.map (·.balance)).getD 0)
      let simulated := SimulatedBundle.new bundle sims bs.buildConfig.basefee
      let db ← get
      match bs.simulateRefundTx R db simulated with
      | .error err => throw (.builderRefundTx (err.display R))
      | .ok (some refundTx) => return simulated.addTx refundTx
      | .ok none => return simulated

/-- Commit simulation outcomes to the build state and the execution db, in order. -/
def commit : List SimulatedTransaction → Exec Session Unit
  | [] => pure ()
  | sim :: sims => do
    modify fun s =>
      ({ s.1 with execDetails := s.1.execDetails.commitTx sim }, s.2.commit sim.outcome.evmState)
    commit sims

def executeBundle (R : Reth) (bundle : RecoveredBundle) : Exec Session Unit := do
  let b ← simulateBundle R bundle
  let (bs, _) ← get
  match bs.verifySimulatedBundle b with
  | .error err => throw err
  | .ok () => commit b.simulatedTxs

/-! ## What a simulation leaves alone -/

/-- Whatever the loop does, the execution db under the cache stays as it is. -/
theorem simulateBundleTxs_keeps (R : Reth) (bs : BuildState) :
    ∀ (txs : List TransactionSignedEcRecovered) (before : U256),
      Keeps SimulationDB.db (simulateBundleTxs R bs txs before)
  | [], _ => Keeps.pure _
  | tx :: txs, before => by
    unfold simulateBundleTxs
    refine Keeps.get.bind fun db => ?_
    split
    next => exact Keeps.throw _
    next r _ =>
      simp only
      split
      next => exact Keeps.throw _
      next =>
        refine Keeps.bind (Keeps.modify (g := fun db : SimulationDB => db.commit r.state)
          fun _ => rfl) fun _ => ?_
        exact (simulateBundleTxs_keeps R bs txs _).bind fun _ => Keeps.pure _

/-- A simulation leaves the session as it was, also when it fails half way. -/
theorem simulateBundle_keeps (R : Reth) (bundle : RecoveredBundle) :
    Keeps id (simulateBundle R bundle) := by
  unfold simulateBundle inSimulationDb
  refine Keeps.get.bind fun s => Keeps.within (f := SimulationDB.db) ?_ fun s db hdb => ?_
  · refine Keeps.get.bind fun db => ?_
    split
    next => exact Keeps.throw _
    next acct _ =>
      refine (simulateBundleTxs_keeps R s.1 _ _).bind fun sims => ?_
      refine Keeps.get.bind fun db' => ?_
      split
      next => exact Keeps.throw _
      next => exact Keeps.pure _
      next => exact Keeps.pure _
  · rw [hdb]
    rfl

/-! ## The two renderings agree -/

theorem answer_simulateBundleTxs (R : Reth) (bs : BuildState) :
    ∀ (txs : List TransactionSignedEcRecovered) (before : U256) (db : SimulationDB),
      answer (simulateBundleTxs R bs txs before db) = bs.simulateBundleTxs R txs before db
  | [], _, _ => rfl
  | tx :: txs, before, db => by
    unfold simulateBundleTxs BuildState.simulateBundleTxs
    rw [answer_bind, Lib.answer_get]
    simp only
    cases R.transact bs.env db.view tx with
    | error err => rfl
    | ok r =>
      simp only
      cases (BuildState.simulationOutcome R bs.coinbase bs.buildConfig.basefee before tx
        r).containsOfacAddresses with
      | some address => rfl
      | none =>
        simp only
        rw [answer_bind, Lib.answer_modify]
        simp only
        rw [answer_bind, answer_simulateBundleTxs R bs txs]
        cases bs.simulateBundleTxs R txs (BuildState.coinbaseBalanceAfter bs.coinbase r.state)
          (db.commit r.state) with
        | error err => rfl
        | ok p => rfl

theorem simulateBundle_eq (R : Reth) (bundle : RecoveredBundle) (s : Session) :
    simulateBundle R bundle s = Lib.onState s (s.1.simulateBundle R s.2 bundle) := by
  refine Lib.eq_onState_of_keeps (simulateBundle_keeps R bundle s) ?_
  unfold simulateBundle inSimulationDb BuildState.simulateBundle
  rw [answer_bind, Lib.answer_get]
  simp only
  rw [answer_within, answer_bind, Lib.answer_get]
  simp only
  cases (simulationDb s.2).view.basic s.1.coinbase with
  | error err => rfl
  | ok acct =>
    simp only
    rw [answer_bind, answer_simulateBundleTxs]
    cases s.1.simulateBundleTxs R bundle.recoveredTxs ((acct.map (·.balance)).getD 0)
      (simulationDb s.2) with
    | error err => rfl
    | ok p =>
      simp only
      rw [answer_bind, Lib.answer_get]
      simp only
      cases s.1.simulateRefundTx R p.2 (.new bundle p.1 s.1.buildConfig.basefee) with
      | error err => rfl
      | ok refund => cases refund <;> rfl

theorem commit_eq : ∀ (sims : List SimulatedTransaction) (s : Session),
    commit sims s = .ok () (s.1.commit s.2 sims)
  | [], _ => rfl
  | _ :: sims, _ => commit_eq sims _

/-- **Nothing of a failed bundle is left behind.** The program that writes in place
and the function that returns a new session agree. -/
theorem executeBundle_eq (R : Reth) (bundle : RecoveredBundle) (s : Session) :
    executeBundle R bundle s =
      match s.1.executeBundle R s.2 bundle with
      | .ok s' => .ok () s'
      | .error err => .error err s := by
  show EStateM.bind (simulateBundle R bundle) _ s = _
  unfold EStateM.bind
  rw [simulateBundle_eq]
  unfold BuildState.executeBundle
  cases s.1.simulateBundle R s.2 bundle with
  | error err => rfl
  | ok b =>
    show (match s.1.verifySimulatedBundle b with
      | .error err => throw err
      | .ok () => commit b.simulatedTxs : Exec Session Unit) s = _
    cases hverify : s.1.verifySimulatedBundle b with
    | error err =>
      simp only [hverify]
      rfl
    | ok u =>
      simp only [hverify]
      exact commit_eq b.simulatedTxs s

end InPlace

/-! ## All or nothing -/

/-- The receipts of a log belong to its transactions, in order. -/
theorem mem_zip_receiptsFrom : ∀ {sims : List SimulatedTransaction} {cumulative : UInt64}
    {p : TransactionSigned × Receipt},
    p ∈ (sims.map (·.tx.intoSigned)).zip (receiptsFrom cumulative sims) →
    ∃ sim ∈ sims, p.1 = sim.tx.intoSigned ∧ p.2.success = sim.outcome.evmResult.isSuccess
  | [], _, _, h => absurd h (by simp)
  | sim :: sims, cumulative, p, h => by
    rw [List.map_cons, receiptsFrom, List.zip_cons_cons] at h
    rcases List.mem_cons.mp h with rfl | hmem
    · exact ⟨sim, List.mem_cons_self .., rfl, rfl⟩
    · obtain ⟨sim', hsim', heq⟩ := mem_zip_receiptsFrom hmem
      exact ⟨sim', List.mem_cons_of_mem _ hsim', heq⟩

/-- What an executed bundle `b`, with its own transactions `user` and a refund or
none, has added to a session. -/
structure BundleAdded (R : Reth) (bundle : RecoveredBundle) (s s' : Session) (b : SimulatedBundle)
    (user refunds : List SimulatedTransaction) : Prop where
  simulated : s.1.simulateBundle R s.2 bundle = .ok b
  user_txs : user.map (·.tx) = bundle.recoveredTxs
  refunds_le : refunds.length ≤ 1
  refund_transfer : ∀ x ∈ refunds, s.1.IsBuilderTransfer R x.tx
  executedTxs : s'.1.execDetails.executedTxs =
    s.1.execDetails.executedTxs ++ (user ++ refunds).map (·.tx.intoSigned)
  receipts : s'.1.execDetails.receipts = s.1.execDetails.receipts ++
    (receiptsFrom s.1.execDetails.cumulativeGasUsed (user ++ refunds)).map some
  gas : s'.1.execDetails.cumulativeGasUsed = s.1.execDetails.cumulativeGasUsed + b.outcome.gasUsed
  blobGas : s'.1.execDetails.cumulativeBlobGasUsed =
    s.1.execDetails.cumulativeBlobGasUsed + b.outcome.blobGasUsed
  fees : s'.1.execDetails.sumFees = s.1.execDetails.sumFees + b.outcome.fees
  transfers : s'.1.execDetails.sumCoinbaseTransfers =
    s.1.execDetails.sumCoinbaseTransfers + b.outcome.coinbaseTransfer
  sums : b.outcome.gasUsed = gasSum (user ++ refunds) ∧
    b.outcome.blobGasUsed = blobGasSum (user ++ refunds) ∧
    b.outcome.fees = feeSum (user ++ refunds) ∧
    b.outcome.coinbaseTransfer = transferSum (user ++ refunds)
  view : s'.2.view = s.2.view.after (user ++ refunds)
  reverted : ∀ p ∈ ((user ++ refunds).map (·.tx.intoSigned)).zip
      (receiptsFrom s.1.execDetails.cumulativeGasUsed (user ++ refunds)),
    p.2.success = false → p.1.hash ∈ bundle.revertingTxHashes

theorem executeBundle_added {R : Reth} {bundle : RecoveredBundle} {s s' : Session}
    (h : s.1.executeBundle R s.2 bundle = .ok s') :
    ∃ b user refunds, BundleAdded R bundle s s' b user refunds := by
  unfold BuildState.executeBundle at h
  split at h
  next => cases h
  next b hb =>
    split at h
    next => cases h
    next hverify =>
      cases h
      obtain ⟨user, refunds, huser, hlength, htransfers, _, _, hbeq⟩ :=
        BuildState.simulateBundle_ok hb
      obtain ⟨hrev, _, _⟩ := BuildOp.verifySimulatedBundle_ok hverify
      rw [hbeq] at hrev
      obtain ⟨hallowed, htxs, houtcome⟩ := SimulatedBundle.sums_of_not_reverted refunds hrev
      rw [← hbeq] at htxs houtcome
      have hdetails := BuildState.execDetails_commit (user ++ refunds) s.1 s.2
      -- a refund has succeeded, and no other transaction failed against the rules
      have hreverted : ∀ x ∈ user ++ refunds, x.outcome.evmResult.isSuccess = false →
          x.tx.hash ∈ bundle.revertingTxHashes := by
        intro x hx hfailed
        rcases List.mem_append.mp hx with hx | hx
        · have hbad := hallowed x hx
          unfold BundleSimulationOutcome.disallowedRevert at hbad
          simpa [hfailed] using hbad
        · exact absurd ((htransfers x hx).2.symm.trans hfailed) (by simp)
      rw [htxs]
      refine ⟨b, user, refunds, hb, huser, hlength, fun x hx => (htransfers x hx).1, ?_, ?_, ?_,
        ?_, ?_, ?_, ?_, BuildState.view_commit .., ?_⟩
      · rw [hdetails]
      · rw [hdetails]
      · rw [hdetails, houtcome]
      · rw [hdetails, houtcome]
      · rw [hdetails, houtcome]
      · rw [hdetails, houtcome]
      · rw [houtcome]
        exact ⟨rfl, rfl, rfl, rfl⟩
      · intro p hp hfailed
        obtain ⟨sim, hsim, htx, hsuccess⟩ := mem_zip_receiptsFrom hp
        rw [htx]
        exact hreverted sim hsim (hsuccess.symm.trans hfailed)

/-- **All or nothing.** A bundle that fails, at whatever point, leaves the build
state and the database as they were; one that succeeds appends its transactions
and at most one refund, with the sums and the state that belong to them. -/
theorem executeBundle_all_or_nothing (R : Reth) (bundle : RecoveredBundle) (s : Session) :
    match InPlace.executeBundle R bundle s with
    | .error _ s' => s' = s
    | .ok () s' => ∃ b user refunds, BundleAdded R bundle s s' b user refunds := by
  rw [InPlace.executeBundle_eq]
  cases h : s.1.executeBundle R s.2 bundle with
  | error err => rfl
  | ok s' => exact executeBundle_added h

end BlockBuilder
