import BlockBuilder.Lib.Run
import BlockBuilder.Payload.BuildState

/-!
# What a build state has executed

Everything a build state and its database know after any number of calls is a
function of the list of simulated transactions committed so far, the log. The
log is *executed*: each entry is the EVM's result for its transaction on the
chain state the earlier entries left, under the build's environment.

- `commit` is the only writer. The field lemmas say what it adds to each field.
- `execute_ok` is the inversion lemma of both calls: success commits a list of
  simulated transactions that is executed, fits the room left and consists of
  the call's transactions, followed for a bundle by at most one builder
  transfer.
- `run_eq_commit` puts a whole run of calls into one commit of one log.
-/

namespace BlockBuilder

open Lib (run Along run_append along_append)

/-! ## Executed transactions -/

namespace ChainState

/-- The chain state after a simulated transaction. -/
def commitTx (s : ChainState) (sim : SimulatedTransaction) : ChainState :=
  s.commit sim.outcome.evmState

/-- The chain state after a list of simulated transactions. -/
abbrev after (s : ChainState) (sims : List SimulatedTransaction) : ChainState :=
  run commitTx s sims

/-- An account that can be read can be read after any executions. -/
theorem after_ok {a : Address} : ∀ (sims : List SimulatedTransaction) {s : ChainState},
    (∃ acct, s a = .ok acct) → ∃ acct, s.after sims a = .ok acct
  | [], _, h => h
  | sim :: sims, s, h => after_ok sims (s := s.commitTx sim) (Lib.Overlay.onto_ok h)

/-- Reading the basic part of an account is reading the account. -/
theorem basic_eq_ok_iff {s : ChainState} {a : Address} {info : Option AccountInfo} :
    s.basic a = .ok info ↔ ∃ acct, s a = .ok acct ∧ info = acct.map (·.info) := by
  unfold basic
  cases s a with
  | error err => simp
  | ok acct => simp [eq_comm]

theorem basic_ok_iff {s : ChainState} {a : Address} :
    (∃ info, s.basic a = .ok info) ↔ ∃ acct, s a = .ok acct := by
  constructor
  · intro h
    obtain ⟨info, hinfo⟩ := h
    obtain ⟨acct, hacct, -⟩ := basic_eq_ok_iff.mp hinfo
    exact ⟨acct, hacct⟩
  · intro h
    obtain ⟨acct, hacct⟩ := h
    exact ⟨_, basic_eq_ok_iff.mpr ⟨acct, hacct, rfl⟩⟩

theorem basic_after_ok {a : Address} (sims : List SimulatedTransaction) {s : ChainState}
    (h : ∃ acct, s.basic a = .ok acct) : ∃ acct, (s.after sims).basic a = .ok acct :=
  basic_ok_iff.mpr (after_ok sims (basic_ok_iff.mp h))

theorem balance_of_basic {s : ChainState} {a : Address} {info : Option AccountInfo}
    (h : s.basic a = .ok info) : (info.map (·.balance)).getD 0 = s.balance a := by
  obtain ⟨acct, hacct, rfl⟩ := basic_eq_ok_iff.mp h
  unfold balance
  rw [hacct]
  cases acct <;> rfl

/-- A touched account of the committed state has the balance it has there. -/
theorem balance_commit {s : ChainState} {st : EvmState} {a : Address} {acct : EvmAccount}
    (h : st.get a = some acct) (ht : acct.touched = true) (hd : acct.selfdestructed = false) :
    (s.commit st).balance a = acct.info.balance := by
  have hchange : st.changes a = some (some ⟨acct.info, acct.storage⟩) := by
    unfold EvmState.changes
    simp [h, ht, hd]
  unfold balance commit
  rw [Lib.Overlay.onto_of_some hchange]

end ChainState

/-- The EVM always returns the coinbase it has paid. -/
def Reth.ReportsCoinbase (R : Reth) (env : Env) : Prop :=
  ∀ s tx r, R.transact env s tx = .ok r →
    ∃ acct, r.state.get env.block.coinbase = some acct ∧ acct.touched = true ∧
      acct.selfdestructed = false

/-- A simulated transaction is the EVM's result for its transaction on a chain
state. The coinbase balance it was measured from is that of the chain state,
if the EVM reports the coinbase. -/
def ExecutedOn (R : Reth) (env : Env) (s : ChainState) (sim : SimulatedTransaction) : Prop :=
  ∃ r before, R.transact env s sim.tx = .ok r ∧
    sim.outcome =
      BuildState.simulationOutcome R env.block.coinbase env.block.basefee before sim.tx r ∧
    (R.ReportsCoinbase env → before = s.balance env.block.coinbase)

/-- Each simulated transaction was executed on what the ones before it left. -/
abbrev Executes (R : Reth) (env : Env) (s : ChainState) (sims : List SimulatedTransaction) : Prop :=
  Along ChainState.commitTx (ExecutedOn R env) s sims

namespace ExecutedOn

variable {R : Reth} {env : Env} {s : ChainState} {sim : SimulatedTransaction}

theorem transact (h : ExecutedOn R env s sim) :
    R.transact env s sim.tx = .ok ⟨sim.outcome.evmResult, sim.outcome.evmState⟩ := by
  obtain ⟨r, before, hr, houtcome, _⟩ := h
  rw [houtcome]
  exact hr

theorem gasUsed_eq (h : ExecutedOn R env s sim) :
    sim.outcome.gasUsed = sim.outcome.evmResult.gasUsed := by
  obtain ⟨r, before, _, houtcome, _⟩ := h
  rw [houtcome]
  rfl

theorem blobGasUsed_eq (h : ExecutedOn R env s sim) :
    sim.outcome.blobGasUsed = R.txBlobGas sim.tx.transaction := by
  obtain ⟨r, before, _, houtcome, _⟩ := h
  rw [houtcome]
  rfl

end ExecutedOn

/-- Transactions without blobs use no blob gas. -/
theorem Executes.blobGasUsed_eq_zero {R : Reth} {env : Env} : ∀ (sims : List SimulatedTransaction)
    {s : ChainState}, Executes R env s sims →
    (∀ sim ∈ sims, sim.tx.transaction.isEip4844 = false) →
    ∀ sim ∈ sims, sim.outcome.blobGasUsed = 0
  | [], _, _, _ => fun sim hsim => absurd hsim (by simp)
  | x :: xs, s, h, hnone => by
    intro sim hsim
    rcases List.mem_cons.mp hsim with rfl | hsim'
    · rw [h.1.blobGasUsed_eq]
      unfold Reth.txBlobGas
      rw [hnone sim (List.mem_cons_self ..)]
      rfl
    · exact Executes.blobGasUsed_eq_zero xs h.2
        (fun y hy => hnone y (List.mem_cons_of_mem _ hy)) sim hsim'

/-- **A log is determined by its transactions.** The EVM is a function, so two
executed logs of the same signed transactions have the same results. -/
theorem Executes.results_unique {R : Reth} {env : Env} : ∀ (xs ys : List SimulatedTransaction)
    {s : ChainState}, Executes R env s xs → Executes R env s ys →
    xs.map (·.tx.intoSigned) = ys.map (·.tx.intoSigned) →
    xs.map (fun x => (x.tx, x.outcome.evmResult, x.outcome.evmState)) =
      ys.map fun y => (y.tx, y.outcome.evmResult, y.outcome.evmState)
  | [], [], _, _, _, _ => rfl
  | [], _ :: _, _, _, _, h => by cases h
  | _ :: _, [], _, _, _, h => by cases h
  | x :: xs, y :: ys, s, hxs, hys, h => by
    obtain ⟨hx, hxs⟩ := hxs
    obtain ⟨hy, hys⟩ := hys
    rw [List.map_cons, List.map_cons] at h
    obtain ⟨hsigned, htail⟩ := List.cons.inj h
    -- The body holds signed transactions; a signature determines its signer.
    have htx : x.tx = y.tx := by
      have hrecovered := congrArg TransactionSigned.intoEcrecovered hsigned
      rw [intoEcrecovered_intoSigned, intoEcrecovered_intoSigned] at hrecovered
      exact Option.some.inj hrecovered
    have hresult := hx.transact
    rw [htx, hy.transact] at hresult
    obtain ⟨hevm, hstate⟩ := ResultAndState.mk.inj (Except.ok.inj hresult)
    -- The same transaction on the same state: the same result, and the same next state.
    have hnext : s.commitTx x = s.commitTx y := by
      unfold ChainState.commitTx
      rw [hstate]
    rw [hnext] at hxs
    rw [List.map_cons, List.map_cons, Executes.results_unique xs ys hxs hys htail, htx, hevm,
      hstate]

/-! ## What a commit adds -/

/-- The receipts of simulated transactions, from a cumulative gas. -/
def receiptsFrom : UInt64 → List SimulatedTransaction → List Receipt
  | _, [] => []
  | cumulative, s :: sims =>
    { txType := s.tx.transaction.txType
      success := s.outcome.evmResult.isSuccess
      cumulativeGasUsed := cumulative + s.outcome.gasUsed
      logs := s.outcome.evmResult.intoLogs } ::
    receiptsFrom (cumulative + s.outcome.gasUsed) sims

theorem receiptsFrom_append (xs ys : List SimulatedTransaction) : ∀ cumulative : UInt64,
    receiptsFrom cumulative (xs ++ ys) =
      receiptsFrom cumulative xs ++ receiptsFrom (cumulative + gasSum xs) ys := by
  induction xs with
  | nil => simp [receiptsFrom]
  | cons x xs ih => simp [receiptsFrom, ih, UInt64.add_assoc]

namespace BuildState

variable (bs : BuildState) (db : ExecutionDB) (sims : List SimulatedTransaction)

@[simp] theorem commit_nil : bs.commit db [] = (bs, db) := rfl

theorem commit_cons (s : SimulatedTransaction) :
    bs.commit db (s :: sims) =
      commit { bs with execDetails := bs.execDetails.commitTx s }
        (db.commit s.outcome.evmState) sims := rfl

theorem commit_append (xs ys : List SimulatedTransaction) : ∀ (bs : BuildState) (db : ExecutionDB),
    bs.commit db (xs ++ ys) = (bs.commit db xs).1.commit (bs.commit db xs).2 ys := by
  induction xs with
  | nil => simp
  | cons x xs ih =>
    intro bs db
    rw [List.cons_append, commit_cons, commit_cons, ih]

/-- A commit writes the execution details and nothing else of the build state. -/
theorem commit_config : ∀ (bs : BuildState) (db : ExecutionDB),
    (bs.commit db sims).1.id = bs.id ∧
      (bs.commit db sims).1.payloadConfig = bs.payloadConfig ∧
      (bs.commit db sims).1.buildConfig = bs.buildConfig := by
  induction sims with
  | nil => simp
  | cons s sims ih =>
    intro bs db
    rw [commit_cons]
    exact ih _ _

@[simp] theorem payloadConfig_commit : (bs.commit db sims).1.payloadConfig = bs.payloadConfig :=
  (commit_config sims bs db).2.1

@[simp] theorem buildConfig_commit : (bs.commit db sims).1.buildConfig = bs.buildConfig :=
  (commit_config sims bs db).2.2

@[simp] theorem env_commit : (bs.commit db sims).1.env = bs.env := by
  unfold env
  rw [buildConfig_commit]

/-- The database shows the chain state after the transactions. -/
theorem view_commit : ∀ (bs : BuildState) (db : ExecutionDB),
    (bs.commit db sims).2.view = db.view.after sims := by
  induction sims with
  | nil => simp
  | cons s sims ih =>
    intro bs db
    rw [commit_cons, ih, ExecutionDB.view_commit]
    rfl

theorem database_commit : ∀ (bs : BuildState) (db : ExecutionDB),
    (bs.commit db sims).2.database = db.database := by
  induction sims with
  | nil => simp
  | cons s sims ih =>
    intro bs db
    rw [commit_cons, ih, ExecutionDB.database_commit]

/-- **The execution details after a commit**, field by field. -/
theorem execDetails_commit : ∀ (bs : BuildState) (db : ExecutionDB),
    (bs.commit db sims).1.execDetails =
      { executedTxs := bs.execDetails.executedTxs ++ sims.map (·.tx.intoSigned)
        receipts := bs.execDetails.receipts ++
          (receiptsFrom bs.execDetails.cumulativeGasUsed sims).map some
        cumulativeGasUsed := bs.execDetails.cumulativeGasUsed + gasSum sims
        cumulativeBlobGasUsed := bs.execDetails.cumulativeBlobGasUsed + blobGasSum sims
        sumFees := bs.execDetails.sumFees + feeSum sims
        sumCoinbaseTransfers := bs.execDetails.sumCoinbaseTransfers + transferSum sims
        builderPayment := bs.execDetails.builderPayment
        bundleState := bs.execDetails.bundleState } := by
  induction sims with
  | nil => simp [receiptsFrom]
  | cons s sims ih =>
    intro bs db
    rw [commit_cons, ih]
    simp [ExecutionDetails.commitTx, receiptsFrom, UInt64.add_assoc, BitVec.add_assoc]

/-! ## Simulations are executions -/

/-- A transfer made and signed by the builder. -/
def IsBuilderTransfer (R : Reth) (bs : BuildState) (tx : TransactionSignedEcRecovered) : Prop :=
  ∃ nonce recipient payment,
    tx = bs.signBuilderTransfer R (bs.builderTransfer nonce recipient payment)

/-- A builder transfer depends on the configuration of the build state only. -/
theorem isBuilderTransfer_congr {R : Reth} {bs bs' : BuildState} {tx : TransactionSignedEcRecovered}
    (hbuild : bs'.buildConfig = bs.buildConfig) (hpayload : bs'.payloadConfig = bs.payloadConfig) :
    bs'.IsBuilderTransfer R tx ↔ bs.IsBuilderTransfer R tx := by
  obtain ⟨_, payload, build, _⟩ := bs
  obtain ⟨_, payload', build', _⟩ := bs'
  obtain rfl : build' = build := hbuild
  obtain rfl : payload' = payload := hpayload
  exact Iff.rfl

theorem createBuilderTransferTransaction_ok {R : Reth} {bs : BuildState} {db : ChainState}
    {recipient : Address} {payment : U256} {tx : TransactionSignedEcRecovered}
    (h : bs.createBuilderTransferTransaction R db recipient payment = .ok tx) :
    ∃ nonce, tx = bs.signBuilderTransfer R (bs.builderTransfer nonce recipient payment) := by
  unfold createBuilderTransferTransaction at h
  split at h
  next => cases h
  next acct _ =>
    cases h
    exact ⟨_, rfl⟩

theorem simulateTxOnDb_ok {R : Reth} {bs : BuildState} {db : SimulationDB}
    {tx : TransactionSignedEcRecovered} {s : SimulatedTransaction}
    (h : bs.simulateTxOnDb R db tx = .ok s) : s.tx = tx ∧ ExecutedOn R bs.env db.view s := by
  unfold simulateTxOnDb at h
  split at h
  next => cases h
  next acct hacct =>
    split at h
    next => cases h
    next r hr =>
      cases h
      exact ⟨rfl, r, _, hr, rfl, fun _ => ChainState.balance_of_basic hacct⟩

/-- The loop over a bundle executes its transactions, and hands on the
coinbase balance they left, if the EVM reports it. -/
theorem simulateBundleTxs_ok {R : Reth} {bs : BuildState} :
    ∀ (txs : List TransactionSignedEcRecovered) {before : U256} {db db' : SimulationDB}
      {sims : List SimulatedTransaction},
      bs.simulateBundleTxs R txs before db = .ok (sims, db') →
      (R.ReportsCoinbase bs.env → before = db.view.balance bs.coinbase) →
      sims.map (·.tx) = txs ∧ Executes R bs.env db.view sims ∧ db'.view = db.view.after sims := by
  intro txs
  induction txs with
  | nil =>
    intro before db db' sims h _
    cases h
    exact ⟨rfl, trivial, rfl⟩
  | cons tx txs ih =>
    intro before db db' sims h hbefore
    unfold simulateBundleTxs at h
    split at h
    next => cases h
    next r hr =>
      simp only at h
      split at h
      next => cases h
      next =>
        split at h
        next => cases h
        next rest last hrest =>
          cases h
          -- The balance handed on is read off the result of this transaction, which is
          -- the balance in the database only when the EVM reports the coinbase.
          have hnext : R.ReportsCoinbase bs.env →
              coinbaseBalanceAfter bs.coinbase r.state =
                (db.commit r.state).view.balance bs.coinbase := by
            intro hreports
            obtain ⟨acct, hget, htouched, hdestroyed⟩ := hreports _ _ _ hr
            have hcoinbase : r.state.get bs.coinbase = some acct := hget
            rw [SimulationDB.view_commit, ChainState.balance_commit hcoinbase htouched hdestroyed]
            unfold coinbaseBalanceAfter
            rw [hcoinbase]
            rfl
          obtain ⟨hmap, hexec, hview⟩ := ih hrest hnext
          rw [SimulationDB.view_commit] at hexec hview
          refine ⟨by rw [List.map_cons, hmap], ⟨⟨r, before, hr, ?_, hbefore⟩, hexec⟩, hview⟩
          rw [bs.buildConfig.basefee_eq]
          rfl

/-- The two ways a refund is simulated: there is none to make, or the builder's
transfer of the amount to the recipient succeeds. -/
theorem simulateRefundTx_cases {R : Reth} {bs : BuildState} {db : SimulationDB}
    {b : SimulatedBundle} {refund : Option SimulatedTransaction}
    (h : bs.simulateRefundTx R db b = .ok refund) :
    (refund = none ∧ (b.outcome.refund = 0 ∨ b.bundle.refundRecipient = none)) ∨
    ∃ recipient tx x, refund = some x ∧ b.outcome.refund ≠ 0 ∧
      b.bundle.refundRecipient = some recipient ∧
      bs.createBuilderTransferTransaction R db.view recipient b.outcome.refund = .ok tx ∧
      bs.simulateTxOnDb R db tx = .ok x ∧ x.outcome.evmResult.isSuccess = true := by
  unfold simulateRefundTx at h
  split at h
  next hzero =>
    cases h
    exact .inl ⟨rfl, .inl hzero⟩
  next hne =>
    split at h
    next hnone =>
      cases h
      exact .inl ⟨rfl, .inr hnone⟩
    next recipient hrecipient =>
      split at h
      next => cases h
      next tx htx =>
        split at h
        next => cases h
        next x hx =>
          split at h
          next hsuccess =>
            cases h
            exact .inr ⟨recipient, tx, x, rfl, hne, hrecipient, htx, hx, hsuccess⟩
          next => cases h

/-- A refund is a successful builder transfer; there is none when nothing is
to be refunded or nobody is to receive it. -/
theorem simulateRefundTx_ok {R : Reth} {bs : BuildState} {db : SimulationDB} {b : SimulatedBundle}
    {refund : Option SimulatedTransaction} (h : bs.simulateRefundTx R db b = .ok refund) :
    (b.outcome.refund = 0 ∨ b.bundle.refundRecipient = none → refund = none) ∧
      ∀ s, refund = some s → IsBuilderTransfer R bs s.tx ∧ ExecutedOn R bs.env db.view s ∧
        s.outcome.evmResult.isSuccess = true := by
  rcases simulateRefundTx_cases h with ⟨rfl, _⟩ | ⟨recipient, tx, x, rfl, hne, hsome, htx, hx, hok⟩
  · exact ⟨fun _ => rfl, fun s hs => absurd hs (by simp)⟩
  · obtain ⟨hxtx, hexec⟩ := simulateTxOnDb_ok hx
    obtain ⟨nonce, hnonce⟩ := createBuilderTransferTransaction_ok htx
    refine ⟨fun hnone => ?_, fun s hs => ?_⟩
    · rcases hnone with hzero | hnobody
      · exact absurd hzero hne
      · rw [hsome] at hnobody
        cases hnobody
    · cases hs
      exact ⟨⟨nonce, recipient, _, hxtx.trans hnonce⟩, hexec, hok⟩

/-- What a simulated bundle was put together from: the loop over its
transactions, and the refund simulated on the database the loop left. -/
theorem simulateBundle_cases {R : Reth} {bs : BuildState} {db : ExecutionDB}
    {bundle : RecoveredBundle} {b : SimulatedBundle} (h : bs.simulateBundle R db bundle = .ok b) :
    ∃ sims db' refund,
      bs.simulateBundleTxs R bundle.recoveredTxs (db.view.balance bs.coinbase) (simulationDb db) =
        .ok (sims, db') ∧
      bs.simulateRefundTx R db' (.new bundle sims bs.buildConfig.basefee) = .ok refund ∧
      b = refund.toList.foldl SimulatedBundle.addTx (.new bundle sims bs.buildConfig.basefee) := by
  unfold simulateBundle at h
  split at h
  next => cases h
  next acct hacct =>
    -- The throw-away database starts with the view of the execution db.
    have hbefore := ChainState.balance_of_basic hacct
    rw [SimulationDB.view_simulationDb] at hbefore
    rw [hbefore] at h
    split at h
    next => cases h
    next sims db' hsims =>
      simp only at h
      split at h
      next => cases h
      next x hrefund =>
        cases h
        exact ⟨sims, db', some x, hsims, hrefund, rfl⟩
      next hrefund =>
        cases h
        exact ⟨sims, db', none, hsims, hrefund, rfl⟩

/-- **A simulated bundle**: its transactions, executed in order, and at most
one builder transfer after them. -/
theorem simulateBundle_ok {R : Reth} {bs : BuildState} {db : ExecutionDB}
    {bundle : RecoveredBundle} {b : SimulatedBundle} (h : bs.simulateBundle R db bundle = .ok b) :
    ∃ sims refunds, sims.map (·.tx) = bundle.recoveredTxs ∧ refunds.length ≤ 1 ∧
      (∀ s ∈ refunds, IsBuilderTransfer R bs s.tx ∧ s.outcome.evmResult.isSuccess = true) ∧
      (SimulatedBundle.calculateRefund bundle sims bs.buildConfig.basefee = 0 ∨
        bundle.refundRecipient = none → refunds = []) ∧
      Executes R bs.env db.view (sims ++ refunds) ∧
      b = refunds.foldl SimulatedBundle.addTx
        (SimulatedBundle.new bundle sims bs.buildConfig.basefee) := by
  obtain ⟨sims, db', refund, hsims, hrefund, hb⟩ := simulateBundle_cases h
  have hbefore : R.ReportsCoinbase bs.env →
      db.view.balance bs.coinbase = (simulationDb db).view.balance bs.coinbase := by
    intro _
    rw [SimulationDB.view_simulationDb]
  obtain ⟨hmap, hexec, hview⟩ := simulateBundleTxs_ok _ hsims hbefore
  rw [SimulationDB.view_simulationDb] at hexec hview
  obtain ⟨hnone, hsome⟩ := simulateRefundTx_ok hrefund
  refine ⟨sims, refund.toList, hmap, ?_, ?_, ?_, ?_, hb⟩
  · cases refund with
    | none => exact Nat.zero_le 1
    | some x => exact Nat.le_refl 1
  · intro s hs
    obtain ⟨htransfer, _, hsuccess⟩ := hsome s (Option.mem_toList.mp hs)
    exact ⟨htransfer, hsuccess⟩
  · intro hno
    rw [hnone hno]
    rfl
  · refine (along_append _ _ _).mpr ⟨hexec, ?_⟩
    cases refund with
    | none => trivial
    | some x =>
      rw [hview] at hsome
      exact ⟨(hsome x rfl).2.1, trivial⟩

end BuildState

/-! ## The sums of a verified bundle -/

/-- The aggregate of a bundle, with what was added to it, covers all of it when
no revert is reported; then none of its transactions reverted against the rules. -/
theorem SimulatedBundle.sums_of_not_reverted {bundle : RecoveredBundle}
    {sims : List SimulatedTransaction} {baseFee : UInt64} : ∀ (refunds : List SimulatedTransaction),
    (refunds.foldl addTx (new bundle sims baseFee)).outcome.reverted = none →
    (∀ s ∈ sims, BundleSimulationOutcome.disallowedRevert bundle s = false) ∧
    (refunds.foldl addTx (new bundle sims baseFee)).simulatedTxs = sims ++ refunds ∧
    (refunds.foldl addTx (new bundle sims baseFee)).outcome =
      { reverted := none
        gasUsed := gasSum (sims ++ refunds)
        blobGasUsed := blobGasSum (sims ++ refunds)
        fees := feeSum (sims ++ refunds)
        coinbaseTransfer := transferSum (sims ++ refunds)
        refund := calculateRefund bundle sims baseFee } := by
  intro refunds
  induction refunds using List.reverseRecOn with
  | nil =>
    intro hrev
    obtain ⟨hallowed, hsums⟩ := @BundleSimulationOutcome.fromTxs_complete bundle sims hrev
    refine ⟨hallowed, ?_, ?_⟩
    · simp [new]
    · simp [new, hsums]
  | append_singleton refunds s ih =>
    intro hrev
    rw [List.foldl_append] at hrev ⊢
    obtain ⟨hallowed, htxs, houtcome⟩ := ih hrev
    refine ⟨hallowed, ?_, ?_⟩
    · simp [addTx, htxs]
    · rw [← List.append_assoc, gasSum_append, blobGasSum_append, feeSum_append, transferSum_append]
      simp [addTx, BundleSimulationOutcome.addTxOutcome, houtcome]

/-! ## Calls and runs of calls -/

/-- A build in progress: the build state and its execution db. -/
abbrev Session := BuildState × ExecutionDB

/-- The calls that execute something. -/
inductive BuildOp where
  | transaction (tx : TransactionSignedEcRecovered)
  | bundle (bundle : RecoveredBundle)

namespace BuildOp

def execute (R : Reth) (s : Session) : BuildOp → Except BuildStateExecutionError Session
  | transaction tx => s.1.executeTransaction R s.2 tx
  | bundle b => s.1.executeBundle R s.2 b

/-- The session after a call: a call that fails leaves it as it was. -/
def step (R : Reth) (s : Session) (op : BuildOp) : Session :=
  match op.execute R s with
  | .ok s' => s'
  | .error _ => s

/-- The transactions a call brings. -/
def txs : BuildOp → List TransactionSignedEcRecovered
  | transaction tx => [tx]
  | bundle b => b.recoveredTxs

/-- The transactions a call includes: its own, and for a bundle at most one
successful builder transfer after them, none if it refunds nothing. -/
def Includes (R : Reth) (bs : BuildState) : BuildOp → List SimulatedTransaction → Prop
  | transaction tx, sims => ∃ sim, sims = [sim] ∧ sim.tx = tx
  | bundle b, sims => ∃ user refunds, sims = user ++ refunds ∧
      user.map (·.tx) = b.recoveredTxs ∧ refunds.length ≤ 1 ∧
      (∀ s ∈ refunds, bs.IsBuilderTransfer R s.tx ∧ s.outcome.evmResult.isSuccess = true) ∧
      (SimulatedBundle.calculateRefund b user bs.buildConfig.basefee = 0 ∨
        b.refundRecipient = none → refunds = [])

end BuildOp

/-- The room a build state still has for a list of simulated transactions,
beside the builder's payment, as the code computes it. -/
structure BuildState.Fits (bs : BuildState) (sims : List SimulatedTransaction) : Prop where
  gas : bs.execDetails.cumulativeGasUsed + gasSum sims + MAX_BUILDER_TRANSFER_GAS_LIMIT
    ≤ bs.buildConfig.blockGasLimit
  blobGas : bs.execDetails.cumulativeBlobGasUsed + blobGasSum sims ≤ MAX_DATA_GAS_PER_BLOCK

/-- What a successful call has committed. -/
structure Committed (R : Reth) (s : Session) (op : BuildOp) (sims : List SimulatedTransaction) :
    Prop where
  executes : Executes R s.1.env s.2.view sims
  fits : s.1.Fits sims
  includes : op.Includes R s.1 sims

/-- What a call commits: its own transactions, and for a bundle perhaps a refund. -/
theorem Committed.split {R : Reth} {s : Session} {op : BuildOp} {more : List SimulatedTransaction}
    (h : Committed R s op more) :
    ∃ user refunds, more = user ++ refunds ∧ user.map (·.tx) = op.txs ∧ refunds.length ≤ 1 ∧
      ∀ x ∈ refunds, s.1.IsBuilderTransfer R x.tx := by
  cases op with
  | transaction tx =>
    obtain ⟨sim, rfl, htx⟩ := h.includes
    refine ⟨[sim], [], rfl, ?_, Nat.zero_le 1, fun x hx => absurd hx (by simp)⟩
    rw [List.map_singleton, htx]
    rfl
  | bundle b =>
    obtain ⟨user, refunds, rfl, hmap, hlength, htransfers, _⟩ := h.includes
    exact ⟨user, refunds, rfl, hmap, hlength, fun x hx => (htransfers x hx).1⟩

namespace BuildOp

variable {R : Reth} {s s' : Session} {op : BuildOp}

theorem verifySimulatedTransaction_ok {bs : BuildState} {sim : SimulatedTransaction}
    (h : bs.verifySimulatedTransaction sim = .ok ()) : bs.Fits [sim] := by
  unfold BuildState.verifySimulatedTransaction at h
  split at h
  next => cases h
  next hgas =>
    split at h
    next => cases h
    next hblob =>
      refine ⟨?_, ?_⟩
      · simpa using hgas
      · simpa using hblob

theorem verifySimulatedBundle_ok {bs : BuildState} {b : SimulatedBundle}
    (h : bs.verifySimulatedBundle b = .ok ()) :
    b.outcome.reverted = none ∧
      bs.execDetails.cumulativeGasUsed + b.outcome.gasUsed + MAX_BUILDER_TRANSFER_GAS_LIMIT
        ≤ bs.buildConfig.blockGasLimit ∧
      bs.execDetails.cumulativeBlobGasUsed + b.outcome.blobGasUsed ≤ MAX_DATA_GAS_PER_BLOCK := by
  unfold BuildState.verifySimulatedBundle at h
  split at h
  next => cases h
  next hrev =>
    split at h
    next => cases h
    next hgas =>
      split at h
      next => cases h
      next hblob => exact ⟨hrev, UInt64.not_lt.mp hgas, UInt64.not_lt.mp hblob⟩

/-- **What a successful call does.** -/
theorem execute_ok (h : op.execute R s = .ok s') :
    ∃ sims, s' = s.1.commit s.2 sims ∧ Committed R s op sims := by
  cases op with
  | transaction tx =>
    replace h : s.1.executeTransactionSkipVerify R s.2 tx false = .ok s' := h
    unfold BuildState.executeTransactionSkipVerify at h
    split at h
    next => cases h
    next sim hsim =>
      obtain ⟨htx, hexec⟩ := BuildState.simulateTxOnDb_ok hsim
      rw [SimulationDB.view_simulationDb] at hexec
      simp only [Bool.false_eq_true, if_false] at h
      split at h
      next => cases h
      next hverify =>
        cases h
        exact ⟨[sim], rfl, ⟨hexec, trivial⟩, verifySimulatedTransaction_ok hverify, sim, rfl, htx⟩
  | bundle bundle =>
    replace h : s.1.executeBundle R s.2 bundle = .ok s' := h
    unfold BuildState.executeBundle at h
    split at h
    next => cases h
    next b hb =>
      split at h
      next => cases h
      next hverify =>
        cases h
        obtain ⟨user, refunds, hmap, hlen, htransfers, hnone, hexec, rfl⟩ :=
          BuildState.simulateBundle_ok hb
        obtain ⟨hrev, hgas, hblob⟩ := verifySimulatedBundle_ok hverify
        -- The room was checked on the aggregate; it is the sum over what is committed.
        obtain ⟨_, htxs, houtcome⟩ := SimulatedBundle.sums_of_not_reverted refunds hrev
        rw [houtcome] at hgas hblob
        rw [htxs]
        exact ⟨user ++ refunds, rfl, hexec, ⟨hgas, hblob⟩,
          user, refunds, rfl, hmap, hlen, htransfers, hnone⟩

theorem step_of_ok (op : BuildOp) (h : op.execute R s = .ok s') : step R s op = s' := by
  unfold step
  rw [h]

theorem step_of_error {err : BuildStateExecutionError} (h : op.execute R s = .error err) :
    step R s op = s := by
  unfold step
  rw [h]

/-- A step either changes nothing or commits what a successful call commits. -/
theorem step_cases (R : Reth) (s : Session) (op : BuildOp) :
    step R s op = s ∨ ∃ sims, step R s op = s.1.commit s.2 sims ∧ Committed R s op sims := by
  cases h : op.execute R s with
  | error err => exact .inl (step_of_error h)
  | ok s' =>
    rw [step_of_ok op h]
    exact .inr (execute_ok h)

/-- **A run is one commit of one executed log**, of transactions that the calls bring
and transfers of the builder. -/
theorem run_commits (R : Reth) : ∀ (ops : List BuildOp) (s : Session),
    ∃ sims, run (step R) s ops = s.1.commit s.2 sims ∧ Executes R s.1.env s.2.view sims ∧
      ∀ sim ∈ sims, (∃ op ∈ ops, sim.tx ∈ op.txs) ∨ s.1.IsBuilderTransfer R sim.tx := by
  intro ops
  induction ops with
  | nil => exact fun s => ⟨[], rfl, trivial, fun sim hsim => absurd hsim (by simp)⟩
  | cons op ops ih =>
    intro s
    obtain ⟨rest, hrun, hrest, hfrom⟩ := ih (step R s op)
    rw [Lib.run_cons]
    rcases step_cases R s op with hsame | ⟨sims, hstep, hcommitted⟩
    · rw [hsame] at hrun hrest hfrom ⊢
      refine ⟨rest, hrun, hrest, fun sim hsim => (hfrom sim hsim).imp_left ?_⟩
      intro hbrought
      obtain ⟨op', hop', htx⟩ := hbrought
      exact ⟨op', List.mem_cons_of_mem _ hop', htx⟩
    · rw [hstep] at hrun hrest hfrom ⊢
      rw [BuildState.env_commit, BuildState.view_commit] at hrest
      refine ⟨sims ++ rest, ?_, (along_append _ _ _).mpr ⟨hcommitted.executes, hrest⟩, ?_⟩
      · rw [hrun, BuildState.commit_append]
      · intro sim hsim
        rcases List.mem_append.mp hsim with hhere | hlater
        · obtain ⟨user, refunds, rfl, hmap, -, htransfers⟩ := hcommitted.split
          rcases List.mem_append.mp hhere with huser | hrefund
          · refine .inl ⟨op, List.mem_cons_self .., ?_⟩
            rw [← hmap]
            exact List.mem_map_of_mem huser
          · exact .inr (htransfers sim hrefund)
        · rcases hfrom sim hlater with ⟨op', hop', htx⟩ | htransfer
          · exact .inl ⟨op', List.mem_cons_of_mem _ hop', htx⟩
          · exact .inr ((BuildState.isBuilderTransfer_congr (BuildState.buildConfig_commit ..)
              (BuildState.payloadConfig_commit ..)).mp htransfer)

theorem run_eq_commit (R : Reth) (ops : List BuildOp) (s : Session) :
    ∃ sims, run (step R) s ops = s.1.commit s.2 sims ∧ Executes R s.1.env s.2.view sims := by
  obtain ⟨sims, hrun, hexec, -⟩ := run_commits R ops s
  exact ⟨sims, hrun, hexec⟩

/-- A run keeps the configuration. -/
theorem buildConfig_run (R : Reth) (ops : List BuildOp) (s : Session) :
    (run (step R) s ops).1.buildConfig = s.1.buildConfig := by
  obtain ⟨sims, hrun, _⟩ := run_eq_commit R ops s
  rw [hrun, BuildState.buildConfig_commit]

theorem payloadConfig_run (R : Reth) (ops : List BuildOp) (s : Session) :
    (run (step R) s ops).1.payloadConfig = s.1.payloadConfig := by
  obtain ⟨sims, hrun, _⟩ := run_eq_commit R ops s
  rw [hrun, BuildState.payloadConfig_commit]

end BuildOp

end BlockBuilder
