import BlockBuilder.Payload.TransferSlot

/-!
# Sanctioned addresses

No committed transaction should load an account of the blacklist. The signer and
the recipient are checked before anything is executed, and the loop over a
bundle checks each outcome it simulates. Two outcomes are never looked at: that
of a single transaction, whose internal calls may go anywhere, and that of the
refund the builder appends to a bundle, whose recipient the searcher names.

`BuildOp.Clear` asks of each admitted call just what these checks leave open.
Since a log is determined by its transactions, it decides whether what a run has
committed is untainted, whichever run one takes to explain the result.
-/

namespace BlockBuilder

open Lib (run Along Reaches along_append)
open BuildOp (step)

/-! ## Tainted logs -/

/-- No execution of the log loaded a blacklisted account. -/
def Untainted (sims : List SimulatedTransaction) : Prop :=
  ∀ sim ∈ sims, sim.outcome.containsOfacAddresses = none

theorem untainted_append (xs ys : List SimulatedTransaction) :
    Untainted (xs ++ ys) ↔ Untainted xs ∧ Untainted ys := by
  unfold Untainted
  exact List.forall_mem_append

/-- The accounts an execution loaded are part of its result. -/
theorem untainted_iff_results (sims : List SimulatedTransaction) :
    Untainted sims ↔
      ∀ r ∈ sims.map (fun x => (x.tx, x.outcome.evmResult, x.outcome.evmState)),
        ∀ e ∈ r.2.2, e.1 ∉ OFAC_ADDRESSES := by
  unfold Untainted
  rw [List.forall_mem_map]
  simp only [TransactionSimulationOutcome.containsOfacAddresses_eq_none_iff]

/-- **Two logs that explain one session are tainted alike.** -/
theorem untainted_unique {R : Reth} {s : Session} {sims sims' : List SimulatedTransaction}
    (hexec : Executes R s.1.env s.2.view sims) (hexec' : Executes R s.1.env s.2.view sims')
    (hcommit : s.1.commit s.2 sims = s.1.commit s.2 sims') :
    Untainted sims ↔ Untainted sims' := by
  have hlog := congrArg (fun s' : Session => s'.1.execDetails.executedTxs) hcommit
  simp only [BuildState.execDetails_commit, List.append_cancel_left_eq] at hlog
  rw [untainted_iff_results, untainted_iff_results, hexec.results_unique sims sims' hexec' hlog]

/-- The loop over a bundle stops at the first blacklisted account. -/
theorem BuildState.simulateBundleTxs_untainted {R : Reth} {bs : BuildState} :
    ∀ (txs : List TransactionSignedEcRecovered) {before : U256} {db db' : SimulationDB}
      {sims : List SimulatedTransaction},
      bs.simulateBundleTxs R txs before db = .ok (sims, db') → Untainted sims := by
  intro txs
  induction txs with
  | nil =>
    intro before db db' sims h
    cases h
    exact fun sim hsim => absurd hsim (by simp)
  | cons tx txs ih =>
    intro before db db' sims h
    unfold simulateBundleTxs at h
    split at h
    next => cases h
    next r hr =>
      simp only at h
      split at h
      next => cases h
      next hclear =>
        split at h
        next => cases h
        next rest last hrest =>
          cases h
          intro sim hsim
          rcases List.mem_cons.mp hsim with rfl | hmem
          · exact hclear
          · exact ih hrest sim hmem

/-! ## What the checks leave open -/

/-- If the transaction is admitted, its internal calls load no blacklisted account. -/
def InternalCallsClear (R : Reth) (s : Session) (tx : TransactionSignedEcRecovered) : Prop :=
  ∀ s' r, s.1.executeTransaction R s.2 tx = .ok s' → R.transact s.1.env s.2.view tx = .ok r →
    ∀ e ∈ r.state, e.1 ≠ tx.signer → some e.1 ≠ tx.toAddress → e.1 ∉ OFAC_ADDRESSES

/-- `tx` is the refund a bundle owes, on the chain state its transactions leave. -/
def RefundDue (R : Reth) (s : Session) (b : RecoveredBundle) (state : ChainState)
    (tx : TransactionSignedEcRecovered) : Prop :=
  ∃ sims db recipient,
    s.1.simulateBundleTxs R b.recoveredTxs (s.2.view.balance s.1.coinbase) (simulationDb s.2) =
      .ok (sims, db) ∧ db.view = state ∧
    SimulatedBundle.calculateRefund b sims s.1.buildConfig.basefee ≠ 0 ∧
    b.refundRecipient = some recipient ∧
    s.1.createBuilderTransferTransaction R state recipient
      (SimulatedBundle.calculateRefund b sims s.1.buildConfig.basefee) = .ok tx

/-- If the bundle is admitted, the refund it owes loads no blacklisted account. -/
def RefundClear (R : Reth) (s : Session) (b : RecoveredBundle) : Prop :=
  ∀ s' state tx r, s.1.executeBundle R s.2 b = .ok s' → RefundDue R s b state tx →
    R.transact s.1.env state tx = .ok r → ∀ e ∈ r.state, e.1 ∉ OFAC_ADDRESSES

namespace BuildOp

def Clear (R : Reth) (s : Session) : BuildOp → Prop
  | transaction tx => InternalCallsClear R s tx
  | bundle b => RefundClear R s b

/-- A single transaction has passed the check of its signer and recipient. -/
def Screened : BuildOp → Prop
  | transaction tx => tx.containsOfacAddresses = false
  | bundle _ => True

/-- A call that fails commits nothing. -/
theorem clear_of_error {R : Reth} {s : Session} {op : BuildOp} {err : BuildStateExecutionError}
    (h : op.execute R s = .error err) : op.Clear R s := by
  cases op with
  | transaction tx =>
    intro s' r hok
    exact absurd (h.symm.trans hok) (by simp)
  | bundle b =>
    intro s' state tx r hok
    exact absurd (h.symm.trans hok) (by simp)

end BuildOp

/-- A bundle owes one refund, on one state. -/
theorem RefundDue.unique {R : Reth} {s : Session} {b : RecoveredBundle}
    {state state' : ChainState} {tx tx' : TransactionSignedEcRecovered}
    (h : RefundDue R s b state tx) (h' : RefundDue R s b state' tx') :
    state = state' ∧ tx = tx' := by
  obtain ⟨sims, db, recipient, hsims, rfl, _, hrecipient, htx⟩ := h
  obtain ⟨sims', db', recipient', hsims', rfl, _, hrecipient', htx'⟩ := h'
  rw [hsims] at hsims'
  cases hsims'
  rw [hrecipient] at hrecipient'
  cases hrecipient'
  rw [htx] at htx'
  exact ⟨rfl, Except.ok.inj htx'⟩

/-- What a successful bundle commits: its untainted transactions, and the refund it
owes if it owes one. -/
theorem executeBundle_refund {R : Reth} {s s' : Session} {b : RecoveredBundle}
    (h : s.1.executeBundle R s.2 b = .ok s') :
    ∃ user refunds, s' = s.1.commit s.2 (user ++ refunds) ∧
      Executes R s.1.env s.2.view (user ++ refunds) ∧ Untainted user ∧
      ((refunds = [] ∧ ∀ state tx, ¬ RefundDue R s b state tx) ∨
        ∃ x, refunds = [x] ∧ RefundDue R s b (s.2.view.after user) x.tx ∧
          ExecutedOn R s.1.env (s.2.view.after user) x) := by
  unfold BuildState.executeBundle at h
  split at h
  next => cases h
  next simulated hb =>
    split at h
    next => cases h
    next hverify =>
      cases h
      obtain ⟨user, db, refund, huser, hrefund, rfl⟩ := BuildState.simulateBundle_cases hb
      obtain ⟨hrev, _, _⟩ := BuildOp.verifySimulatedBundle_ok hverify
      obtain ⟨_, htxs, _⟩ := SimulatedBundle.sums_of_not_reverted refund.toList hrev
      obtain ⟨_, hexec, hview⟩ := BuildState.simulateBundleTxs_ok _ huser
        fun _ => congrArg (ChainState.balance · s.1.coinbase)
          (SimulationDB.view_simulationDb s.2).symm
      rw [SimulationDB.view_simulationDb] at hexec hview
      rw [htxs]
      refine ⟨user, refund.toList, rfl, ?_, BuildState.simulateBundleTxs_untainted _ huser, ?_⟩
      · refine (along_append _ _ _).mpr ⟨hexec, ?_⟩
        cases refund with
        | none => trivial
        | some x =>
          have hx := ((BuildState.simulateRefundTx_ok hrefund).2 x rfl).2.1
          rw [hview] at hx
          exact ⟨hx, trivial⟩
      · rcases BuildState.simulateRefundTx_cases hrefund with
          ⟨rfl, hnone⟩ | ⟨recipient, tx, x, rfl, hne, hrecipient, htx, hx, _⟩
        · refine .inl ⟨rfl, fun state tx hdue => ?_⟩
          obtain ⟨sims, db', recipient, hsims, _, hne, hrecipient, _⟩ := hdue
          rw [huser] at hsims
          cases hsims
          rcases hnone with hzero | hnobody
          · exact hne hzero
          · exact absurd (hnobody.symm.trans hrecipient) (by simp)
        · obtain ⟨rfl, hon⟩ := BuildState.simulateTxOnDb_ok hx
          rw [hview] at htx hon
          exact .inr ⟨x, rfl, ⟨user, db, recipient, huser, hview, hne, hrecipient, htx⟩, hon⟩

/-! ## Runs -/

/-- **One call.** What it commits is untainted if and only if it is clear. -/
theorem BuildOp.execute_untainted_iff {R : Reth} {s s' : Session} {op : BuildOp}
    (hscreened : op.Screened) (h : op.execute R s = .ok s') :
    ∃ sims, s' = s.1.commit s.2 sims ∧ Executes R s.1.env s.2.view sims ∧
      (Untainted sims ↔ op.Clear R s) := by
  cases op with
  | transaction tx =>
    obtain ⟨_, hcommit, hcommitted⟩ := execute_ok h
    obtain ⟨sim, rfl, rfl⟩ := hcommitted.includes
    refine ⟨[sim], hcommit, hcommitted.executes, ?_⟩
    obtain ⟨hsigner, hrecipient⟩ :=
      sim.tx.containsOfacAddresses_eq_false_iff.mp hscreened
    have hresult := hcommitted.executes.1.transact
    unfold Untainted
    rw [List.forall_mem_singleton, sim.outcome.containsOfacAddresses_eq_none_iff]
    constructor
    · intro hnone s'' r _ hr e he _ _
      rw [hresult] at hr
      cases hr
      exact hnone e he
    · intro hclear e he
      by_cases hfrom : e.1 = sim.tx.signer
      · rw [hfrom]
        exact hsigner
      · by_cases hto : some e.1 = sim.tx.toAddress
        · exact hrecipient e.1 hto.symm
        · exact hclear s' _ h hresult e he hfrom hto
  | bundle b =>
    replace h : s.1.executeBundle R s.2 b = .ok s' := h
    obtain ⟨user, refunds, hcommit, hexec, huser, hrefunds⟩ := executeBundle_refund h
    refine ⟨user ++ refunds, hcommit, hexec, ?_⟩
    rw [untainted_append]
    rcases hrefunds with ⟨rfl, hnone⟩ | ⟨x, rfl, hdue, hon⟩
    · constructor
      · intro _ s'' state tx r _ hdue
        exact absurd hdue (hnone state tx)
      · intro _
        exact ⟨huser, fun sim hsim => absurd hsim (by simp)⟩
    · have hresult := hon.transact
      have hone : Untainted [x] ↔ ∀ e ∈ x.outcome.evmState, e.1 ∉ OFAC_ADDRESSES := by
        unfold Untainted
        rw [List.forall_mem_singleton, x.outcome.containsOfacAddresses_eq_none_iff]
      rw [hone]
      constructor
      · intro hall s'' state tx r _ hdue' hr
        obtain ⟨rfl, rfl⟩ := hdue.unique hdue'
        rw [hresult] at hr
        cases hr
        exact hall.2
      · intro hclear
        exact ⟨huser, hclear s' _ _ _ h hdue hresult⟩

/-- **A run of screened calls.** What it commits is untainted if and only if every call is clear. -/
theorem BuildOp.run_untainted_iff (R : Reth) : ∀ (ops : List BuildOp) (s : Session),
    (∀ op ∈ ops, op.Screened) →
    ∃ sims, run (step R) s ops = s.1.commit s.2 sims ∧ Executes R s.1.env s.2.view sims ∧
      (Untainted sims ↔ Along (step R) (Clear R) s ops) := by
  intro ops
  induction ops with
  | nil =>
    intro s _
    exact ⟨[], rfl, trivial, fun _ => trivial, fun _ sim hsim => absurd hsim (by simp)⟩
  | cons op ops ih =>
    intro s hscreened
    obtain ⟨hop, hops⟩ := List.forall_mem_cons.mp hscreened
    rw [Lib.run_cons, Lib.along_cons]
    cases hexec : op.execute R s with
    | error err =>
      obtain ⟨sims, hrun, hsims, hiff⟩ := ih s hops
      rw [step_of_error hexec]
      exact ⟨sims, hrun, hsims, hiff.trans (and_iff_right (clear_of_error hexec)).symm⟩
    | ok s' =>
      obtain ⟨sims, rfl, hsims, hiff⟩ := execute_untainted_iff hop hexec
      obtain ⟨rest, hrun, hrest, hiffRest⟩ := ih (s.1.commit s.2 sims) hops
      rw [BuildState.env_commit, BuildState.view_commit] at hrest
      rw [step_of_ok op hexec]
      refine ⟨sims ++ rest, ?_, (along_append _ _ _).mpr ⟨hsims, hrest⟩, ?_⟩
      · rw [BuildState.commit_append]
        exact hrun
      · rw [untainted_append, hiff, hiffRest]

/-- The same for a loop that is such a run, whichever run explains its result. -/
theorem untainted_iff_of_reaches {R : Reth} {P : BuildOp → Prop}
    (hscreened : ∀ op, P op → op.Screened) {s s' : Session} (h : Reaches (step R) P s s') :
    ∃ sims, s' = s.1.commit s.2 sims ∧ Executes R s.1.env s.2.view sims ∧
      (∃ ops, s' = run (step R) s ops ∧ ∀ op ∈ ops, P op) ∧
      ∀ ops, s' = run (step R) s ops → (∀ op ∈ ops, P op) →
        (Untainted sims ↔ Along (step R) (BuildOp.Clear R) s ops) := by
  obtain ⟨ops, hrun, hops⟩ := h
  obtain ⟨sims, hsims, hexec, _⟩ :=
    BuildOp.run_untainted_iff R ops s fun op hop => hscreened op (hops op hop)
  refine ⟨sims, hrun.trans hsims, hexec, ⟨ops, hrun, hops⟩, fun ops' hrun' hops' => ?_⟩
  obtain ⟨sims', hsims', hexec', hiff⟩ :=
    BuildOp.run_untainted_iff R ops' s fun op hop => hscreened op (hops' op hop)
  have hcommit : s.1.commit s.2 sims = s.1.commit s.2 sims' := by
    rw [← hsims, ← hsims', ← hrun, ← hrun']
  exact (untainted_unique hexec hexec' hcommit).trans hiff

/-! ## The loops over the pool -/

/-- The two loops that take transactions from the pool. -/
inductive MempoolLoop where
  | executeTxs
  | executeMempoolTxs (committed : List B256)

/-- The session a loop ends in. -/
def MempoolLoop.result (R : Reth) (cancelled : Nat → Bool) (best : BestTransactions)
    (s : Session) : MempoolLoop → Session
  | executeTxs => (MempoolStrat.executeTxs R cancelled best 0 s).2
  | executeMempoolTxs committed =>
    (BundlesStrat.executeMempoolTxs R cancelled best 0 committed s).2.2

/-- A blacklisted address. -/
def sanctioned : Address := 0x8576acc5c05d6ce88f4e49bf65bdf0c62f91353c

/-- The transfer chain, where a contract first calls the address in its first
storage slot and then reverts. -/
def relayChain : Reth :=
  { transferChain with
    transact := fun env s tx =>
      (transferChain.transact env s tx).map fun r =>
        let callee := (TransferChain.load s [] (tx.toAddress.getD 0)).storage.head?.map (·.2)
        { r with state := r.state ++ callee.toList.map fun word =>
            (word.setWidth 160, TransferChain.load s [] (word.setWidth 160)) } }

/-- The funded accounts, with the sanctioned address in the storage of the contract at 7. -/
def relayStart : Session :=
  (transferStart.1, .build fun a =>
    if a = 7 then
      .ok (some ⟨{ AccountInfo.default with codeHash := 1 }, [(0, sanctioned.setWidth 256)]⟩)
    else transferState a)

/-- **When the bundles are untainted.** What the selection commits, refunds included,
loads no blacklisted account if and only if no refund of an admitted bundle does. -/
theorem bundles_untainted_iff (R : Reth) (args : BuildArguments) (s : Session) :
    ∃ sims, (BundlesStrat.commitSelectedBundles R
        (BundlesStrat.decodeAndFilterBundles R args s) [] s).2 = s.1.commit s.2 sims ∧
      Executes R s.1.env s.2.view sims ∧
      (∃ ops, (BundlesStrat.commitSelectedBundles R
          (BundlesStrat.decodeAndFilterBundles R args s) [] s).2 = run (step R) s ops ∧
        ∀ op ∈ ops, ∃ b ∈ BundlesStrat.decodeAndFilterBundles R args s, op = .bundle b.bundle) ∧
      ∀ ops, (BundlesStrat.commitSelectedBundles R
          (BundlesStrat.decodeAndFilterBundles R args s) [] s).2 = run (step R) s ops →
        (∀ op ∈ ops, ∃ b ∈ BundlesStrat.decodeAndFilterBundles R args s, op = .bundle b.bundle) →
        (Untainted sims ↔ Along (step R) (BuildOp.Clear R) s ops) := by
  refine untainted_iff_of_reaches (fun op hop => ?_)
    (BundlesStrat.commitSelectedBundles_reaches R _ [] s)
  obtain ⟨b, _, rfl⟩ := hop
  trivial

/-- Every entry of an executed log was executed on some state. -/
theorem Executes.executedOn {R : Reth} {env : Env} : ∀ {sims : List SimulatedTransaction}
    {s : ChainState}, Executes R env s sims → ∀ sim ∈ sims, ∃ state, ExecutedOn R env state sim
  | [], _, _ => fun sim hsim => absurd hsim (by simp)
  | x :: xs, s, h => by
    intro sim hsim
    rcases List.mem_cons.mp hsim with rfl | hmem
    · exact ⟨s, h.1⟩
    · exact Executes.executedOn h.2 sim hmem

/-- A transfer loads its recipient. -/
theorem TransferChain.loads_recipient {env : Env} {state : ChainState} {sim : SimulatedTransaction}
    (h : ExecutedOn transferChain env state sim) :
    ∃ acct, (sim.tx.toAddress.getD 0, acct) ∈ sim.outcome.evmState := by
  obtain ⟨_, _, _, hstate⟩ := transact_ok h.transact
  simp only at hstate
  rw [hstate]
  unfold settle touch
  exact ⟨_, List.mem_cons_of_mem _ (List.mem_cons_self ..)⟩

/-- One bundle of a transfer that tips well and asks for half of it to be sent to a recipient. -/
def refundArguments (recipient : Address) : BuildArguments :=
  transferArguments (transferProposer 5 30000000) 4
    [transferBundle 1 [[1, 0, 2, 5, 200]] (some ⟨50, none, some recipient⟩)] []

/-- A searcher has half of its tip sent to a blacklisted address. -/
theorem sanctioned_refund_committed :
    ∃ sims, (BundlesStrat.commitSelectedBundles transferChain
        (BundlesStrat.decodeAndFilterBundles transferChain (refundArguments sanctioned)
          transferStart) [] transferStart).2 = transferStart.1.commit transferStart.2 sims ∧
      Executes transferChain transferStart.1.env transferStart.2.view sims ∧
      ¬ Untainted sims := by
  have hrecipients : ((BundlesStrat.commitSelectedBundles transferChain
      (BundlesStrat.decodeAndFilterBundles transferChain (refundArguments sanctioned)
        transferStart) [] transferStart).2.1.execDetails.executedTxs.map
          (·.transaction.toAddress)) = [some 2, some sanctioned] := by
    decide +kernel
  obtain ⟨ops, hrun, _⟩ := BundlesStrat.commitSelectedBundles_reaches transferChain
    (BundlesStrat.decodeAndFilterBundles transferChain (refundArguments sanctioned)
      transferStart) [] transferStart
  obtain ⟨sims, hsims, hexec⟩ := BuildOp.run_eq_commit transferChain ops transferStart
  rw [hrun, hsims] at hrecipients
  refine ⟨sims, hrun.trans hsims, hexec, fun huntainted => ?_⟩
  rw [BuildState.execDetails_commit] at hrecipients
  have hmem : some sanctioned ∈ sims.map (·.tx.toAddress) := by
    have hlist : sims.map (·.tx.toAddress) = [some 2, some sanctioned] := by
      rw [← hrecipients]
      show _ = List.map _ ([] ++ _)
      rw [List.nil_append, List.map_map]
      rfl
    rw [hlist]
    exact List.mem_cons_of_mem _ (List.mem_cons_self ..)
  obtain ⟨sim, hsim, hto⟩ := List.mem_map.mp hmem
  obtain ⟨state, hon⟩ := hexec.executedOn sim hsim
  obtain ⟨acct, hloaded⟩ := TransferChain.loads_recipient hon
  rw [hto] at hloaded
  have hclear := sim.outcome.containsOfacAddresses_eq_none_iff.mp (huntainted sim hsim) _ hloaded
  exact hclear (List.mem_cons_self ..)

end BlockBuilder
