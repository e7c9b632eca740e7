import BlockBuilder.Payload.Nonces

/-!
# Without bundles (`strategy/{bundle,mempool}/`)

The two strategies walk the pool with hand-copied loops, which tell the iterator
the same after every failure. The loop of `BundlesStrat` also passes over what is
committed already. When no bundle was, that is what the loop itself has executed,
and `MempoolStrat` comes to the same by executing it again: the EVM finds the
nonce too low, which tells the iterator nothing and changes nothing. So the loops
stay in lockstep over every sequence of results.
-/

namespace BlockBuilder

open Lib (along_append run_append)

/-- A transaction is executed where the coinbase can be read. -/
theorem BuildState.executeTransaction_coinbase {R : Reth} {bs : BuildState} {db : ExecutionDB}
    {tx : TransactionSignedEcRecovered} {s' : Session}
    (h : bs.executeTransaction R db tx = .ok s') : ∃ acct, db.view.basic bs.coinbase = .ok acct := by
  unfold executeTransaction executeTransactionSkipVerify simulateTx simulateTxOnDb at h
  rw [SimulationDB.view_simulationDb] at h
  cases hread : db.view.basic bs.coinbase with
  | error err =>
    rw [hread] at h
    cases h
  | ok acct => exact ⟨acct, rfl⟩

namespace BundlesStrat

/-- The loop over the pool without bundles: `sims` is what it has executed since
`start`, all of it from the pool, and it has committed nothing else. -/
structure Alone (R : Reth) (start : ChainState) (P : TransactionSignedEcRecovered → Prop)
    (committed : List B256) (s : Session) (sims : List SimulatedTransaction) : Prop where
  executes : Executes R s.1.env start sims
  view : s.2.view = start.after sims
  offered : ∀ sim ∈ sims, P sim.tx
  known : ∀ h ∈ committed, ∃ sim ∈ sims, sim.tx.hash = h
  coinbase : sims ≠ [] → ∃ acct, s.2.view.basic s.1.coinbase = .ok acct

variable {R : Reth} {start : ChainState} {P : TransactionSignedEcRecovered → Prop}
  {committed : List B256} {s s' : Session} {sims : List SimulatedTransaction}
  {tx : TransactionSignedEcRecovered}

theorem Alone.nothing (s : Session) : Alone R s.2.view P [] s [] where
  executes := trivial
  view := rfl
  offered sim hsim := absurd hsim (by simp)
  known h hh := absurd hh (by simp)
  coinbase hne := absurd rfl hne

/-- An executed transaction is committed by both. -/
theorem Alone.execute (h : Alone R start P committed s sims) (htx : P tx)
    (hexec : s.1.executeTransaction R s.2 tx = .ok s') :
    ∃ sim, Alone R start P (tx.hash :: committed) s' (sims ++ [sim]) := by
  have hcoinbase := BuildState.executeTransaction_coinbase hexec
  have hcall : BuildOp.execute R s (.transaction tx) = .ok s' := hexec
  obtain ⟨more, rfl, hcommitted⟩ := BuildOp.execute_ok hcall
  obtain ⟨sim, rfl, hsim⟩ := hcommitted.includes
  have hmore := hcommitted.executes
  rw [h.view] at hmore
  refine ⟨sim, ?_, ?_, ?_, ?_, fun _ => ?_⟩
  · rw [BuildState.env_commit]
    exact (along_append _ _ _).mpr ⟨h.executes, hmore⟩
  · rw [BuildState.view_commit, h.view]
    exact (run_append _ _ _).symm
  · intro x hx
    rcases List.mem_append.mp hx with hold | hnew
    · exact h.offered x hold
    · rw [List.mem_singleton.mp hnew, hsim]
      exact htx
  · intro hash hhash
    rcases List.mem_cons.mp hhash with rfl | hold
    · refine ⟨sim, List.mem_append_right _ (List.mem_singleton.mpr rfl), ?_⟩
      rw [hsim]
    · obtain ⟨x, hx, hxhash⟩ := h.known hash hold
      exact ⟨x, List.mem_append_left _ hx, hxhash⟩
  · unfold BuildState.coinbase
    rw [BuildState.view_commit, BuildState.buildConfig_commit]
    exact ChainState.basic_after_ok [sim] hcoinbase

/-- **A replay changes nothing.** What one loop passes over as committed, the other
fails to execute, and tells the iterator nothing about it. -/
theorem Alone.replay (h : Alone R start P committed s sims) (hreplays : R.RejectsReplays)
    (hhashes : ∀ t t', P t → P t' → t.hash = t'.hash → t = t') (htx : P tx)
    (hmem : tx.hash ∈ committed) :
    ∃ err, s.1.executeTransaction R s.2 tx = .error err ∧ mempoolErrorCalls err = some [] := by
  obtain ⟨sim, hsim, hhash⟩ := h.known _ hmem
  have hsame : sim.tx = tx := hhashes sim.tx tx (h.offered sim hsim) htx hhash
  obtain ⟨acct, hread⟩ := h.coinbase (List.ne_nil_of_mem hsim)
  obtain ⟨a, b, hlow⟩ := hreplays s.1.env start sims tx h.executes
    (hsame ▸ List.mem_map_of_mem hsim)
  rw [← h.view] at hlow
  refine ⟨.payloadBuilder (.evmExecutionError (.transaction (.nonceTooLow a b))), ?_, rfl⟩
  unfold BuildState.executeTransaction BuildState.executeTransactionSkipVerify
    BuildState.simulateTx BuildState.simulateTxOnDb
  rw [SimulationDB.view_simulationDb, hread]
  simp only [hlow]

/-- **The loops in lockstep.** -/
theorem executeTxs_eq (cancelled : Nat → Bool) (hreplays : R.RejectsReplays)
    (hhashes : ∀ t t', P t → P t' → t.hash = t'.hash → t = t') (best : BestTransactions) :
    ∀ (i : Nat) {committed : List B256} {s : Session} {sims : List SimulatedTransaction},
      (∀ t, best.Yields t → P t) → Alone R start P committed s sims →
      MempoolStrat.executeTxs R cancelled best i s =
        ((executeMempoolTxs R cancelled best i committed s).1,
          (executeMempoolTxs R cancelled best i committed s).2.2) := by
  induction best with
  | done => exact fun _ _ _ _ _ _ => rfl
  | next tx rest ih =>
    intro i committed s sims hP h
    have htx := hP tx (.head tx rest)
    have hrest : ∀ calls t, (rest calls).Yields t → P t := fun calls t ht => hP t (.tail ht)
    unfold MempoolStrat.executeTxs executeMempoolTxs
    split
    next => rfl
    next =>
      split
      next => exact ih _ (i + 1) (hrest _) h
      next =>
        by_cases hmem : committed.contains tx.hash = true
        · obtain ⟨err, herr, hcalls⟩ :=
            h.replay hreplays hhashes htx (List.contains_iff_mem.mp hmem)
          simp only [hmem, if_true, herr, hcalls]
          exact ih [] (i + 1) (hrest []) h
        · rw [if_neg hmem]
          -- not committed yet: the same call, and the same answer to it
          cases hexec : s.1.executeTransaction R s.2 tx with
          | ok s' =>
            obtain ⟨sim, h'⟩ := h.execute htx hexec
            exact ih [] (i + 1) (hrest []) h'
          | error err =>
            simp only
            cases mempoolErrorCalls err with
            | some calls => exact ih calls (i + 1) (hrest calls) h
            | none => rfl

/-- **Without bundles, `BundlesStrat` is `MempoolStrat`**: the same outcome, with the
same build state or value in it. -/
theorem tryBuild_without_bundles {R : Reth} (hreplays : R.RejectsReplays) (config : PayloadConfig)
    {args : BuildArguments}
    (hbundles : (args.bundlePool.bundles args.acquired args.buildConfig.blockNumber
      args.buildConfig.attributes.timestamp).getD [] = [])
    (hhashes : ∀ t t', args.bestTransactions.Yields t → args.bestTransactions.Yields t' →
      t.hash = t'.hash → t = t') :
    (BundlesStrat.mk config).tryBuild R args = (MempoolStrat.mk config).tryBuild R args := by
  unfold tryBuild MempoolStrat.tryBuild
  cases hstart : startBuild R config args with
  | error err => rfl
  | ok s =>
    have heligible : eligibleBundles args s.1 = [] := by
      obtain ⟨hnew, -⟩ := startBuild_ok hstart
      unfold eligibleBundles
      rw [hnew]
      exact hbundles
    have hnone : decodeAndFilterBundles R args s = [] := by
      unfold decodeAndFilterBundles
      rw [heligible]
      rfl
    have hloops := executeTxs_eq args.cancelled hreplays hhashes args.bestTransactions 0
      (fun t ht => ht) (Alone.nothing s)
    simp only [hnone, commitSelectedBundles, hloops]
    cases hloop : executeMempoolTxs R args.cancelled args.bestTransactions 0 [] s with
    | mk result last =>
      cases result with
      | ok done => rfl
      | error why => cases why <;> rfl

/-- A pool that offers a transaction twice; the only bundle is for another block. -/
theorem tryBuild_without_bundles_twice :
    let a := TransferChain.transfer 1 0 2 5 10 21000
    let b := TransferChain.transfer 2 0 1 8 9 21000
    let args := transferArguments (transferProposer 5 30000000) 4
      [{ transferBundle 1 [[1, 0, 2, 5, 10]] none with blockNumber := 12 }] [a, b, a]
    (BundlesStrat.mk transferConfig).tryBuild cappedChain args =
        (MempoolStrat.mk transferConfig).tryBuild cappedChain args ∧
      ((Strategy.mempoolStrat ⟨transferConfig⟩).betterBuild cappedChain args).map
        (·.execDetails.executedTxs) = some [a.intoSigned, b.intoSigned] := by
  intro a b args
  refine ⟨tryBuild_without_bundles cappedChain_rejectsReplays transferConfig (by rfl) ?_,
    by decide +kernel⟩
  have hlisted : ∀ t, args.bestTransactions.Yields t → t = a ∨ t = b := by
    intro t ht
    have hmem := BestTransactions.mem_of_yields_ofList ht
    simp only [List.mem_cons, List.not_mem_nil, or_false] at hmem
    rcases hmem with h | h | h
    · exact .inl h
    · exact .inr h
    · exact .inl h
  have hdistinct : a.hash ≠ b.hash := by decide +kernel
  intro t t' ht ht' hsame
  rcases hlisted t ht with rfl | rfl <;> rcases hlisted t' ht' with rfl | rfl
  · rfl
  · exact absurd hsame hdistinct
  · exact absurd hsame.symm hdistinct
  · rfl

end BundlesStrat

end BlockBuilder
