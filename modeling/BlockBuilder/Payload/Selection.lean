import BlockBuilder.Payload.TransferSlot

/-!
# The selection of bundles

`commit_selected_bundles` is to be a greedy selection that skips the bundles
that fail real time execution: `greedy` is that fold. The loop follows it
except for one arm of an error: what the EVM answers when it rejects a
transaction comes back as a `PayloadBuilder` error, and that arm returns.

`selection_greedy_iff` says exactly when the two agree, on a database that can
be read: when no bundle that is tried has a transaction the EVM rejects in its
turn. Two bundles that spend one nonce are enough to part them.
-/

namespace BlockBuilder

open Lib (run Along)

/-! ## The greedy selection -/

/-- Commit a bundle, or skip it: for an OFAC transaction, for a transaction that
is committed already, or for any failure. -/
def greedyStep (R : Reth) (acc : List B256 × Session) (b : SimulatedBundle) : List B256 × Session :=
  if b.containsOfac then acc
  else if b.containsCommittedTransaction acc.1 then acc
  else
    match acc.2.1.executeBundle R acc.2.2 b.bundle with
    | .ok s' => (acc.1 ++ b.bundle.txs, s')
    | .error _ => acc

/-- The greedy selection, from the transactions committed so far. -/
def greedy (R : Reth) (processed : List SimulatedBundle) (acc : List B256 × Session) :
    List B256 × Session :=
  run (greedyStep R) acc processed

/-! ## What aborts the loop -/

/-- Every account can be read. -/
def ReadsOk (s : ChainState) : Prop := ∀ a, ∃ acct, s a = .ok acct

/-- The EVM accepts the transactions in turn, up to the first that loads a blacklisted address. -/
def AcceptedInTurn (R : Reth) (env : Env) : ChainState → List TransactionSignedEcRecovered → Prop
  | _, [] => True
  | s, tx :: txs =>
    match R.transact env s tx with
    | .error _ => False
    | .ok r =>
      r.state.any (fun e => Address.containsOfacAddresses e.1) = true ∨
        AcceptedInTurn R env (s.commit r.state) txs

instance decidableAcceptedInTurn (R : Reth) (env : Env) :
    ∀ (s : ChainState) (txs : List TransactionSignedEcRecovered),
      Decidable (AcceptedInTurn R env s txs)
  | _, [] => .isTrue trivial
  | s, tx :: txs =>
    match h : R.transact env s tx with
    | .error _ => .isFalse (by simp [AcceptedInTurn, h])
    | .ok r =>
      have := decidableAcceptedInTurn R env (s.commit r.state) txs
      decidable_of_iff (r.state.any (fun e => Address.containsOfacAddresses e.1) = true ∨
        AcceptedInTurn R env (s.commit r.state) txs) (by simp [AcceptedInTurn, h])

/-- A bundle is passed over before it is tried, or the EVM accepts its transactions in turn. -/
def PassedOrAccepted (R : Reth) (acc : List B256 × Session) (b : SimulatedBundle) : Prop :=
  b.containsOfac = true ∨ b.containsCommittedTransaction acc.1 = true ∨
    AcceptedInTurn R acc.2.1.env acc.2.2.view b.bundle.recoveredTxs

instance (R : Reth) (acc : List B256 × Session) (b : SimulatedBundle) :
    Decidable (PassedOrAccepted R acc b) :=
  inferInstanceAs (Decidable (_ ∨ _ ∨ _))

/-- The errors that abort the loop. -/
def BuildStateExecutionError.isPayloadBuilder : BuildStateExecutionError → Bool
  | .payloadBuilder _ => true
  | _ => false

/-- An outcome is clean when no account the execution loaded is blacklisted. -/
theorem containsOfacAddresses_eq_none_iff (o : TransactionSimulationOutcome) :
    o.containsOfacAddresses = none ↔
      ¬ o.evmState.any (fun e => Address.containsOfacAddresses e.1) = true := by
  unfold TransactionSimulationOutcome.containsOfacAddresses
  rw [Option.map_eq_none_iff, List.find?_eq_none, List.any_eq_true]
  constructor
  · intro hnone hexists
    obtain ⟨e, he, hofac⟩ := hexists
    exact hnone e he hofac
  · intro hnone e he hofac
    exact hnone ⟨e, he, hofac⟩

/-- The loop over a bundle fails with a `PayloadBuilder` error if and only if a
transaction is rejected in its turn. -/
theorem simulateBundleTxs_accepted {R : Reth} {bs : BuildState} :
    ∀ (txs : List TransactionSignedEcRecovered) {before : U256} {db : SimulationDB},
    AcceptedInTurn R bs.env db.view txs ↔
      ∀ err, bs.simulateBundleTxs R txs before db = .error err → err.isPayloadBuilder = false := by
  intro txs
  induction txs with
  | nil =>
    intro before db
    exact ⟨fun _ err herr => (by cases herr), fun _ => trivial⟩
  | cons tx txs ih =>
    intro before db
    unfold AcceptedInTurn BuildState.simulateBundleTxs
    cases hr : R.transact bs.env db.view tx with
    | error e =>
      constructor
      · intro hfalse
        exact absurd hfalse id
      · intro hnone
        exact absurd (hnone _ rfl) (by simp [BuildStateExecutionError.isPayloadBuilder])
    | ok r =>
      simp only
      have hclean := containsOfacAddresses_eq_none_iff
        (BuildState.simulationOutcome R bs.coinbase bs.buildConfig.basefee before tx r)
      split
      next address hfound =>
        -- the loop ends here, with an error of its own
        rw [hfound] at hclean
        have hofac := Classical.not_not.mp fun h => by cases hclean.mpr h
        constructor
        · intro _ err herr
          cases herr
          rfl
        · exact fun _ => .inl hofac
      next hnone =>
        have hnot : ¬ r.state.any (fun e => Address.containsOfacAddresses e.1) = true :=
          hclean.mp hnone
        have hnext := @ih (BuildState.coinbaseBalanceAfter bs.coinbase r.state) (db.commit r.state)
        rw [SimulationDB.view_commit] at hnext
        rw [or_iff_right hnot, hnext]
        split
        next err herr =>
          rw [herr]
        next sims db' hsims =>
          rw [hsims]
          exact ⟨fun _ e he => (by cases he), fun _ e he => (by cases he)⟩

theorem verifySimulatedBundle_error {bs : BuildState} {b : SimulatedBundle}
    {err : BuildStateExecutionError} (h : bs.verifySimulatedBundle b = .error err) :
    err.isPayloadBuilder = false := by
  unfold BuildState.verifySimulatedBundle at h
  split at h
  next => cases h; rfl
  next =>
    split at h
    next => cases h; rfl
    next =>
      split at h
      next => cases h; rfl
      next => cases h

/-- **Where an execution aborts the selection.** On a database that can be read,
a bundle fails with a `PayloadBuilder` error if and only if a transaction of it
is rejected in its turn. -/
theorem executeBundle_accepted {R : Reth} {bs : BuildState} {db : ExecutionDB}
    (hreads : ReadsOk db.view) (b : RecoveredBundle) :
    AcceptedInTurn R bs.env db.view b.recoveredTxs ↔
      ∀ err, bs.executeBundle R db b = .error err → err.isPayloadBuilder = false := by
  have hbasic : ∃ acct, (simulationDb db).view.basic bs.coinbase = .ok acct := by
    rw [SimulationDB.view_simulationDb]
    exact ChainState.basic_ok_iff.mpr (hreads bs.coinbase)
  obtain ⟨acct, hacct⟩ := hbasic
  have htxs := @simulateBundleTxs_accepted R bs b.recoveredTxs ((acct.map (·.balance)).getD 0)
    (simulationDb db)
  rw [SimulationDB.view_simulationDb] at htxs
  rw [htxs]
  unfold BuildState.executeBundle BuildState.simulateBundle
  rw [hacct]
  simp only
  cases hsims : bs.simulateBundleTxs R b.recoveredTxs ((acct.map (·.balance)).getD 0)
      (simulationDb db) with
  | error e =>
    simp only
    constructor
    · intro hnone err herr
      cases herr
      exact hnone _ rfl
    · intro hnone err herr
      cases herr
      exact hnone _ rfl
  | ok out =>
    -- no later failure is a `PayloadBuilder` error: those of the refund are wrapped
    refine ⟨fun _ err herr => ?_, fun _ err herr => (by cases herr)⟩
    simp only at herr
    split at herr
    next e he =>
      cases herr
      split at he
      next => cases he; rfl
      next => cases he
      next => cases he
    next simulated _ =>
      split at herr
      next e he =>
        cases herr
        exact verifySimulatedBundle_error he
      next => cases herr

/-! ## The selection loop -/

theorem readsOk_greedyStep {R : Reth} {acc : List B256 × Session} (h : ReadsOk acc.2.2.view)
    (b : SimulatedBundle) : ReadsOk (greedyStep R acc b).2.2.view := by
  unfold greedyStep
  split
  next => exact h
  next =>
    split
    next => exact h
    next =>
      split
      next s' hs' =>
        have hexec : BuildOp.execute R acc.2 (.bundle b.bundle) = .ok s' := hs'
        obtain ⟨sims, rfl, _⟩ := BuildOp.execute_ok hexec
        simp only
        rw [BuildState.view_commit]
        exact fun a => ChainState.after_ok sims (h a)
      next => exact h

/-- A bundle that is passed over or accepted takes the loop where it takes the fold. -/
theorem commitSelectedBundles_cons {R : Reth} {committed : List B256} {s : Session}
    {b : SimulatedBundle} (hreads : ReadsOk s.2.view) (processed : List SimulatedBundle)
    (h : PassedOrAccepted R (committed, s) b) :
    BundlesStrat.commitSelectedBundles R (b :: processed) committed s =
      BundlesStrat.commitSelectedBundles R processed (greedyStep R (committed, s) b).1
        (greedyStep R (committed, s) b).2 := by
  unfold PassedOrAccepted at h
  rw [BundlesStrat.commitSelectedBundles, greedyStep]
  by_cases hofac : b.containsOfac = true
  · rw [if_pos hofac, if_pos hofac]
  · rw [if_neg hofac, if_neg hofac]
    by_cases hshares : b.containsCommittedTransaction committed = true
    · rw [if_pos hshares, if_pos hshares]
    · rw [if_neg hshares, if_neg hshares]
      rw [or_iff_right hofac, or_iff_right hshares] at h
      have hnone := (executeBundle_accepted hreads b.bundle).mp h
      cases hexec : s.1.executeBundle R s.2 b.bundle with
      | ok s' => rfl
      | error err =>
        -- Of the failures, only `payloadBuilder` leaves the loop.
        have herr := hnone err hexec
        cases err with
        | payloadBuilder e => cases herr
        | _ => rfl

/-- Any other bundle aborts it. -/
theorem commitSelectedBundles_cons_error {R : Reth} {committed : List B256} {s : Session}
    {b : SimulatedBundle} (hreads : ReadsOk s.2.view) (processed : List SimulatedBundle)
    (h : ¬ PassedOrAccepted R (committed, s) b) :
    ∃ err, BundlesStrat.commitSelectedBundles R (b :: processed) committed s = (.error err, s) := by
  unfold PassedOrAccepted at h
  rw [not_or, not_or] at h
  obtain ⟨hofac, hshares, hrejected⟩ := h
  rw [executeBundle_accepted hreads] at hrejected
  rw [BundlesStrat.commitSelectedBundles, if_neg hofac, if_neg hshares]
  cases hexec : s.1.executeBundle R s.2 b.bundle with
  | ok s' =>
    refine absurd (fun err herr => ?_) hrejected
    rw [hexec] at herr
    cases herr
  | error err =>
    cases err with
    | payloadBuilder e => exact ⟨e, rfl⟩
    | _ =>
      refine absurd (fun err herr => ?_) hrejected
      rw [hexec] at herr
      cases herr
      rfl

/-- **When the selection is greedy.** On a database that can be read, the loop
returns the greedy selection, in its result and its effect, if and only if each
bundle that is tried has its transactions accepted by the EVM in turn. -/
theorem selection_greedy_iff {R : Reth} (processed : List SimulatedBundle) :
    ∀ (committed : List B256) (s : Session), ReadsOk s.2.view →
    (BundlesStrat.commitSelectedBundles R processed committed s =
        (.ok (greedy R processed (committed, s)).1, (greedy R processed (committed, s)).2) ↔
      Along (greedyStep R) (PassedOrAccepted R) (committed, s) processed) := by
  induction processed with
  | nil => exact fun _ _ _ => ⟨fun _ => trivial, fun _ => rfl⟩
  | cons b processed ih =>
    intro committed s hreads
    by_cases hgoes : PassedOrAccepted R (committed, s) b
    · rw [commitSelectedBundles_cons hreads processed hgoes]
      have hrest := ih (greedyStep R (committed, s) b).1 (greedyStep R (committed, s) b).2
        (readsOk_greedyStep hreads b)
      refine hrest.trans ⟨fun halong => ⟨hgoes, halong⟩, fun halong => halong.2⟩
    · obtain ⟨err, herr⟩ := commitSelectedBundles_cons_error hreads processed hgoes
      rw [herr]
      constructor
      · intro heq
        cases congrArg Prod.fst heq
      · intro halong
        exact absurd halong.1 hgoes

/-- Bundles of one transfer each, processed in the slot. -/
def processedTransfers (transfers : List Bytes) : List SimulatedBundle :=
  BundlesStrat.decodeAndFilterBundles transferChain
    (transferArguments (transferProposer 5 30000000) 4
      (transfers.zipIdx.map fun t => transferBundle (BitVec.ofNat 256 t.2) [t.1] none) [])
    transferStart

theorem transferStart_readsOk : ReadsOk transferStart.2.view := by
  intro a
  show ∃ acct, transferState a = .ok acct
  unfold transferState
  split
  next => exact ⟨_, rfl⟩
  next =>
    split
    next => exact ⟨_, rfl⟩
    next => exact ⟨_, rfl⟩

/-- Two senders are both served. -/
theorem selection_greedy_transfers :
    BundlesStrat.commitSelectedBundles transferChain
        (processedTransfers [[1, 0, 2, 5, 200], [2, 0, 1, 6, 100]]) [] transferStart =
      (.ok (greedy transferChain (processedTransfers [[1, 0, 2, 5, 200], [2, 0, 1, 6, 100]])
          ([], transferStart)).1,
        (greedy transferChain (processedTransfers [[1, 0, 2, 5, 200], [2, 0, 1, 6, 100]])
          ([], transferStart)).2) := by
  refine (selection_greedy_iff _ [] transferStart transferStart_readsOk).mpr ?_
  decide +kernel

/-- Three bundles, the first two of which spend the first nonce of account 1. -/
def conflictingTransfers : List SimulatedBundle :=
  processedTransfers [[1, 0, 2, 5, 200], [1, 0, 2, 6, 100], [2, 0, 1, 7, 50]]

/-- What aborted a selection, and how many transactions it had committed. -/
def selectionError (processed : List SimulatedBundle) : Option (PayloadBuilderError × Nat) :=
  match BundlesStrat.commitSelectedBundles transferChain processed [] transferStart with
  | (.ok _, _) => none
  | (.error err, s) => some (err, s.1.execDetails.executedTxs.length)

/-- The second bundle aborts the selection, and the third is never tried. -/
theorem nonce_conflict_aborts :
    ReadsOk transferStart.2.view ∧
    selectionError conflictingTransfers =
      some (.evmExecutionError (.transaction (.nonceTooLow 0 1)), 1) ∧
    (greedy transferChain conflictingTransfers
      ([], transferStart)).2.1.execDetails.executedTxs.length
      = 2 ∧
    BundlesStrat.commitSelectedBundles transferChain conflictingTransfers [] transferStart ≠
      (.ok (greedy transferChain conflictingTransfers ([], transferStart)).1,
        (greedy transferChain conflictingTransfers ([], transferStart)).2) := by
  have herror : selectionError conflictingTransfers =
      some (.evmExecutionError (.transaction (.nonceTooLow 0 1)), 1) := by
    decide +kernel
  refine ⟨transferStart_readsOk, herror, by decide +kernel, fun heq => ?_⟩
  unfold selectionError at herror
  rw [heq] at herror
  cases herror

end BlockBuilder
