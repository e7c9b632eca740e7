import BlockBuilder.Payload.TransferSlot

/-!
# The value of a block

The builder's revenue is what the coinbase gains. It is never measured as such:
each transaction is booked with its tip and with what the coinbase gained
beyond it, both from saturating differences, and the block value is the sum of
the two sums. A transaction the builder did not sign leaves the coinbase with
at least its tip, so its two entries add up to the difference
(`ExecutedOn.value_eq`), and they add up over a log and over a run.

A refund is signed by the builder and takes from the coinbase, which saturates
to nothing. `block_value_is_revenue` holds of the runs that pay none, and
`refund_not_subtracted` is a bundle that is paid one.
-/

namespace BlockBuilder

open Lib (run Along)
open BuildOp (step)

/-! ## What a transaction pays -/

/-- The tip of a transaction for each gas. -/
def Reth.tipPerGas (R : Reth) (env : Env) (tx : TransactionSignedEcRecovered) : U128 :=
  (R.effectiveTipPerGas tx.transaction (some env.block.basefee)).getD 0

/-- What revm does with the coinbase, on the chain states `P` of a chain whose
supply fits 256 bits: it is reported, and a transaction it did not sign leaves
it with at least the tip for the gas used. -/
structure Reth.PaysCoinbase (R : Reth) (env : Env) (P : ChainState → Prop) : Prop where
  reports : R.ReportsCoinbase env
  keeps : ∀ s tx r, P s → R.transact env s tx = .ok r → P (s.commit r.state)
  credits : ∀ s tx r, P s → tx.signer ≠ env.block.coinbase → R.transact env s tx = .ok r →
    (s.balance env.block.coinbase).toNat + (R.tipPerGas env tx).toNat * r.result.gasUsed.toNat ≤
      (BuildState.coinbaseBalanceAfter env.block.coinbase r.state).toNat

/-- What a log is booked with. -/
def totalValue (sims : List SimulatedTransaction) : Nat :=
  sims.foldr (fun x acc => x.outcome.fees.toNat + x.outcome.coinbaseTransfer.toNat + acc) 0

@[simp] theorem totalValue_cons (x : SimulatedTransaction) (xs : List SimulatedTransaction) :
    totalValue (x :: xs) =
      x.outcome.fees.toNat + x.outcome.coinbaseTransfer.toNat + totalValue xs := rfl

/-- The wrapping sums of a log are its value, as a word. -/
theorem sums_eq_ofNat : ∀ (sims : List SimulatedTransaction),
    feeSum sims + transferSum sims = BitVec.ofNat 256 (totalValue sims)
  | [] => rfl
  | x :: xs => by
    have ih := congrArg BitVec.toNat (sums_eq_ofNat xs)
    rw [BitVec.toNat_add, BitVec.toNat_ofNat] at ih
    apply BitVec.eq_of_toNat_eq
    rw [feeSum_cons, transferSum_cons, totalValue_cons, BitVec.toNat_add, BitVec.toNat_add,
      BitVec.toNat_add, BitVec.toNat_ofNat]
    omega

section Executed

variable {R : Reth} {env : Env} {P : ChainState → Prop}

/-- **One transaction**: its two entries are what the coinbase gained. -/
theorem ExecutedOn.value_eq (hR : R.PaysCoinbase env P) {s : ChainState} (hP : P s)
    {sim : SimulatedTransaction} (h : ExecutedOn R env s sim)
    (hsigner : sim.tx.signer ≠ env.block.coinbase) :
    (s.balance env.block.coinbase).toNat +
        (sim.outcome.fees.toNat + sim.outcome.coinbaseTransfer.toNat) =
      ((s.commitTx sim).balance env.block.coinbase).toNat := by
  obtain ⟨r, before, hr, houtcome, hbefore⟩ := h
  have hcredits := hR.credits s sim.tx r hP hsigner hr
  obtain ⟨acct, hget, htouched, hdestroyed⟩ := hR.reports s sim.tx r hr
  have hafter : (s.commitTx sim).balance env.block.coinbase =
      BuildState.coinbaseBalanceAfter env.block.coinbase r.state := by
    unfold ChainState.commitTx BuildState.coinbaseBalanceAfter
    rw [houtcome, hget]
    exact ChainState.balance_commit hget htouched hdestroyed
  have hfees : sim.outcome.fees.toNat =
      (R.tipPerGas env sim.tx).toNat * r.result.gasUsed.toNat := by
    rw [houtcome]
    exact U256.ofU128_mul_ofU64_toNat _ _
  have htransfer : sim.outcome.coinbaseTransfer.toNat =
      (BuildState.coinbaseBalanceAfter env.block.coinbase r.state).toNat -
        (s.balance env.block.coinbase).toNat - sim.outcome.fees.toNat := by
    rw [houtcome, ← hbefore hR.reports]
    show (saturatingSub (saturatingSub _ _) _).toNat = _
    rw [saturatingSub_toNat, saturatingSub_toNat]
    rfl
  rw [hafter, htransfer, hfees]
  -- the differences do not saturate, as the coinbase gained the tip at least
  omega

/-- **A log**: what it is booked with is what the coinbase gained over it. -/
theorem Executes.value_eq (hR : R.PaysCoinbase env P) : ∀ (sims : List SimulatedTransaction)
    {s : ChainState}, P s → Executes R env s sims →
    (∀ sim ∈ sims, sim.tx.signer ≠ env.block.coinbase) →
    P (s.after sims) ∧
      (s.balance env.block.coinbase).toNat + totalValue sims =
        ((s.after sims).balance env.block.coinbase).toNat
  | [], _, hP, _, _ => ⟨hP, rfl⟩
  | sim :: sims, s, hP, h, husers => by
    obtain ⟨hhead, htail⟩ := h
    have hkeeps : P (s.commitTx sim) := hR.keeps s sim.tx _ hP hhead.transact
    have hone := hhead.value_eq hR hP (husers sim (List.mem_cons_self ..))
    obtain ⟨hP', hrest⟩ := Executes.value_eq hR sims hkeeps htail
      fun x hx => husers x (List.mem_cons_of_mem _ hx)
    refine ⟨hP', ?_⟩
    rw [totalValue_cons]
    show _ = (((s.commitTx sim).after sims).balance env.block.coinbase).toNat
    omega

end Executed

/-! ## Runs -/

/-- The block value is what the coinbase gained since the chain state `start`. -/
def ValueIsRevenue (start : ChainState) (s : Session) : Prop :=
  (start.balance s.1.coinbase).toNat + s.1.blockValue.toNat = (s.2.view.balance s.1.coinbase).toNat

/-- A bundle that is included is paid no refund: none is due for what its
transactions do on this state, or it names nobody to pay. -/
def RefundsNothing (R : Reth) (s : Session) : BuildOp → Prop
  | .transaction _ => True
  | .bundle b => ∀ s' user, s.1.executeBundle R s.2 b = .ok s' → Executes R s.1.env s.2.view user →
      user.map (·.tx) = b.recoveredTxs →
      SimulatedBundle.calculateRefund b user s.1.buildConfig.basefee = 0 ∨ b.refundRecipient = none

/-- No transaction of the call is signed by the builder. -/
def SignedByUsers (coinbase : Address) (op : BuildOp) : Prop :=
  ∀ tx ∈ op.txs, tx.signer ≠ coinbase

/-- Such a call commits its own transactions only. -/
theorem Committed.txs_eq {R : Reth} {s s' : Session} {op : BuildOp}
    {more : List SimulatedTransaction} (h : Committed R s op more) (hexec : op.execute R s = .ok s')
    (hnothing : RefundsNothing R s op) : more.map (·.tx) = op.txs := by
  cases op with
  | transaction tx =>
    obtain ⟨sim, rfl, htx⟩ := h.includes
    rw [List.map_singleton, htx]
    rfl
  | bundle b =>
    obtain ⟨user, refunds, rfl, hmap, _, _, hnone⟩ := h.includes
    have huser := ((Lib.along_append _ _ _).mp h.executes).1
    rw [hnone (hnothing s' user hexec huser hmap), List.append_nil]
    exact hmap

theorem blockValue_commit (bs : BuildState) (db : ExecutionDB) (sims : List SimulatedTransaction) :
    (bs.commit db sims).1.blockValue = bs.blockValue + (feeSum sims + transferSum sims) := by
  unfold BuildState.blockValue
  rw [BuildState.execDetails_commit]
  show bs.execDetails.sumFees + feeSum sims
        + (bs.execDetails.sumCoinbaseTransfers + transferSum sims)
    = _
  rw [BitVec.add_assoc, BitVec.add_assoc, ← BitVec.add_assoc (feeSum sims),
    BitVec.add_comm (feeSum sims) bs.execDetails.sumCoinbaseTransfers, BitVec.add_assoc]

/-- **One call** keeps the value at the revenue, if it pays no refund. -/
theorem valueIsRevenue_step {R : Reth} {P : ChainState → Prop} {start : ChainState} {s : Session}
    {op : BuildOp} (hR : R.PaysCoinbase s.1.env P) (hP : P s.2.view)
    (husers : SignedByUsers s.1.coinbase op) (hnothing : RefundsNothing R s op)
    (h : ValueIsRevenue start s) :
    P (step R s op).2.view ∧ (step R s op).1.buildConfig = s.1.buildConfig ∧
      ValueIsRevenue start (step R s op) := by
  unfold step
  cases hexec : op.execute R s with
  | error err => exact ⟨hP, rfl, h⟩
  | ok s' =>
    obtain ⟨more, rfl, hcommitted⟩ := BuildOp.execute_ok hexec
    have htxs := hcommitted.txs_eq hexec hnothing
    have hsigners : ∀ sim ∈ more, sim.tx.signer ≠ s.1.env.block.coinbase := by
      intro sim hsim
      refine husers sim.tx ?_
      rw [← htxs]
      exact List.mem_map_of_mem hsim
    obtain ⟨hP', hvalue⟩ := Executes.value_eq hR more hP hcommitted.executes hsigners
    have hconfig : (s.1.commit s.2 more).1.buildConfig = s.1.buildConfig :=
      BuildState.buildConfig_commit ..
    refine ⟨?_, hconfig, ?_⟩
    · rw [BuildState.view_commit]
      exact hP'
    · have hcoinbase : (s.1.commit s.2 more).1.coinbase = s.1.coinbase := by
        unfold BuildState.coinbase
        rw [hconfig]
      have hbound := ((s.2.view.after more).balance s.1.coinbase).isLt
      have hvalue' : (s.2.view.balance s.1.coinbase).toNat + totalValue more =
          ((s.2.view.after more).balance s.1.coinbase).toNat := hvalue
      unfold ValueIsRevenue at h ⊢
      simp only
      rw [hcoinbase, BuildState.view_commit, blockValue_commit, BitVec.toNat_add, sums_eq_ofNat,
        BitVec.toNat_ofNat]
      -- a balance is below 2 ^ 256, so no sum wraps
      omega

/-- **When the block value is the builder's revenue.** From a fresh build state,
in every run of calls that bring no transaction of the builder and that pay no
refund, the block value is what the coinbase gained, in every state reached. -/
theorem block_value_is_revenue {R : Reth} {P : ChainState → Prop} (buildConfig : BuildConfig)
    (payloadConfig : PayloadConfig) (id : BuildId) (db : ExecutionDB)
    (hR : R.PaysCoinbase (BuildState.new buildConfig payloadConfig id).env P) (hP : P db.view)
    (ops : List BuildOp) (husers : ∀ op ∈ ops, SignedByUsers payloadConfig.builderAddress op)
    (hnothing : Along (step R) (RefundsNothing R) (.new buildConfig payloadConfig id, db) ops) :
    ∀ pre post, ops = pre ++ post →
      ValueIsRevenue db.view (run (step R) (.new buildConfig payloadConfig id, db) pre) := by
  intro pre post hsplit
  rw [hsplit] at husers hnothing
  have halong := ((Lib.along_append _ _ _).mp hnothing).1.and
    (Lib.along_of_forall fun op hop => husers op (List.mem_append_left post hop))
  -- A step keeps the configuration, so the hypotheses about the first state serve throughout.
  have hrun := Lib.run_induct (I := fun s : Session => P s.2.view ∧
    s.1.buildConfig = (BuildState.new buildConfig payloadConfig id).buildConfig ∧
    ValueIsRevenue db.view s) ?_ pre halong ⟨hP, rfl, ?_⟩
  · exact hrun.2.2
  · intro s op hop hs
    obtain ⟨hnothing, husers⟩ := hop
    obtain ⟨hP, hconfig, hvalue⟩ := hs
    have henv : s.1.env = (BuildState.new buildConfig payloadConfig id).env := by
      unfold BuildState.env
      rw [hconfig]
    have hcoinbase : s.1.coinbase = payloadConfig.builderAddress := by
      unfold BuildState.coinbase
      rw [hconfig]
      rfl
    rw [← henv] at hR
    rw [← hcoinbase] at husers
    obtain ⟨hP', hconfig', hvalue'⟩ := valueIsRevenue_step hR hP husers hnothing hvalue
    exact ⟨hP', hconfig'.trans hconfig, hvalue'⟩
  · rfl

/-! ## On the transfer chain -/

/-- The transfer chain credits the tip, on every chain state. -/
theorem TransferChain.paysCoinbase (env : Env) : transferChain.PaysCoinbase env fun _ => True where
  reports := TransferChain.reportsCoinbase env
  keeps _ _ _ _ _ := trivial
  credits := by
    intro s tx r _ hsigner h
    obtain ⟨_, hbound, hgas, hstate⟩ := TransferChain.transact_ok h
    obtain ⟨acct, hget, hbalance⟩ := TransferChain.settle_coinbase (s := s) hsigner
    have htip : (TransferChain.tipPaid env tx).toNat =
        (transferChain.tipPerGas env tx).toNat * r.result.gasUsed.toNat := by
      rw [hgas]
      exact U256.ofU128_mul_ofU64_toNat _ _
    rw [TransferChain.load_balance, BitVec.toNat_allOnes] at hbound
    rw [hstate, ← htip]
    unfold BuildState.coinbaseBalanceAfter
    rw [hget]
    show _ ≤ acct.info.balance.toNat
    rw [hbalance]
    split
    next =>
      rw [BitVec.toNat_add, BitVec.toNat_add]
      omega
    next =>
      rw [BitVec.toNat_add, BitVec.toNat_add, show (0 : U256).toNat = 0 from rfl]
      omega

/-- A transfer of account 1 that pays a tip of 193 wei per gas, with a refund or without. -/
def tippedBundle (refund : Option BundleRefund) : RecoveredBundle where
  recoveredTxs := [TransferChain.transfer 1 0 2 5 200 21000]
  revertingTxHashes := []
  refund := refund

theorem tippedBundle_signedByUsers (refund : Option BundleRefund) :
    SignedByUsers 9 (.bundle (tippedBundle refund)) := by
  intro tx htx
  rw [List.mem_singleton.mp htx]
  decide

/-- Two calls without a refund are booked with what they pay. -/
theorem block_value_transfers :
    ValueIsRevenue transferState (run (step transferChain) transferStart
        [.bundle (tippedBundle none), .transaction (TransferChain.transfer 2 0 1 8 9 21000)]) ∧
      (run (step transferChain) transferStart
        [.bundle (tippedBundle none),
          .transaction (TransferChain.transfer 2 0 1 8 9 21000)]).1.blockValue
        = 4095000 := by
  refine ⟨?_, by decide +kernel⟩
  refine block_value_is_revenue _ transferConfig 0 (.build transferState)
    (TransferChain.paysCoinbase _) trivial _ ?_ ?_ _ [] (List.append_nil _).symm
  · intro op hop
    rcases List.mem_cons.mp hop with rfl | hop'
    · exact tippedBundle_signedByUsers none
    · rw [List.mem_singleton.mp hop']
      intro tx htx
      rw [List.mem_singleton.mp htx]
      decide
  · -- without a refund request none is due
    exact ⟨fun _ _ _ _ _ => .inl rfl, trivial, trivial⟩

/-- A refund of half of what a bundle pays leaves the block value as if all of it was kept. -/
theorem refund_not_subtracted :
    SignedByUsers 9 (.bundle (tippedBundle (some ⟨50, some 0, some 1⟩))) ∧
      ¬ ValueIsRevenue transferState (step transferChain transferStart
        (.bundle (tippedBundle (some ⟨50, some 0, some 1⟩)))) := by
  refine ⟨tippedBundle_signedByUsers _, ?_⟩
  unfold ValueIsRevenue
  decide +kernel

end BlockBuilder
