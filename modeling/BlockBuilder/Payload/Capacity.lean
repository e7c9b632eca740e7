import BlockBuilder.Payload.Sealed
import BlockBuilder.Payload.TransferSlot

/-!
# The capacity of a block

A call is admitted when its gas, what was used before it and the 32000 gas
reserved for the builder's payment stay within the block's limit, and its blob
gas within the blob limit. The checks are on wrapping sums; where the sums fit
`u64` they are checks on numbers, and what they bound is the log so far.

`HasRoom` is the invariant: it holds of the log after every call, so the
payment, which is committed without a check, always finds its reserve.
`capacity_kept` reads it off for every reachable build state and for the block
of every better build.
-/

namespace BlockBuilder

open Lib (run Along)
open BuildOp (step)

/-! ## Sums as numbers -/

/-- The gas of a log. -/
def totalGas (sims : List SimulatedTransaction) : Nat :=
  sims.foldr (fun x acc => x.outcome.gasUsed.toNat + acc) 0

/-- The blob gas of a log. -/
def totalBlobGas (sims : List SimulatedTransaction) : Nat :=
  sims.foldr (fun x acc => x.outcome.blobGasUsed.toNat + acc) 0

/-- The gas and blob gas of each transaction of a log. -/
def gasProfile (sims : List SimulatedTransaction) : List (UInt64 × UInt64) :=
  sims.map fun x => (x.outcome.gasUsed, x.outcome.blobGasUsed)

/-- The sums the builder forms over a log fit `u64`, with the reserve for the payment. -/
structure SumsFit (sims : List SimulatedTransaction) : Prop where
  gas : totalGas sims + MAX_BUILDER_TRANSFER_GAS_LIMIT.toNat < UInt64.size
  blobGas : totalBlobGas sims < UInt64.size

theorem totalGas_append (xs ys : List SimulatedTransaction) :
    totalGas (xs ++ ys) = totalGas xs + totalGas ys :=
  foldr_add_append 0 Nat.zero_add Nat.add_assoc
    (fun x : SimulatedTransaction => x.outcome.gasUsed.toNat) xs ys

theorem gasProfile_append (xs ys : List SimulatedTransaction) :
    gasProfile (xs ++ ys) = gasProfile xs ++ gasProfile ys :=
  List.map_append

theorem gasProfile_cons (x : SimulatedTransaction) (xs : List SimulatedTransaction) :
    gasProfile (x :: xs) = (x.outcome.gasUsed, x.outcome.blobGasUsed) :: gasProfile xs := rfl

/-- The totals are those of the profile. -/
theorem totals_of_gasProfile {xs ys : List SimulatedTransaction}
    (h : gasProfile xs = gasProfile ys) :
    totalGas xs = totalGas ys ∧ totalBlobGas xs = totalBlobGas ys := by
  have hgas := congrArg (List.foldr (fun z : UInt64 × UInt64 => (z.1.toNat + ·)) 0) h
  have hblob := congrArg (List.foldr (fun z : UInt64 × UInt64 => (z.2.toNat + ·)) 0) h
  simp only [gasProfile, List.foldr_map] at hgas hblob
  exact ⟨hgas, hblob⟩

theorem SumsFit.of_gasProfile {xs ys : List SimulatedTransaction} (h : SumsFit xs)
    (hsame : gasProfile xs = gasProfile ys) : SumsFit ys := by
  obtain ⟨hgas, hblob⟩ := totals_of_gasProfile hsame
  obtain ⟨hfit, hfitBlob⟩ := h
  rw [hgas] at hfit
  rw [hblob] at hfitBlob
  exact ⟨hfit, hfitBlob⟩

@[simp] theorem totalGas_nil : totalGas [] = 0 := rfl

@[simp] theorem totalGas_cons (x : SimulatedTransaction) (xs : List SimulatedTransaction) :
    totalGas (x :: xs) = x.outcome.gasUsed.toNat + totalGas xs := rfl

/-- A wrapping sum whose value fits is that value. -/
theorem foldr_add_toNat {α : Type} (f : α → UInt64) : ∀ {xs : List α},
    xs.foldr (fun x acc => (f x).toNat + acc) 0 < UInt64.size →
    (xs.foldr (fun x acc => f x + acc) 0).toNat = xs.foldr (fun x acc => (f x).toNat + acc) 0
  | [], _ => rfl
  | x :: xs, h => by
    rw [List.foldr_cons] at h
    have ih := @foldr_add_toNat α f xs (by omega)
    rw [List.foldr_cons, UInt64.toNat_add, ih]
    exact Nat.mod_eq_of_lt h

theorem gasSum_toNat {sims : List SimulatedTransaction} (h : totalGas sims < UInt64.size) :
    (gasSum sims).toNat = totalGas sims :=
  foldr_add_toNat (fun x : SimulatedTransaction => x.outcome.gasUsed) h

theorem blobGasSum_toNat {sims : List SimulatedTransaction} (h : totalBlobGas sims < UInt64.size) :
    (blobGasSum sims).toNat = totalBlobGas sims :=
  foldr_add_toNat (fun x : SimulatedTransaction => x.outcome.blobGasUsed) h

/-! ## A log is determined by its transactions -/

/-- The gas of an executed log is a function of its transactions and their results. -/
theorem Executes.gasProfile_eq {R : Reth} {env : Env} : ∀ (xs : List SimulatedTransaction)
    {s : ChainState}, Executes R env s xs →
    gasProfile xs = (xs.map fun x => (x.tx, x.outcome.evmResult, x.outcome.evmState)).map
      fun x => (x.2.1.gasUsed, R.txBlobGas x.1.transaction)
  | [], _, _ => rfl
  | x :: xs, s, h => by
    rw [gasProfile_cons, Executes.gasProfile_eq xs h.2, h.1.gasUsed_eq, h.1.blobGasUsed_eq]
    rfl

/-- Two executed logs of the same transactions use the same gas. -/
theorem Executes.gas_unique {R : Reth} {env : Env} (xs ys : List SimulatedTransaction)
    {s : ChainState} (hxs : Executes R env s xs) (hys : Executes R env s ys)
    (h : xs.map (·.tx.intoSigned) = ys.map (·.tx.intoSigned)) : gasProfile xs = gasProfile ys := by
  rw [hxs.gasProfile_eq xs, hys.gasProfile_eq ys, hxs.results_unique xs ys hys h]

/-- The pre-block call of a build state commits one state to one parent. -/
theorem PreBlockCall.unique {R : Reth} {client : Client} {bs : BuildState}
    {parent parent' : ChainState} {st st' : EvmState} (h : PreBlockCall R client bs parent st)
    (h' : PreBlockCall R client bs parent' st') : parent = parent' ∧ st = st' := by
  have hparent := h.parent_eq
  rw [h'.parent_eq] at hparent
  have hcall := h.call
  rw [← Except.ok.inj hparent, h'.call] at hcall
  exact ⟨(Except.ok.inj hparent).symm, (Except.ok.inj hcall).symm⟩

/-! ## The invariant -/

/-- A log that is not empty leaves the reserve, and keeps to the blob limit. -/
structure HasRoom (bs : BuildState) (sims : List SimulatedTransaction) : Prop where
  gas : sims ≠ [] → totalGas sims + MAX_BUILDER_TRANSFER_GAS_LIMIT.toNat < UInt64.size →
    totalGas sims + MAX_BUILDER_TRANSFER_GAS_LIMIT.toNat ≤ bs.buildConfig.blockGasLimit.toNat
  blobGas : sims ≠ [] → totalBlobGas sims < UInt64.size →
    totalBlobGas sims ≤ MAX_DATA_GAS_PER_BLOCK.toNat

theorem HasRoom.nil (bs : BuildState) : HasRoom bs [] :=
  ⟨fun h => absurd rfl h, fun h => absurd rfl h⟩

/-- What was checked to fit on top of a log leaves room after it. -/
theorem Built.hasRoom_commit {R : Reth} {client : Client} {s : Session} {parent : ChainState}
    {st : EvmState} {sims more : List SimulatedTransaction} (h : Built R client s parent st sims)
    (hfits : s.1.Fits more) : HasRoom s.1 (sims ++ more) where
  gas _ hsum := by
    have hcheck := UInt64.le_iff_toNat_le.mp hfits.gas
    have hcum : s.1.execDetails.cumulativeGasUsed = gasSum sims := by
      rw [h.details]
      rfl
    -- The check wraps; it is the check on numbers because the sum fits.
    rw [hcum, ← gasSum_append, UInt64.toNat_add, gasSum_toNat (by omega),
      Nat.mod_eq_of_lt hsum] at hcheck
    exact hcheck
  blobGas _ hsum := by
    have hcheck := UInt64.le_iff_toNat_le.mp hfits.blobGas
    have hcum : s.1.execDetails.cumulativeBlobGasUsed = blobGasSum sims := by
      rw [h.details]
      rfl
    rw [hcum, ← blobGasSum_append, blobGasSum_toNat hsum] at hcheck
    exact hcheck

/-- **Every run leaves room.** -/
theorem Built.run_hasRoom {R : Reth} {client : Client} {s : Session} {parent : ChainState}
    {st : EvmState} {sims : List SimulatedTransaction} (h : Built R client s parent st sims)
    (hroom : HasRoom s.1 sims) (ops : List BuildOp) :
    ∃ sims', Built R client (Lib.run (step R) s ops) parent st sims' ∧
      HasRoom (Lib.run (step R) s ops).1 sims' := by
  refine Lib.run_invariant
    (I := fun s => ∃ sims, Built R client s parent st sims ∧ HasRoom s.1 sims) ?_ ops
    ⟨sims, h, hroom⟩
  intro s op hs
  obtain ⟨sims, hbuilt, hroom⟩ := hs
  rcases BuildOp.step_cases R s op with hsame | ⟨more, hcommit, hcommitted⟩
  · rw [hsame]
    exact ⟨sims, hbuilt, hroom⟩
  · rw [hcommit]
    have hmore := hbuilt.hasRoom_commit hcommitted.fits
    refine ⟨sims ++ more, hbuilt.commit hcommitted.executes, ?_, ?_⟩
    · rw [BuildState.buildConfig_commit]
      exact hmore.gas
    · exact hmore.blobGas

/-- A session has one log, up to what does not matter for gas. -/
theorem Built.gas_unique {R : Reth} {client : Client} {s : Session} {parent parent' : ChainState}
    {st st' : EvmState} {sims sims' : List SimulatedTransaction}
    (h : Built R client s parent st sims) (h' : Built R client s parent' st' sims') :
    gasProfile sims = gasProfile sims' := by
  obtain ⟨rfl, rfl⟩ := h.preBlock.unique h'.preBlock
  have htxs : (ExecutionDetails.ofLog sims none none).executedTxs =
      (ExecutionDetails.ofLog sims' none none).executedTxs := by
    rw [← h.details, h'.details]
  exact h.executes.gas_unique _ _ h'.executes htxs

/-- A build state that is worth something has executed something. -/
theorem Built.log_ne_nil {R : Reth} {client : Client} {s : Session} {parent : ChainState}
    {st : EvmState} {sims : List SimulatedTransaction} (h : Built R client s parent st sims)
    {value : U256} (hvalue : value < s.finish.blockValue) : sims ≠ [] := by
  intro hnil
  have hzero : s.finish.blockValue = 0 := by
    show s.1.execDetails.sumFees + s.1.execDetails.sumCoinbaseTransfers = 0
    rw [h.details, hnil]
    rfl
  rw [hzero] at hvalue
  exact absurd hvalue (BitVec.not_lt_zero)

/-- **The log of a better build**, with the room it leaves. -/
theorem Strategy.better_hasRoom {R : Reth} {strategy : Strategy} {args : BuildArguments}
    {bs : BuildState} (hexec : strategy.executing = true)
    (h : strategy.tryBuild R args = .ok (.better bs)) :
    ∃ s parent st sims, Built R args.client s parent st sims ∧ bs = Session.finish s ∧
      sims ≠ [] ∧ HasRoom s.1 sims := by
  obtain ⟨s, ops, hstart, rfl, hvalue, _⟩ := Strategy.tryBuild_better hexec h
  obtain ⟨parent, st, hbuilt⟩ := startBuild_built hstart
  obtain ⟨sims, hrun, hroom⟩ := hbuilt.run_hasRoom (.nil _) ops
  exact ⟨_, parent, st, sims, hrun, rfl, hrun.log_ne_nil hvalue, hroom⟩

/-- An executed transaction used at most its gas limit. -/
theorem ExecutedOn.gas_le {R : Reth} (hgas : R.GasBounded) {env : Env} {s : ChainState}
    {sim : SimulatedTransaction} (h : ExecutedOn R env s sim) :
    sim.outcome.gasUsed.toNat ≤ sim.tx.transaction.gasLimit.toNat := by
  rw [h.gasUsed_eq]
  exact UInt64.le_iff_toNat_le.mp (hgas _ _ _ _ h.transact)

/-- A builder transfer, which carries no blobs and 32000 gas, uses no more. -/
theorem payment_gas {R : Reth} (hgas : R.GasBounded) {bs : BuildState}
    {sims : List SimulatedTransaction} {pay : SimulatedTransaction} {before : ChainState}
    {build : Build} (h : Sealed R bs sims pay before build) :
    pay.outcome.gasUsed.toNat ≤ MAX_BUILDER_TRANSFER_GAS_LIMIT.toNat ∧
      pay.outcome.blobGasUsed = 0 := by
  obtain ⟨nonce, hpay⟩ := h.payTx
  have hbound := h.paid.gas_le hgas
  have hblob := h.paid.blobGasUsed_eq
  rw [hpay] at hbound hblob
  exact ⟨hbound, hblob⟩

/-! ## The capacity of a block -/

/-- The bounds of a build state that has something committed. -/
structure BuildState.WithinCapacity (bs : BuildState) : Prop where
  gas : bs.execDetails.cumulativeGasUsed.toNat + MAX_BUILDER_TRANSFER_GAS_LIMIT.toNat ≤
    bs.buildConfig.blockGasLimit.toNat
  blobGas : bs.execDetails.cumulativeBlobGasUsed.toNat ≤ MAX_DATA_GAS_PER_BLOCK.toNat

/-- The bounds of a block over the log `sims`. -/
structure Build.WithinCapacity (build : Build) (sims : List SimulatedTransaction) : Prop where
  gasUsed : build.payload.block.header.gasUsed.toNat = totalGas sims
  gasLimit : totalGas sims ≤ build.payload.block.header.gasLimit.toNat
  blobGas : ∀ used, build.payload.block.header.blobGasUsed = some used →
    used.toNat ≤ MAX_DATA_GAS_PER_BLOCK.toNat

/-- Room for a log bounds the counters of its build state. -/
theorem Built.withinCapacity {R : Reth} {client : Client} {s : Session} {parent : ChainState}
    {st : EvmState} {sims : List SimulatedTransaction} (h : Built R client s parent st sims)
    (hroom : HasRoom s.1 sims) (hne : sims ≠ []) (hsums : SumsFit sims) : s.1.WithinCapacity where
  gas := by
    have hcum : s.1.execDetails.cumulativeGasUsed.toNat = totalGas sims := by
      rw [h.details]
      exact gasSum_toNat (Nat.lt_of_le_of_lt (Nat.le_add_right ..) hsums.gas)
    rw [hcum]
    exact hroom.gas hne hsums.gas
  blobGas := by
    have hcum : s.1.execDetails.cumulativeBlobGasUsed.toNat = totalBlobGas sims := by
      rw [h.details]
      exact blobGasSum_toNat hsums.blobGas
    rw [hcum]
    exact hroom.blobGas hne hsums.blobGas

/-- A sealed block is within the capacity its log was checked for. -/
theorem Sealed.withinCapacity {R : Reth} (hgas : R.GasBounded) {bs : BuildState}
    {sims : List SimulatedTransaction} {pay : SimulatedTransaction} {before : ChainState}
    {build : Build} (h : Sealed R bs sims pay before build) (hroom : HasRoom bs sims)
    (hne : sims ≠ []) (hsums : SumsFit sims) : build.WithinCapacity (sims ++ [pay]) := by
  obtain ⟨hpay, hpayBlob⟩ := payment_gas hgas h
  have htotal : totalGas (sims ++ [pay]) = totalGas sims + pay.outcome.gasUsed.toNat := by
    rw [totalGas_append]
    simp
  have hreserve := hroom.gas hne hsums.gas
  have hfits := hsums.gas
  refine ⟨?_, ?_, fun used hused => ?_⟩
  · rw [h.gasUsed]
    exact gasSum_toNat (by omega)
  · rw [h.gasLimit]
    omega
  · rw [h.blobGasUsed] at hused
    split at hused
    next =>
      cases hused
      rw [blobGasSum_append, blobGasSum_cons, hpayBlob, blobGasSum_nil, UInt64.add_zero,
        UInt64.add_zero, blobGasSum_toNat hsums.blobGas]
      exact hroom.blobGas hne hsums.blobGas
    next => cases hused

/-- **Capacity is never exceeded.** In every reachable build state with a
committed transaction the payment has its reserve, and the block of a better
build uses the gas of its transactions, within its limits, whatever the bid. -/
theorem capacity_kept {R : Reth} (hgas : R.GasBounded) {strategy : Strategy} {args : BuildArguments}
    (hexec : strategy.executing = true) :
    (∀ s ops parent st sims, startBuild R strategy.config args = .ok s →
      Built R args.client (run (step R) s ops) parent st sims → sims ≠ [] → SumsFit sims →
      (run (step R) s ops).1.WithinCapacity) ∧
    ∀ bs bid pool build parent st sims pay, strategy.tryBuild R args = .ok (.better bs) →
      (bs.withPayment bid).intoBuild R args.client pool = .ok build →
      PreBlockCall R args.client bs parent st →
      Executes R bs.env (parent.commit st) (sims ++ [pay]) →
      build.payload.block.body = (sims ++ [pay]).map (·.tx.intoSigned) → SumsFit sims →
      bs.WithinCapacity ∧ build.WithinCapacity (sims ++ [pay]) := by
  constructor
  · intro s ops parent st sims hstart hbuilt hne hsums
    obtain ⟨_, _, hbuilt'⟩ := startBuild_built hstart
    obtain ⟨sims', hrun, hroom⟩ := hbuilt'.run_hasRoom (.nil _) ops
    have hsame := hbuilt.gas_unique hrun
    have hne' : sims' ≠ [] := by
      intro hnil
      rw [hnil] at hsame
      exact hne (List.map_eq_nil_iff.mp hsame)
    exact hrun.withinCapacity hroom hne' (hsums.of_gasProfile hsame)
  · intro bs bid pool build parent st sims pay h hbuild hcall hexecutes hbody hsums
    obtain ⟨s, parent', st', sims', hbuilt, rfl, hne, hroom⟩ := Strategy.better_hasRoom hexec h
    obtain ⟨pay', hsealed⟩ := hbuilt.sealed hbuild
    -- the transactions of the body are the log of the build and its payment
    have hcall' : PreBlockCall R args.client s.finish parent' st' :=
      hbuilt.preBlock.of_config rfl rfl
    obtain ⟨rfl, rfl⟩ := hcall.unique hcall'
    have hlog : Executes R s.1.env (parent.commit st) (sims' ++ [pay']) :=
      (Lib.along_append _ _ _).mpr ⟨hbuilt.executes, hsealed.paid, trivial⟩
    have hall := hexecutes.gas_unique _ _ hlog (hbody.symm.trans hsealed.body)
    obtain ⟨htotal, _⟩ := totals_of_gasProfile hall
    rw [gasProfile_append, gasProfile_append] at hall
    obtain ⟨hsame, _⟩ := List.append_inj' hall rfl
    have hsums' := hsums.of_gasProfile hsame
    have hstate := hbuilt.withinCapacity hroom hne hsums'
    have hwithin := hsealed.withinCapacity hgas ⟨hroom.gas, hroom.blobGas⟩ hne hsums'
    refine ⟨⟨hstate.gas, hstate.blobGas⟩, ?_, ?_, hwithin.blobGas⟩
    · rw [htotal]
      exact hwithin.gasUsed
    · rw [htotal]
      exact hwithin.gasLimit

/-- On the transfer chain a transaction uses 21000 gas. -/
theorem TransferChain.totalGas_eq :
    ∀ (sims : List SimulatedTransaction) {env : Env} {s : ChainState},
    Executes transferChain env s sims → totalGas sims = 21000 * sims.length
  | [], _, _, _ => rfl
  | sim :: sims, env, s, h => by
    obtain ⟨hhead, htail⟩ := h
    have hused : sim.outcome.gasUsed = TRANSFER_GAS := by
      rw [hhead.gasUsed_eq]
      exact (transact_ok hhead.transact).2.2.1
    rw [totalGas_cons, totalGas_eq sims htail, hused, List.length_cons]
    show 21000 + 21000 * sims.length = _
    omega

/-- A bundle with a refund, a transaction of the pool and a bid of 1000 wei use
84000 gas together, and leave the reserve before the bid. -/
theorem capacity_kept_transfers :
    ∃ bs build, (Strategy.bundlesStrat ⟨transferConfig⟩).build transferChain
        (transferArguments (transferProposer 5 30000000) 4
          [transferBundle 1 [[1, 0, 2, 5, 200]] (some ⟨50, some 0, some 1⟩)]
          [TransferChain.transfer 2 0 1 8 9 21000]) 1000 = some (bs, build) ∧
      build.payload.block.header.gasUsed = 84000 ∧ bs.WithinCapacity ∧
      ∃ sims, build.WithinCapacity sims := by
  have hbuilt : (((Strategy.bundlesStrat ⟨transferConfig⟩).build transferChain
      (transferArguments (transferProposer 5 30000000) 4
        [transferBundle 1 [[1, 0, 2, 5, 200]] (some ⟨50, some 0, some 1⟩)]
        [TransferChain.transfer 2 0 1 8 9 21000]) 1000).map fun p =>
        (p.2.payload.block.header.gasUsed,
          p.2.payload.block.body.map (·.transaction.isEip4844))) =
      some (84000, [false, false, false, false]) := by
    decide +kernel
  obtain ⟨⟨bs, build⟩, hsome, hvalues⟩ := Option.map_eq_some_iff.mp hbuilt
  obtain ⟨hgasUsed, htypes⟩ := Prod.mk.inj hvalues
  obtain ⟨hbetter, hbuild⟩ := Strategy.build_eq_some hsome
  have hexec : (Strategy.bundlesStrat ⟨transferConfig⟩).executing = true := rfl
  obtain ⟨parent, st, sims, pay, hcall, hexecutes, hsealed⟩ :=
    Strategy.better_sealed hexec hbetter hbuild
  rw [hsealed.body, List.map_map] at htypes
  have hnone : ∀ sim ∈ sims, sim.tx.transaction.isEip4844 = false := by
    intro sim hsim
    have hmem := List.mem_map_of_mem (f := (fun x : TransactionSigned => x.transaction.isEip4844) ∘
      fun x : SimulatedTransaction => x.tx.intoSigned) (List.mem_append_left [pay] hsim)
    rw [htypes] at hmem
    have hfalse : sim.tx.intoSigned.transaction.isEip4844 = false := by simpa using hmem
    exact hfalse
  have hlength := congrArg List.length htypes
  rw [List.length_map, List.length_append] at hlength
  have hgas := TransferChain.totalGas_eq sims hexecutes
  have hblob : totalBlobGas sims = 0 := by
    refine foldr_add_eq_zero 0 rfl fun sim hsim => ?_
    rw [Executes.blobGasUsed_eq_zero sims hexecutes hnone sim hsim]
    rfl
  have hsums : SumsFit sims := by
    refine ⟨?_, ?_⟩
    · have hthree : sims.length = 3 := Nat.succ.inj hlength
      rw [hgas, hthree]
      decide
    · rw [hblob]
      decide
  have hkept := (capacity_kept TransferChain.gasBounded hexec).2 bs 1000 _ build parent st sims pay
    hbetter hbuild hcall ((Lib.along_append _ _ _).mpr ⟨hexecutes, hsealed.paid, trivial⟩)
    hsealed.body hsums
  exact ⟨bs, build, hsome, hgasUsed, hkept.1, _, hkept.2⟩

end BlockBuilder
