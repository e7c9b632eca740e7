import BlockBuilder.Payload.Capacity

/-!
# Gas limits

A block is valid only if each of its transactions fits, by its gas *limit*, the
gas the ones before it left. The builder admits a call by the gas it used, so
the limit of a transaction may be far above what is left of the block.

`AdmitsWithinLimits` is what the check would have to ask of a call: the limits
of its own transactions, each on the state and the gas the earlier ones left.
The transactions the builder adds are no concern: a refund and the payment each
have the 32000 gas of the reserve. `gas_limits_fit_iff` says that the block of a
run is valid in this respect exactly when every call of the run met that.
-/

namespace BlockBuilder

open Lib (run Along)
open BuildOp (step)

/-! ## Limits along a log -/

/-- Each transaction's limit fits what the ones before it left of `limit`. -/
def LimitsFit (limit : Nat) : Nat → List SimulatedTransaction → Prop
  | _, [] => True
  | used, sim :: sims =>
    used + sim.tx.transaction.gasLimit.toNat ≤ limit ∧
      LimitsFit limit (used + sim.outcome.gasUsed.toNat) sims

theorem limitsFit_append {limit : Nat} : ∀ (xs ys : List SimulatedTransaction) (used : Nat),
    LimitsFit limit used (xs ++ ys) ↔
      LimitsFit limit used xs ∧ LimitsFit limit (used + totalGas xs) ys
  | [], _, _ => by simp [LimitsFit]
  | x :: xs, ys, used => by
    rw [List.cons_append, LimitsFit, LimitsFit, limitsFit_append xs ys, totalGas_cons,
      Nat.add_assoc, and_assoc]

/-- The same, read at each transaction. -/
theorem limitsFit_iff_split {limit : Nat} : ∀ (sims : List SimulatedTransaction) (used : Nat),
    LimitsFit limit used sims ↔ ∀ pre sim post, sims = pre ++ sim :: post →
      used + totalGas pre + sim.tx.transaction.gasLimit.toNat ≤ limit := by
  intro sims used
  constructor
  · intro h pre sim post hsplit
    rw [hsplit, limitsFit_append] at h
    exact h.2.1
  · intro h
    induction sims using List.reverseRecOn with
    | nil => trivial
    | append_singleton sims sim ih =>
      refine (limitsFit_append sims [sim] used).mpr ⟨ih fun pre x post hsplit => ?_, ?_, trivial⟩
      · exact h pre x (post ++ [sim]) (by rw [hsplit, List.append_assoc, List.cons_append])
      · exact h sims sim [] rfl

/-- An executed log whose limits fit uses no more gas than the limit. -/
theorem LimitsFit.totalGas_le {R : Reth} (hgas : R.GasBounded) {env : Env} {limit : Nat} :
    ∀ (sims : List SimulatedTransaction) {s : ChainState} {used : Nat}, Executes R env s sims →
    LimitsFit limit used sims → used ≤ limit → used + totalGas sims ≤ limit
  | [], _, _, _, _, hused => hused
  | sim :: sims, s, used, hexec, hfit, _ => by
    obtain ⟨hhead, htail⟩ := hexec
    obtain ⟨hlimit, hrest⟩ := hfit
    have hbound := hhead.gas_le hgas
    have ih := LimitsFit.totalGas_le hgas sims htail hrest (by omega)
    rw [totalGas_cons]
    omega

/-- Limits and gas are all that matters. -/
theorem LimitsFit.congr {limit : Nat} : ∀ (xs ys : List SimulatedTransaction) {used : Nat},
    xs.map (·.tx.intoSigned) = ys.map (·.tx.intoSigned) → gasProfile xs = gasProfile ys →
    (LimitsFit limit used xs ↔ LimitsFit limit used ys)
  | [], [], _, _, _ => Iff.rfl
  | [], _ :: _, _, h, _ => by cases h
  | _ :: _, [], _, h, _ => by cases h
  | x :: xs, y :: ys, used, htxs, hgas => by
    obtain ⟨htx, htxs⟩ := List.cons.inj htxs
    obtain ⟨hused, hgas⟩ := List.cons.inj hgas
    have hlimit : x.tx.transaction.gasLimit = y.tx.transaction.gasLimit :=
      congrArg (·.transaction.gasLimit) htx
    have hsame : x.outcome.gasUsed = y.outcome.gasUsed := congrArg Prod.fst hused
    unfold LimitsFit
    rw [hlimit, hsame, LimitsFit.congr xs ys htxs hgas]

/-! ## Limits of a call -/

/-- Each transaction, executed on what the ones before it left, has a limit
within the gas they left; those after a rejected one are not executed. -/
def TxsFit (R : Reth) (env : Env) (limit : Nat) :
    ChainState → Nat → List TransactionSignedEcRecovered → Prop
  | _, _, [] => True
  | s, used, tx :: txs =>
    match R.transact env s tx with
    | .error _ => True
    | .ok r =>
      used + tx.transaction.gasLimit.toNat ≤ limit ∧
        TxsFit R env limit (s.commit r.state) (used + r.result.gasUsed.toNat) txs

/-- A call that is admitted brings only transactions whose limits fit. -/
def AdmitsWithinLimits (R : Reth) (s : Session) (op : BuildOp) : Prop :=
  ∀ s', op.execute R s = .ok s' →
    TxsFit R s.1.env s.1.buildConfig.blockGasLimit.toNat s.2.view
      s.1.execDetails.cumulativeGasUsed.toNat op.txs

/-- On an executed log the two notions agree. -/
theorem txsFit_iff {R : Reth} {env : Env} {limit : Nat} : ∀ (sims : List SimulatedTransaction)
    {s : ChainState} {used : Nat}, Executes R env s sims →
    (TxsFit R env limit s used (sims.map (·.tx)) ↔ LimitsFit limit used sims)
  | [], _, _, _ => Iff.rfl
  | sim :: sims, s, used, h => by
    obtain ⟨hhead, htail⟩ := h
    unfold LimitsFit
    rw [List.map_cons, TxsFit, hhead.transact, hhead.gasUsed_eq, ← txsFit_iff sims htail]
    rfl

/-- A builder transfer may use 32000 gas. -/
theorem BuildState.IsBuilderTransfer.gasLimit_eq {R : Reth} {bs : BuildState}
    {tx : TransactionSignedEcRecovered} (h : bs.IsBuilderTransfer R tx) :
    tx.transaction.gasLimit = MAX_BUILDER_TRANSFER_GAS_LIMIT := by
  obtain ⟨nonce, recipient, payment, rfl⟩ := h
  rfl

/-! ## Runs -/

/-- The block gas limit leaves the checks room to add two builder transfers without wrapping. -/
def BuildState.LimitBounded (bs : BuildState) : Prop :=
  bs.buildConfig.blockGasLimit.toNat + 2 * MAX_BUILDER_TRANSFER_GAS_LIMIT.toNat <
    UInt64.size

/-- **One call.** On a log whose limits fit, the limits still fit after a call if
and only if the call was not admitted beyond them. -/
theorem Built.step_limits {R : Reth} (hgas : R.GasBounded) {client : Client} {s : Session}
    {parent : ChainState} {st : EvmState} {sims : List SimulatedTransaction}
    (h : Built R client s parent st sims) (hlimit : s.1.LimitBounded)
    (hfit : LimitsFit s.1.buildConfig.blockGasLimit.toNat 0 sims) (op : BuildOp) :
    ∃ more, Built R client (step R s op) parent st (sims ++ more) ∧
      (step R s op).1.buildConfig = s.1.buildConfig ∧
      (LimitsFit s.1.buildConfig.blockGasLimit.toNat 0 (sims ++ more) ↔
        AdmitsWithinLimits R s op) := by
  have hused := hfit.totalGas_le hgas sims h.executes (Nat.zero_le _)
  unfold BuildState.LimitBounded at hlimit
  unfold step AdmitsWithinLimits
  cases hexec : op.execute R s with
  | error err =>
    refine ⟨[], ?_, rfl, ?_⟩
    · rw [List.append_nil]
      exact h
    · rw [List.append_nil]
      exact ⟨fun _ s' hs' => absurd hs' (by simp), fun _ => hfit⟩
  | ok s' =>
    obtain ⟨more, rfl, hcommitted⟩ := BuildOp.execute_ok hexec
    have hroom := h.hasRoom_commit hcommitted.fits
    obtain ⟨user, refunds, rfl, huser, hlength, htransfers⟩ := hcommitted.split
    refine ⟨user ++ refunds, h.commit hcommitted.executes, BuildState.buildConfig_commit .., ?_⟩
    obtain ⟨hexecUser, hexecRefunds⟩ := (Lib.along_append _ _ _).mp hcommitted.executes
    have hcum : s.1.execDetails.cumulativeGasUsed.toNat = 0 + totalGas sims := by
      rw [h.details, Nat.zero_add]
      exact gasSum_toNat (by omega)
    have hcall : TxsFit R s.1.env s.1.buildConfig.blockGasLimit.toNat s.2.view
          s.1.execDetails.cumulativeGasUsed.toNat op.txs ↔
        LimitsFit s.1.buildConfig.blockGasLimit.toNat (0 + totalGas sims) user := by
      rw [← huser, hcum]
      exact txsFit_iff user hexecUser
    rw [limitsFit_append, limitsFit_append]
    constructor
    · intro hall s' _
      exact hcall.mpr hall.2.1
    · intro hadmits
      have hfitUser := hcall.mp (hadmits _ rfl)
      refine ⟨hfit, hfitUser, ?_⟩
      have husedUser := hfitUser.totalGas_le hgas user hexecUser hused
      -- the check of the call kept the reserve, which is all a refund may use
      cases refunds with
      | nil => trivial
      | cons refund rest =>
        rw [List.length_cons] at hlength
        obtain rfl : rest = [] := List.length_eq_zero_iff.mp (by omega)
        have hrefund := (htransfers refund (List.mem_cons_self ..)).gasLimit_eq
        have hrefundUsed := hexecRefunds.1.gas_le hgas
        rw [hrefund] at hrefundUsed
        have hroomGas := hroom.gas (by simp)
        rw [totalGas_append, totalGas_append, totalGas_cons, totalGas_nil] at hroomGas
        refine ⟨?_, trivial⟩
        rw [hrefund]
        have hreserve := hroomGas (by omega)
        omega

/-- **A run.** The limits fit after it if and only if every call met the condition. -/
theorem Built.run_limits {R : Reth} (hgas : R.GasBounded) {client : Client} {parent : ChainState}
    {st : EvmState} : ∀ (ops : List BuildOp) {s : Session} {sims : List SimulatedTransaction},
    Built R client s parent st sims → s.1.LimitBounded →
    LimitsFit s.1.buildConfig.blockGasLimit.toNat 0 sims →
    ∃ more, Built R client (Lib.run (step R) s ops) parent st (sims ++ more) ∧
      (LimitsFit s.1.buildConfig.blockGasLimit.toNat 0 (sims ++ more) ↔
        Along (step R) (AdmitsWithinLimits R) s ops)
  | [], s, sims, h, _, hfit => by
    refine ⟨[], ?_, ?_⟩
    · rw [List.append_nil]
      exact h
    · rw [List.append_nil]
      exact ⟨fun _ => trivial, fun _ => hfit⟩
  | op :: ops, s, sims, h, hlimit, hfit => by
    obtain ⟨more, hstep, hconfig, hiff⟩ := h.step_limits hgas hlimit hfit op
    by_cases hadmits : AdmitsWithinLimits R s op
    · -- the step kept the limits, and the rest of the run decides
      have hfit' := hiff.mpr hadmits
      rw [← hconfig] at hfit'
      have hlimit' : (step R s op).1.LimitBounded := by
        unfold BuildState.LimitBounded
        rw [hconfig]
        exact hlimit
      obtain ⟨rest, hrun, hrest⟩ := Built.run_limits hgas ops hstep hlimit' hfit'
      rw [hconfig, List.append_assoc] at hrest
      rw [List.append_assoc] at hrun
      refine ⟨more ++ rest, hrun, hrest.trans ?_⟩
      exact ⟨fun halong => ⟨hadmits, halong⟩, fun halong => halong.2⟩
    · -- the step broke them, and what follows in the log cannot mend that
      obtain ⟨rest, hrun⟩ := hstep.run ops
      rw [List.append_assoc] at hrun
      refine ⟨more ++ rest, hrun, ?_⟩
      rw [← List.append_assoc, limitsFit_append]
      constructor
      · intro hall
        exact absurd (hiff.mp hall.1) hadmits
      · intro halong
        exact absurd halong.1 hadmits

/-! ## The block of a run -/

/-- As block validity asks: the gas limit of each transaction of the body is at
most the header's limit less the gas used before it. -/
def Build.LimitsFit (build : Build) (sims : List SimulatedTransaction) : Prop :=
  ∀ pre sim post, sims = pre ++ sim :: post →
    totalGas pre + sim.tx.transaction.gasLimit.toNat ≤ build.payload.block.header.gasLimit.toNat

theorem Build.limitsFit_iff (build : Build) (sims : List SimulatedTransaction) :
    build.LimitsFit sims ↔
      BlockBuilder.LimitsFit build.payload.block.header.gasLimit.toNat 0 sims := by
  rw [limitsFit_iff_split]
  simp only [Nat.zero_add]
  rfl

/-- The payment fits where the limits of the log do. -/
theorem Sealed.limitsFit_iff {R : Reth} (hgas : R.GasBounded) {bs : BuildState}
    {sims : List SimulatedTransaction} {pay : SimulatedTransaction} {s : ChainState} {build : Build}
    (h : Sealed R bs sims pay (s.after sims) build) (hexec : Executes R bs.env s sims)
    (hlimit : bs.LimitBounded) (hroom : HasRoom bs sims) (hne : sims ≠ []) :
    build.LimitsFit (sims ++ [pay]) ↔ LimitsFit bs.buildConfig.blockGasLimit.toNat 0 sims := by
  rw [build.limitsFit_iff, h.gasLimit, limitsFit_append]
  refine ⟨fun hall => hall.1, fun hfit => ⟨hfit, ?_, trivial⟩⟩
  have hused := hfit.totalGas_le hgas sims hexec (Nat.zero_le _)
  have hpay : pay.tx.transaction.gasLimit = MAX_BUILDER_TRANSFER_GAS_LIMIT := by
    obtain ⟨nonce, hnonce⟩ := h.payTx
    rw [hnonce]
    rfl
  unfold BuildState.LimitBounded at hlimit
  have hreserve := hroom.gas hne (by omega)
  rw [hpay]
  omega

/-- **When every transaction of a block fits by its limit.** For the block of a
better build, whatever run of calls explains the build: exactly when each call
admitted on the way brought only transactions whose limits fit. -/
theorem gas_limits_fit_iff {R : Reth} (hgas : R.GasBounded) {strategy : Strategy}
    {args : BuildArguments} {bs : BuildState} {bid : U256} {pool : Pool} {build : Build}
    (hexec : strategy.executing = true) (h : strategy.tryBuild R args = .ok (.better bs))
    (hbuild : (bs.withPayment bid).intoBuild R args.client pool = .ok build)
    (hlimit : bs.LimitBounded) :
    ∃ s parent st sims pay, startBuild R strategy.config args = .ok s ∧
      PreBlockCall R args.client bs parent st ∧
      Executes R bs.env (parent.commit st) (sims ++ [pay]) ∧
      build.payload.block.body = (sims ++ [pay]).map (·.tx.intoSigned) ∧
      (∃ ops, bs = Session.finish (run (step R) s ops) ∧ ∀ op ∈ ops, Offered R args op) ∧
      ∀ ops, bs = Session.finish (run (step R) s ops) →
        (build.LimitsFit (sims ++ [pay]) ↔ Along (step R) (AdmitsWithinLimits R) s ops) := by
  obtain ⟨s, ops, hstart, hbs, hvalue, hoffered⟩ := Strategy.tryBuild_better hexec h
  obtain ⟨parent, st, hbuilt⟩ := startBuild_built hstart
  obtain ⟨sims, hrun, hroom⟩ := hbuilt.run_hasRoom (.nil _) ops
  obtain ⟨pay, hsealed⟩ := hrun.sealed (hbs ▸ hbuild)
  have hne : sims ≠ [] := hrun.log_ne_nil (hbs ▸ hvalue)
  have hconfig := BuildOp.buildConfig_run R ops s
  refine ⟨s, parent, st, sims, pay, hstart, ?_, ?_, hsealed.body, ⟨ops, hbs, hoffered⟩, ?_⟩
  · rw [hbs]
    exact hrun.preBlock.of_config rfl rfl
  · rw [hbs]
    exact (Lib.along_append _ _ _).mpr ⟨hrun.executes, hsealed.paid, trivial⟩
  · intro ops' hbs'
    have hbounded : (Lib.run (step R) s ops).1.LimitBounded := by
      rw [hbs] at hlimit
      exact hlimit
    have hbounded' : s.1.LimitBounded := by
      unfold BuildState.LimitBounded at hbounded ⊢
      rw [← hconfig]
      exact hbounded
    obtain ⟨sims', hrun', hiff⟩ := hbuilt.run_limits hgas ops' hbounded' trivial
    -- two runs that explain one build state have executed the same transactions
    have htxs : sims.map (·.tx.intoSigned) = sims'.map (·.tx.intoSigned) := by
      have hlog := congrArg (fun b : BuildState => b.execDetails.executedTxs) (hbs.symm.trans hbs')
      simp only [hrun.finish_log, hrun'.finish_log] at hlog
      exact hlog
    have hexec' : Executes R (Lib.run (step R) s ops).1.env (parent.commit st) sims' := by
      have hconfig' := BuildOp.buildConfig_run R ops' s
      have henv : (Lib.run (step R) s ops).1.env = (Lib.run (step R) s ops').1.env := by
        unfold BuildState.env
        rw [hconfig, hconfig']
      rw [henv]
      exact hrun'.executes
    have hprofile := hrun.executes.gas_unique _ _ hexec' htxs
    refine (hsealed.limitsFit_iff hgas hrun.executes hbounded ⟨hroom.gas, hroom.blobGas⟩
      hne).trans ?_
    refine (LimitsFit.congr sims sims' htxs hprofile).trans ?_
    show LimitsFit (Lib.run (step R) s ops).1.buildConfig.blockGasLimit.toNat 0 sims' ↔ _
    rw [hconfig]
    exact hiff

/-- Two transfers of the pool, the second with the gas limit `gasLimit`. -/
def twoTransfers (gasLimit : UInt64) : BuildArguments :=
  transferArguments (transferProposer 5 30000000) 4 []
    [TransferChain.transfer 1 0 2 5 10 21000, TransferChain.transfer 2 0 1 8 9 gasLimit]

/-- Limits of 21000 gas fit, so every call of the run brought limits that fit. -/
theorem gas_limits_fit_transfers :
    ∃ bs build s ops, (Strategy.mempoolStrat ⟨transferConfig⟩).build transferChain
        (twoTransfers 21000) 1000 = some (bs, build) ∧
      build.payload.block.body.length = 3 ∧ bs = Session.finish (run (step transferChain) s ops) ∧
      Along (step transferChain) (AdmitsWithinLimits transferChain) s ops := by
  have hbuilt : ((Strategy.mempoolStrat ⟨transferConfig⟩).build transferChain
      (twoTransfers 21000) 1000).map (fun p => (p.1.buildConfig.blockGasLimit,
        p.2.payload.block.header.gasLimit, p.2.payload.block.body.map (·.transaction.gasLimit))) =
      some (30000000, 30000000, [21000, 21000, 32000]) := by
    decide +kernel
  obtain ⟨⟨bs, build⟩, hsome, hvalues⟩ := Option.map_eq_some_iff.mp hbuilt
  simp only [Prod.mk.injEq] at hvalues
  obtain ⟨hlimit, hheader, hlimits⟩ := hvalues
  obtain ⟨hbetter, hbuild⟩ := Strategy.build_eq_some hsome
  have hexec : (Strategy.mempoolStrat ⟨transferConfig⟩).executing = true := rfl
  have hbounded : bs.LimitBounded := by
    unfold BuildState.LimitBounded
    rw [hlimit]
    decide
  obtain ⟨s, parent, st, sims, pay, _, _, hexecutes, hbody, ⟨ops, hbs, _⟩, hiff⟩ :=
    gas_limits_fit_iff TransferChain.gasBounded hexec hbetter hbuild hbounded
  have hlength : build.payload.block.body.length = 3 := by
    rw [← List.length_map, hlimits]
    rfl
  refine ⟨bs, build, s, ops, hsome, hlength, hbs, (hiff ops hbs).mp ?_⟩
  intro pre sim post hsplit
  rw [hbody, hsplit] at hlength hlimits
  rw [hsplit] at hexecutes
  have hused := TransferChain.totalGas_eq pre ((Lib.along_append _ _ _).mp hexecutes).1
  rw [List.length_map, List.length_append, List.length_cons] at hlength
  -- none of the three limits is above 32000
  have hmem : sim.tx.transaction.gasLimit ∈ ([21000, 21000, 32000] : List UInt64) := by
    rw [← hlimits, List.map_map]
    exact List.mem_map_of_mem (List.mem_append_right pre (List.mem_cons_self ..))
  have hsim : sim.tx.transaction.gasLimit.toNat ≤ 32000 := by
    simp only [List.mem_cons, List.not_mem_nil, or_false] at hmem
    rcases hmem with h | h | h
    · rw [h]
      decide
    · rw [h]
      decide
    · rw [h]
      decide
  rw [hheader, hused, show (30000000 : UInt64).toNat = 30000000 from rfl]
  omega

/-- The second of two transfers asks for the gas of the whole block and is
included in it after the first. -/
theorem gas_limit_exceeds_room :
    ∃ bs build parent st sims pay, (Strategy.mempoolStrat ⟨transferConfig⟩).build transferChain
        (twoTransfers 30000000) 1000 = some (bs, build) ∧
      PreBlockCall transferChain transferClient bs parent st ∧
      Executes transferChain bs.env (parent.commit st) (sims ++ [pay]) ∧
      build.payload.block.body = (sims ++ [pay]).map (·.tx.intoSigned) ∧
      ¬ build.LimitsFit (sims ++ [pay]) := by
  have hbuilt : ((Strategy.mempoolStrat ⟨transferConfig⟩).build transferChain
      (twoTransfers 30000000) 1000).map (fun p =>
        (p.2.payload.block.header.gasLimit, p.2.payload.block.body.map (·.transaction.gasLimit))) =
      some (30000000, [21000, 30000000, 32000]) := by
    decide +kernel
  obtain ⟨⟨bs, build⟩, hsome, hvalues⟩ := Option.map_eq_some_iff.mp hbuilt
  obtain ⟨hheader, hlimits⟩ := Prod.mk.inj hvalues
  obtain ⟨hbetter, hbuild⟩ := Strategy.build_eq_some hsome
  have hexec : (Strategy.mempoolStrat ⟨transferConfig⟩).executing = true := rfl
  obtain ⟨parent, st, sims, pay, hcall, hexecutes, hsealed⟩ :=
    Strategy.better_sealed hexec hbetter hbuild
  have hlog : Executes transferChain bs.env (parent.commit st) (sims ++ [pay]) :=
    (Lib.along_append _ _ _).mpr ⟨hexecutes, hsealed.paid, trivial⟩
  refine ⟨bs, build, parent, st, sims, pay, hsome, hcall, hlog, hsealed.body, fun hfits => ?_⟩
  rw [hsealed.body, List.map_map] at hlimits
  unfold Build.LimitsFit at hfits
  generalize sims ++ [pay] = log at hlog hlimits hfits
  cases log with
  | nil => cases hlimits
  | cons first rest =>
    cases rest with
    | nil => exact absurd (congrArg List.length hlimits) (by simp)
    | cons second rest =>
      obtain ⟨_, hlimits⟩ := List.cons.inj hlimits
      obtain ⟨hsecond, _⟩ := List.cons.inj hlimits
      have hlimit : second.tx.transaction.gasLimit = 30000000 := hsecond
      have hused := TransferChain.totalGas_eq [first] ⟨hlog.1, trivial⟩
      have hfit := hfits [first] second rest rfl
      rw [hused, hlimit, hheader, List.length_singleton] at hfit
      exact absurd hfit (by decide)

end BlockBuilder
