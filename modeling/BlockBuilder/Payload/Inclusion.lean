import BlockBuilder.Payload.Nonces
import BlockBuilder.Payload.Sealed

/-!
# What is included once (`strategy/bundle/strat.rs`, `strategy/state/mod.rs`)

Bundles may share transactions with each other and with the pool, and repeat one
inside; refunds and the payment are signed with nonces read from a simulation
cache or from a fresh database. The set of committed hashes keeps most repetitions
out early. What keeps all of them out is the EVM: a block is a log, so each signer
has drawn its nonces in order, and nothing that was skipped or has failed has drawn
one.

A hash stands for a transaction as long as no two transactions of the block share
one, which is what the hash function is for.
-/

namespace BlockBuilder

open Lib (Along Tickets along_append)

/-- Who signs what goes into a build: the builder its own transfers, with the key
of the builder address, and users everything that is offered. -/
structure Signers (R : Reth) (owned : Address → Prop) (config : PayloadConfig)
    (args : BuildArguments) : Prop where
  key : R.publicAddress config.secretKey = config.builderAddress
  builder : owned config.builderAddress
  users : ∀ op, Offered R args op → ∀ tx ∈ op.txs,
    owned tx.signer ∧ tx.signer ≠ config.builderAddress

def signedBy (a : Address) (txs : List TransactionSigned) : List TransactionSigned :=
  txs.filter fun tx => tx.signature.recovers = some a

/-- No two different transactions have the same hash. -/
def HashesIdentify (txs : List TransactionSigned) : Prop :=
  ∀ t ∈ txs, ∀ t' ∈ txs, t.hash = t'.hash → t = t'

/-- Transactions of which none is repeated, and of which the builder's are numbered
from `n` on. -/
structure IncludedOnce (builder : Address) (n : Nat) (txs : List TransactionSigned) : Prop where
  distinct : HashesIdentify txs → (txs.map (·.hash)).Nodup
  numbered : (signedBy builder txs).map (·.transaction.nonce.toNat) =
    List.range' n (signedBy builder txs).length

/-- The transactions of a signer in a log are the tickets issued to it. -/
theorem signedBy_log (a : Address) (sims : List SimulatedTransaction) :
    signedBy a (sims.map (·.tx.intoSigned)) =
      (nonceTickets.issued a sims).map (·.tx.intoSigned) := by
  unfold signedBy Tickets.issued
  rw [List.filter_map]
  congr 1
  refine List.filter_congr fun sim _ => ?_
  have hrecovers : sim.tx.intoSigned.signature.recovers = some sim.tx.signer := sim.tx.recovered
  show decide (sim.tx.intoSigned.signature.recovers = some a) = decide (sim.tx.signer = a)
  rw [decide_eq_decide, hrecovers]
  exact Option.some_inj

/-- **A log includes everything once**: its tickets are all different, and the
builder's are consecutive. -/
theorem Reth.CountsNonces.includedOnce {R : Reth} {owned : Address → Prop}
    (h : R.CountsNonces owned) {env : Env} {s : ChainState} {sims : List SimulatedTransaction}
    (hexec : Executes R env s sims) (howned : ∀ sim ∈ sims, owned sim.tx.signer)
    {builder : Address} (hbuilder : owned builder) :
    IncludedOnce builder (s.nonce builder).toNat (sims.map (·.tx.intoSigned)) := by
  have hdraws := h.along hexec howned
  constructor
  · intro hhashes
    have hissued := Tickets.nodup_issued sims hdraws
    rw [List.map_map]
    refine List.pairwise_map.mpr ((List.pairwise_map.mp hissued).imp_of_mem ?_)
    -- two transactions of one hash are one transaction, with one ticket
    intro x y hx hy hne hsame
    have hsigned := hhashes _ (List.mem_map_of_mem hx) _ (List.mem_map_of_mem hy) hsame
    have hrecovered := congrArg TransactionSigned.intoEcrecovered hsigned
    rw [intoEcrecovered_intoSigned, intoEcrecovered_intoSigned] at hrecovered
    have htx : x.tx = y.tx := Option.some.inj hrecovered
    refine hne ?_
    show (x.tx.signer, x.tx.transaction.nonce.toNat) = (y.tx.signer, y.tx.transaction.nonce.toNat)
    rw [htx]
  · have hnumbers := Tickets.numbers_issued hbuilder sims hdraws
    rw [signedBy_log, List.length_map, List.map_map]
    exact hnumbers

namespace Signers

variable {R : Reth} {owned : Address → Prop} {config : PayloadConfig} {args : BuildArguments}
  {bs : BuildState} {sims : List SimulatedTransaction}

/-- The builder signs its transfers as the builder address. -/
theorem signer_eq (h : Signers R owned config args) (hconfig : bs.payloadConfig = config)
    {tx : TransactionSignedEcRecovered} (htx : bs.IsBuilderTransfer R tx) :
    tx.signer = config.builderAddress := by
  obtain ⟨nonce, recipient, payment, rfl⟩ := htx
  show R.publicAddress bs.payloadConfig.secretKey = _
  rw [hconfig, h.key]

/-- Everything executed is signed by an externally owned account. -/
theorem owned_log (h : Signers R owned config args) (hconfig : bs.payloadConfig = config)
    (hfrom : ∀ sim ∈ sims, Includable R args bs sim.tx) : ∀ sim ∈ sims, owned sim.tx.signer := by
  intro sim hsim
  rcases hfrom sim hsim with ⟨op, hop, htx⟩ | htransfer
  · exact (h.users op hop sim.tx htx).1
  · rw [h.signer_eq hconfig htransfer]
    exact h.builder

/-- What the builder has signed are its refunds: no user signs as the builder. -/
theorem refunds_log (h : Signers R owned config args)
    (hfrom : ∀ sim ∈ sims, Includable R args bs sim.tx) :
    ∀ t ∈ signedBy config.builderAddress (sims.map (·.tx.intoSigned)),
      ∃ refund, bs.IsBuilderTransfer R refund ∧ t = refund.intoSigned := by
  intro t ht
  rw [signedBy_log] at ht
  obtain ⟨sim, hsim, rfl⟩ := List.mem_map.mp ht
  obtain ⟨hmem, hsigner⟩ := List.mem_filter.mp hsim
  rcases hfrom sim hmem with ⟨op, hop, htx⟩ | htransfer
  · exact absurd (of_decide_eq_true hsigner) (h.users op hop sim.tx htx).2
  · exact ⟨sim.tx, htransfer, rfl⟩

end Signers

/-- **No transaction is included twice.** The transactions a better build has
executed, and those of its block with the payment after them, are all different;
the builder's among them are its refunds and the payment, with consecutive nonces
from the builder's nonce in the parent state. -/
theorem Strategy.better_includedOnce {R : Reth} {owned : Address → Prop}
    (hnonces : R.CountsNonces owned) {strategy : Strategy} {args : BuildArguments}
    (hsigners : Signers R owned strategy.config args) {bs : BuildState}
    (hexec : strategy.executing = true) (h : strategy.tryBuild R args = .ok (.better bs)) :
    ∃ parent, args.client.stateByBlockHash args.buildConfig.parentBlock.hash = .ok parent ∧
      IncludedOnce strategy.config.builderAddress
        (parent.nonce strategy.config.builderAddress).toNat bs.execDetails.executedTxs ∧
      (∀ t ∈ signedBy strategy.config.builderAddress bs.execDetails.executedTxs,
        ∃ refund, bs.IsBuilderTransfer R refund ∧ t = refund.intoSigned) ∧
      ∀ bid pool build, (bs.withPayment bid).intoBuild R args.client pool = .ok build →
        (∃ payment, bs.IsBuilderTransfer R payment ∧
          payment.signer = strategy.config.builderAddress ∧
          build.payload.block.body = bs.execDetails.executedTxs ++ [payment.intoSigned]) ∧
        IncludedOnce strategy.config.builderAddress
          (parent.nonce strategy.config.builderAddress).toNat build.payload.block.body := by
  obtain ⟨s, parent, st, sims, hbuilt, rfl, hconfig, hparent, hfrom⟩ :=
    Strategy.better_log hexec h
  have hread := hbuilt.preBlock.parent_eq
  rw [hparent] at hread
  -- the pre-block call leaves the nonces of the accounts that sign
  have hstart : (parent.commit st).nonce strategy.config.builderAddress =
      parent.nonce strategy.config.builderAddress :=
    hnonces.preBlock _ _ _ _ _ _ _ _ hsigners.builder hbuilt.preBlock.call
  have howned := hsigners.owned_log hconfig hfrom
  have hexecuted : s.finish.execDetails.executedTxs = sims.map (·.tx.intoSigned) :=
    congrArg (·.executedTxs) hbuilt.finish_log
  refine ⟨parent, hread, ?_⟩
  rw [← hstart, hexecuted]
  refine ⟨hnonces.includedOnce hbuilt.executes howned hsigners.builder, ?_, ?_⟩
  · intro t ht
    obtain ⟨refund, hrefund, rfl⟩ := hsigners.refunds_log hfrom t ht
    exact ⟨refund, (BuildState.isBuilderTransfer_congr rfl rfl).mp hrefund, rfl⟩
  · intro bid pool build hbuild
    obtain ⟨pay, hsealed⟩ := hbuilt.sealed hbuild
    obtain ⟨nonce, hpay⟩ := hsealed.payTx
    have hpaid : s.finish.IsBuilderTransfer R pay.tx :=
      (BuildState.isBuilderTransfer_congr rfl rfl).mp ⟨nonce, _, _, hpay⟩
    have hsigner := hsigners.signer_eq hconfig hpaid
    -- the block is a log too: the payment was executed on what the run had left
    have hlog : Executes R s.1.env (parent.commit st) (sims ++ [pay]) :=
      (along_append _ _ _).mpr ⟨hbuilt.executes, hsealed.paid, trivial⟩
    refine ⟨⟨pay.tx, hpaid, hsigner, ?_⟩, ?_⟩
    · rw [hsealed.body, List.map_append]
      rfl
    · rw [hsealed.body]
      refine hnonces.includedOnce hlog ?_ hsigners.builder
      intro sim hsim
      rcases List.mem_append.mp hsim with hrun | hlast
      · exact howned sim hrun
      · rw [List.mem_singleton.mp hlast, hsigner]
        exact hsigners.builder

/-- Two bundles with refunds, one that shares a transaction with the first, one that
repeats its own, and a pool that offers the first bundle's transaction too. -/
def sharingArguments : BuildArguments :=
  transferArguments (transferProposer 5 30000000) 4
    [transferBundle 1 [[1, 0, 2, 5, 60]] (BundleRefund.new (some 50) none none),
      transferBundle 2 [[2, 0, 1, 5, 50]] (BundleRefund.new (some 50) none none),
      transferBundle 3 [[1, 0, 2, 5, 60], [2, 1, 1, 5, 50]] none,
      transferBundle 4 [[2, 1, 1, 5, 90], [2, 1, 1, 5, 90]] none]
    [TransferChain.transfer 1 0 2 5 60 21000, TransferChain.transfer 1 1 2 6 9 21000]

theorem Strategy.better_includedOnce_sharing :
    ∃ bs build, (Strategy.bundlesStrat ⟨transferConfig⟩).build cappedChain sharingArguments 1000 =
        some (bs, build) ∧
      build.payload.block.body.map (fun t => (t.signature.recovers, t.transaction.nonce)) =
        [(some 1, 0), (some 9, 0), (some 2, 0), (some 9, 1), (some 1, 1), (some 9, 2)] ∧
      IncludedOnce 9 0 build.payload.block.body := by
  have hbody : ((Strategy.bundlesStrat ⟨transferConfig⟩).build cappedChain sharingArguments
      1000).map (fun p =>
        p.2.payload.block.body.map fun t => (t.signature.recovers, t.transaction.nonce)) =
      some [(some 1, 0), (some 9, 0), (some 2, 0), (some 9, 1), (some 1, 1), (some 9, 2)] := by
    decide +kernel
  obtain ⟨⟨bs, build⟩, hsome, hsigned⟩ := Option.map_eq_some_iff.mp hbody
  obtain ⟨hbetter, hbuild⟩ := Strategy.build_eq_some hsome
  have husers : ∀ op, Offered cappedChain sharingArguments op → ∀ tx ∈ op.txs, tx.signer ≠ 9 :=
    fun op hop => transferArguments_offered (by decide +kernel) (by decide +kernel) hop
  have hsigners : Signers cappedChain (fun _ => True)
      (Strategy.bundlesStrat ⟨transferConfig⟩).config sharingArguments :=
    ⟨by decide, trivial, fun op hop tx htx => ⟨trivial, husers op hop tx htx⟩⟩
  obtain ⟨parent, hparent, -, -, hblocks⟩ :=
    Strategy.better_includedOnce cappedChain_countsNonces hsigners rfl hbetter
  have hstate : transferState = parent := Except.ok.inj hparent
  obtain ⟨-, honce⟩ := hblocks 1000 sharingArguments.pool build hbuild
  rw [← hstate] at honce
  exact ⟨bs, build, hsome, hsigned, honce⟩

end BlockBuilder
