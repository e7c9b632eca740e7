import BlockBuilder.Payload.Strategy
import BlockBuilder.Primitives.TransferChain

/-!
# A slot of the transfer chain

The chain of plain transfers keeps what the results about gas and value ask of
an EVM: it never reports more gas than the limit of a transaction, and it
always reports the coinbase. The slot below, with one funded parent state, is
where those results are seen at work.
-/

namespace BlockBuilder

/-- The EVM never uses more gas than a transaction allows. -/
def Reth.GasBounded (R : Reth) : Prop :=
  ∀ env s tx r, R.transact env s tx = .ok r → r.result.gasUsed ≤ tx.transaction.gasLimit

namespace TransferChain

theorem get_cons_self (st : EvmState) (a : Address) (acct : EvmAccount) :
    EvmState.get ((a, acct) :: st) a = some acct :=
  List.lookup_cons_self

theorem get_cons_ne (st : EvmState) {a b : Address} (h : b ≠ a) (acct : EvmAccount) :
    EvmState.get ((a, acct) :: st) b = EvmState.get st b := by
  have hne : (b == a) = false := by simp [h]
  unfold EvmState.get
  rw [List.lookup_cons, hne]

theorem load_cons_self (s : ChainState) (st : EvmState) (a : Address) (acct : EvmAccount) :
    load s ((a, acct) :: st) a = acct := by
  unfold load
  rw [get_cons_self]

theorem load_cons_ne (s : ChainState) (st : EvmState) {a b : Address} (h : b ≠ a)
    (acct : EvmAccount) : load s ((a, acct) :: st) b = load s st b := by
  unfold load
  rw [get_cons_ne st h]

theorem get_touch_self (s : ChainState) (st : EvmState) (a : Address)
    (f : AccountInfo → AccountInfo) :
    EvmState.get (touch s st a f) a =
      some { load s st a with info := f (load s st a).info, touched := true } :=
  get_cons_self ..

theorem load_touch_self (s : ChainState) (st : EvmState) (a : Address)
    (f : AccountInfo → AccountInfo) :
    load s (touch s st a f) a =
      { load s st a with info := f (load s st a).info, touched := true } :=
  load_cons_self ..

theorem load_touch_ne (s : ChainState) (st : EvmState) {a b : Address} (h : b ≠ a)
    (f : AccountInfo → AccountInfo) : load s (touch s st a f) b = load s st b :=
  load_cons_ne s st h _

/-- An account read from the state has the balance it has there. -/
theorem load_balance (s : ChainState) (a : Address) : (load s [] a).info.balance = s.balance a := by
  unfold load ChainState.balance
  simp only [EvmState.get, List.lookup_nil]
  cases s a with
  | error err => rfl
  | ok acct => cases acct <;> rfl

/-- No transfer destroys an account. -/
theorem load_selfdestructed (s : ChainState) (a : Address) :
    (load s [] a).selfdestructed = false := by
  unfold load
  simp only [EvmState.get, List.lookup_nil]
  cases s a with
  | error err => rfl
  | ok acct => cases acct <;> rfl

theorem load_touch_selfdestructed {s : ChainState} {st : EvmState}
    (h : ∀ b, (load s st b).selfdestructed = false) (a : Address) (f : AccountInfo → AccountInfo)
    (b : Address) : (load s (touch s st a f) b).selfdestructed = false := by
  by_cases hb : b = a
  · rw [hb, load_touch_self]
    exact h a
  · rw [load_touch_ne s st hb]
    exact h b

/-- What an accepted transfer returns. -/
theorem transact_ok {env : Env} {s : ChainState} {tx : TransactionSignedEcRecovered}
    {r : ResultAndState} (h : transact env s tx = .ok r) :
    (∃ acct, s.basic tx.signer = .ok acct ∧
      validate env (acct.getD AccountInfo.default) tx.transaction = none) ∧
    (load s [] env.block.coinbase).info.balance.toNat + (moved s tx).toNat +
      (tipPaid env tx).toNat ≤ (BitVec.allOnes 256).toNat ∧
    r.result.gasUsed = TRANSFER_GAS ∧ r.state = settle env s tx := by
  unfold transact at h
  split at h
  next => cases h
  next acct hacct =>
    split at h
    next => cases h
    next hvalid =>
      split at h
      next => cases h
      next hfits =>
        cases h
        refine ⟨⟨acct, hacct, hvalid⟩, Nat.not_lt.mp hfits, ?_, rfl⟩
        simp only
        split <;> rfl

/-- The coinbase after a transfer: it has the tip, and the value if it is the recipient. -/
theorem settle_coinbase {env : Env} {s : ChainState} {tx : TransactionSignedEcRecovered}
    (hsigner : tx.signer ≠ env.block.coinbase) :
    ∃ acct, (settle env s tx).get env.block.coinbase = some acct ∧
      acct.info.balance = s.balance env.block.coinbase +
        (if env.block.coinbase = tx.toAddress.getD 0 then moved s tx else 0) + tipPaid env tx := by
  unfold settle
  refine ⟨_, get_touch_self .., ?_⟩
  show (load s _ env.block.coinbase).info.balance + tipPaid env tx = _
  by_cases hrecipient : env.block.coinbase = tx.toAddress.getD 0
  · rw [if_pos hrecipient, ← hrecipient, load_touch_self, load_touch_ne s [] hsigner.symm,
      ← load_balance]
  · rw [if_neg hrecipient, load_touch_ne s _ hrecipient, load_touch_ne s [] hsigner.symm,
      load_balance]
    exact congrArg (· + tipPaid env tx) (BitVec.add_zero _).symm

theorem reportsCoinbase (env : Env) : transferChain.ReportsCoinbase env := by
  intro s tx r h
  obtain ⟨_, _, _, hstate⟩ := transact_ok h
  rw [hstate]
  unfold settle
  refine ⟨_, get_touch_self .., rfl, ?_⟩
  exact load_touch_selfdestructed (load_touch_selfdestructed (load_selfdestructed s) _ _) _ _ _

theorem gasBounded : transferChain.GasBounded := by
  intro env s tx r h
  obtain ⟨⟨acct, _, hvalid⟩, _, hgas, _⟩ := transact_ok h
  unfold validate at hvalid
  split at hvalid
  next => cases hvalid
  next =>
    split at hvalid
    next => cases hvalid
    next hlimit =>
      rw [hgas]
      exact UInt64.not_lt.mp hlimit

end TransferChain

open TransferChain

/-- A state with three funded accounts, the builder's among them, and a contract at 7. -/
def transferState : ChainState := fun a =>
  if a = 1 ∨ a = 2 ∨ a = 9 then
    .ok (some ⟨{ AccountInfo.default with balance := 1000000000000000000 }, []⟩)
  else if a = 7 then .ok (some ⟨{ AccountInfo.default with codeHash := 1 }, []⟩)
  else .ok none

def transferParent : SealedBlock where
  header :=
    { parentHash := 0
      ommersHash := EMPTY_OMMER_ROOT_HASH
      beneficiary := 0
      stateRoot := 0
      transactionsRoot := 0
      receiptsRoot := 0
      withdrawalsRoot := none
      logsBloom := 0
      timestamp := 100
      mixHash := 0
      nonce := 0
      baseFeePerGas := some 7
      number := 10
      gasLimit := 30000000
      difficulty := 0
      gasUsed := 15000000
      extraData := []
      parentBeaconBlockRoot := some 3
      blobGasUsed := some 0
      excessBlobGas := some 0 }
  hash := 77
  body := []
  withdrawals := some []

def transferAttributes (beaconRoot : B256) : EthPayloadBuilderAttributes where
  id := 1
  parent := 77
  timestamp := 112
  suggestedFeeRecipient := 5
  prevRandao := 5
  withdrawals := [⟨0, 0, 6, 3⟩]
  parentBeaconBlockRoot := some beaconRoot

/-- Cancun from genesis. -/
def transferSpec : ChainSpec := ⟨some 0, some 0⟩

def transferConfig : PayloadConfig where
  chainSpec := transferSpec
  builderAddress := 9
  secretKey := 9
  extraData := []

/-- A proposer paid at `feeRecipient` who registered `gasLimit`. -/
def transferProposer (feeRecipient : Address) (gasLimit : UInt64) : ValidatorScheduleSlotInfo where
  proposer := []
  feeRecipient := feeRecipient
  gasLimit := gasLimit
  slot := 1

def transferClient : Client where
  stateByBlockHash h := if h = 77 then .ok transferState else .error (.storage 0)

/-- A pool that offers a list of transactions, none of which carries blobs. -/
def transferPool (txs : List TransactionSignedEcRecovered) : Pool where
  bestTransactionsWithAttributes _ _ := .ofList txs
  getAllBlobsExact hashes := if hashes.isEmpty then .ok [] else .error 0

/-- A bundle for this slot. -/
def transferBundle (hash : B256) (txs : List Bytes) (refund : Option BundleRefund) : Bundle where
  hash := hash
  txs := txs
  blockNumber := 11
  minTimestamp := none
  maxTimestamp := none
  revertingTxHashes := []
  replacementUuid := none
  refund := refund

/-- The arguments of a build in this slot, for a beacon root. -/
def transferArguments (proposer : ValidatorScheduleSlotInfo) (beaconRoot : B256)
    (bundles : List Bundle) (txs : List TransactionSignedEcRecovered) : BuildArguments where
  client := transferClient
  pool := transferPool txs
  bundlePool := bundles.foldl (fun pool b => (pool.addBundle true b).2) .new
  acquired := true
  buildId := 0
  buildConfig := .new transferChain transferSpec (transferAttributes beaconRoot) transferParent 1
    proposer
  cancelled _ := false
  bestBuild := none

/-- Whatever is live after additions was added, or was live before. -/
theorem live_addBundles : ∀ (bundles : List Bundle) {pool : BundlePool} {b : Bundle},
    (bundles.foldl (fun pool b => (pool.addBundle true b).2) pool).inner.Live b →
      b ∈ bundles ∨ pool.inner.Live b
  | [], _, _, h => .inr h
  | x :: bundles, pool, b, h => by
    rcases live_addBundles bundles h with hlater | hnow
    · exact .inl (List.mem_cons_of_mem _ hlater)
    · rcases (BundlePoolInner.live_addBundle pool.inner x b).mp hnow with rfl | ⟨-, hold⟩
      · exact .inl (List.mem_cons_self ..)
      · exact .inr ((BundlePoolInner.live_replaced pool.inner x b).mp hold).1

/-- What a slot offers is in its lists. -/
theorem transferArguments_offered {R : Reth} {P : TransactionSignedEcRecovered → Prop}
    {proposer : ValidatorScheduleSlotInfo} {beaconRoot : B256} {bundles : List Bundle}
    {txs : List TransactionSignedEcRecovered} (htxs : ∀ tx ∈ txs, P tx)
    (hbundles : ∀ b ∈ Bundle.recoverBundles R bundles, ∀ tx ∈ b.recoveredTxs, P tx)
    {op : BuildOp} (hop : Offered R (transferArguments proposer beaconRoot bundles txs) op) :
    ∀ tx ∈ op.txs, P tx := by
  cases op with
  | transaction tx =>
    intro tx' htx'
    rw [List.mem_singleton.mp htx']
    exact htxs tx (BestTransactions.mem_of_yields_ofList hop)
  | bundle recovered =>
    obtain ⟨n, t, hrecovered⟩ := hop
    refine hbundles recovered ?_
    obtain ⟨b, hb, hsome⟩ := List.mem_filterMap.mp hrecovered
    obtain ⟨hlive, -⟩ := BundlePoolInner.mem_bundlesAt.mp hb
    refine List.mem_filterMap.mpr ⟨b, ?_, hsome⟩
    rcases live_addBundles bundles hlive with hmem | hnone
    · exact hmem
    · exact absurd hnone (BundlePoolInner.not_live_new b)

/-- A fresh build state over the funded accounts. -/
def transferStart : Session :=
  (.new (transferArguments (transferProposer 5 30000000) 4 [] []).buildConfig transferConfig 0,
    .build transferState)

/-- The build state of a better build. -/
def Strategy.betterBuild (R : Reth) (strategy : Strategy) (args : BuildArguments) :
    Option BuildState :=
  match strategy.tryBuild R args with
  | .ok (.better bs) => some bs
  | _ => none

/-- A better build, and the block with the bid in it. -/
def Strategy.build (R : Reth) (strategy : Strategy) (args : BuildArguments) (bid : U256) :
    Option (BuildState × Build) :=
  match strategy.betterBuild R args with
  | none => none
  | some bs =>
    match (bs.withPayment bid).intoBuild R args.client args.pool with
    | .ok build => some (bs, build)
    | .error _ => none

theorem Strategy.betterBuild_eq_some {R : Reth} {strategy : Strategy} {args : BuildArguments}
    {bs : BuildState} (h : strategy.betterBuild R args = some bs) :
    strategy.tryBuild R args = .ok (.better bs) := by
  unfold betterBuild at h
  split at h
  next bs' hbs =>
    cases h
    exact hbs
  next => cases h

theorem Strategy.build_eq_some {R : Reth} {strategy : Strategy} {args : BuildArguments} {bid : U256}
    {bs : BuildState} {build : Build} (h : strategy.build R args bid = some (bs, build)) :
    strategy.tryBuild R args = .ok (.better bs) ∧
      (bs.withPayment bid).intoBuild R args.client args.pool = .ok build := by
  unfold Strategy.build at h
  split at h
  next => cases h
  next bs' hbs =>
    split at h
    next build' hbuild =>
      cases h
      exact ⟨betterBuild_eq_some hbs, hbuild⟩
    next => cases h

end BlockBuilder
