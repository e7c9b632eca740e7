import BlockBuilder.Primitives.Chain

/-!
# A chain of plain transfers

The smallest `Reth` on which every path of the builder can be run. A
transaction moves its value from the signer to the recipient for 21000 gas, and
an account with code reverts whatever it is sent. Nonces, fee caps and balances
are checked, the base fee is burned and the tip goes to the coinbase, as revm
does it; hashes and roots are a toy mix of what they commit to.
-/

namespace BlockBuilder.TransferChain

open BlockBuilder

/-- The toy hash. -/
def mix (xs : List Nat) : B256 := BitVec.ofNat 256 (xs.foldl (fun acc x => acc * 1000003 + x + 1) 7)

/-! ## Execution -/

/-- The account an execution works on: loaded already, or read from the state. -/
def load (s : ChainState) (st : EvmState) (a : Address) : EvmAccount :=
  match st.get a with
  | some acct => acct
  | none =>
    match s a with
    | .ok (some acct) => ⟨acct.info, acct.storage, false, false⟩
    | _ => ⟨AccountInfo.default, [], false, false⟩

/-- Load an account, change it and mark it touched. -/
def touch (s : ChainState) (st : EvmState) (a : Address) (f : AccountInfo → AccountInfo) :
    EvmState :=
  let acct := load s st a
  (a, { acct with info := f acct.info, touched := true }) :: st

def effectiveTipPerGas (tx : Transaction) (basefee : Option UInt64) : Option U128 :=
  match basefee with
  | none => some (tx.maxPriorityFeePerGas.getD tx.maxFeePerGas)
  | some basefee =>
    if tx.maxFeePerGas.toNat < basefee.toNat then none
    else
      let fee := tx.maxFeePerGas - BitVec.ofNat 128 basefee.toNat
      some ((tx.maxPriorityFeePerGas.map fun p => if p ≤ fee then p else fee).getD fee)

/-- The gas of a plain transfer. -/
def TRANSFER_GAS : UInt64 := 21000

/-- What revm rejects a transaction for. -/
def validate (env : Env) (sender : AccountInfo) (tx : Transaction) : Option InvalidTransaction :=
  if env.block.gasLimit < tx.gasLimit then some .callerGasLimitMoreThanBlock
  else if tx.gasLimit < TRANSFER_GAS then some (.other 0)
  else if tx.maxFeePerGas.toNat < env.block.basefee.toNat then some .gasPriceLessThanBasefee
  else if tx.nonce < sender.nonce then some (.nonceTooLow tx.nonce sender.nonce)
  else if sender.nonce < tx.nonce then some (.nonceTooHigh tx.nonce sender.nonce)
  else if sender.balance.toNat < tx.gasLimit.toNat * tx.maxFeePerGas.toNat + tx.value.toNat then
    some (.lackOfFundForMaxFee
      (BitVec.ofNat 256 (tx.gasLimit.toNat * tx.maxFeePerGas.toNat + tx.value.toNat))
      sender.balance)
  else none

/-- The tip for the gas of a transfer. -/
def tipPaid (env : Env) (tx : TransactionSignedEcRecovered) : U256 :=
  U256.ofU128 ((effectiveTipPerGas tx.transaction (some env.block.basefee)).getD 0) *
    U256.ofU64 TRANSFER_GAS

/-- Whether the recipient takes what it is sent. -/
def accepts (s : ChainState) (tx : TransactionSignedEcRecovered) : Bool :=
  (load s [] (tx.toAddress.getD 0)).info.codeHash = AccountInfo.default.codeHash

/-- The value that is moved; none when the recipient reverts. -/
def moved (s : ChainState) (tx : TransactionSignedEcRecovered) : U256 :=
  if accepts s tx then tx.transaction.value else 0

/-- The accounts of a transfer after it: the signer, the recipient and the coinbase. -/
def settle (env : Env) (s : ChainState) (tx : TransactionSignedEcRecovered) : EvmState :=
  let cost := tipPaid env tx + U256.ofU64 env.block.basefee * U256.ofU64 TRANSFER_GAS + moved s tx
  let st := touch s [] tx.signer fun i =>
    { i with balance := i.balance - cost, nonce := i.nonce + 1 }
  let st := touch s st (tx.toAddress.getD 0) fun i => { i with balance := i.balance + moved s tx }
  touch s st env.block.coinbase fun i => { i with balance := i.balance + tipPaid env tx }

def transact (env : Env) (s : ChainState) (tx : TransactionSignedEcRecovered) :
    Except EVMError ResultAndState :=
  match s.basic tx.signer with
  | .error err => .error (.database err)
  | .ok acct =>
    match validate env (acct.getD AccountInfo.default) tx.transaction with
    | some err => .error (.transaction err)
    | none =>
      -- no supply of a chain comes near 2 ^ 256
      if (BitVec.allOnes 256).toNat < (load s [] env.block.coinbase).info.balance.toNat +
          (moved s tx).toNat + (tipPaid env tx).toNat then
        .error (.custom "balance overflow")
      else
        .ok ⟨if accepts s tx then .success TRANSFER_GAS [] else .revert TRANSFER_GAS,
          settle env s tx⟩

/-! ## The rest of reth -/

/-- The contract of EIP-4788. -/
def BEACON_ROOTS_ADDRESS : Address := 0x000F3df6D732807Ef1319fB7B8bB8522d0Beac02

/-- The root of the beacon block goes to the ring buffer of the contract. -/
def applyBeaconRootContractCall (cs : ChainSpec) (timestamp blockNumber : UInt64)
    (root : Option B256) (_ : Env) (s : ChainState) : Except RethError EvmState :=
  if !cs.isCancunActiveAtTimestamp timestamp || blockNumber = 0 then .ok []
  else
    match root with
    | none => .error (.custom "missing parent beacon block root")
    | some root =>
      let acct := load s [] BEACON_ROOTS_ADDRESS
      .ok [(BEACON_ROOTS_ADDRESS,
        { acct with
          storage := (U256.ofU64 (timestamp % 8191 + 8191), root) ::
            (U256.ofU64 (timestamp % 8191), U256.ofU64 timestamp) :: acct.storage
          touched := true })]

/-- The environment of the next block; the base fee is that of a parent at its gas target. -/
def cfgAndBlockEnv (attributes : EthPayloadBuilderAttributes) (_ : ChainSpec) (parent : Header) :
    CfgEnv × BlockEnv :=
  (⟨1⟩,
    { number := parent.number + 1
      coinbase := attributes.suggestedFeeRecipient
      timestamp := attributes.timestamp
      gasLimit := parent.gasLimit
      basefee := parent.baseFeePerGas.getD 0
      prevrandao := some attributes.prevRandao
      blobGasprice := none })

/-- The accounts the toy root commits to. -/
def trackedAddresses : List Address :=
  BEACON_ROOTS_ADDRESS :: (List.range 16).map (BitVec.ofNat 160)

def accountDigest (acct : Account) : List Nat :=
  acct.info.balance.toNat :: acct.info.nonce.toNat ::
    acct.storage.map fun kv => kv.1.toNat + kv.2.toNat

def stateRoot (s : ChainState) : Except ProviderError B256 :=
  (trackedAddresses.mapM s).map fun accts =>
    mix (accts.flatMap fun acct => (acct.map accountDigest).getD [])

def transactionDigest (tx : Transaction) : List Nat :=
  [tx.nonce.toNat, tx.gasLimit.toNat, (tx.toAddress.getD 0).toNat, tx.value.toNat,
    tx.maxFeePerGas.toNat]

/-- A transfer signed by `signer`, with a gas price and a gas limit. -/
def transfer (signer : Address) (nonce : UInt64) (recipient : Address) (value : U256)
    (price : U128) (gasLimit : UInt64) : TransactionSignedEcRecovered :=
  let transaction : Transaction :=
    { txType := .legacy
      chainId := none
      nonce := nonce
      gasLimit := gasLimit
      toAddress := some recipient
      value := value
      maxFeePerGas := price
      maxPriorityFeePerGas := none
      blobVersionedHashes := []
      input := [] }
  { signedTransaction :=
      ⟨mix (signer.toNat :: transactionDigest transaction), ⟨some signer⟩, transaction⟩
    signer := signer
    recovered := rfl }

/-- A transfer as five bytes: signer, nonce, recipient, value and gas price in wei. -/
def decode (bytes : Bytes) : Option TransactionSigned :=
  match bytes with
  | [signer, nonce, recipient, value, price] =>
    some (transfer (BitVec.ofNat 160 signer.toNat) nonce.toUInt64
      (BitVec.ofNat 160 recipient.toNat) (BitVec.ofNat 256 value.toNat)
      (BitVec.ofNat 128 price.toNat) TRANSFER_GAS).signedTransaction
  | _ => none

end TransferChain

open TransferChain in
/-- The chain of plain transfers. -/
def transferChain : Reth where
  transact := transact
  applyBeaconRootContractCall := applyBeaconRootContractCall
  cfgAndBlockEnv := cfgAndBlockEnv
  effectiveTipPerGas := effectiveTipPerGas
  blobGas tx := 131072 * tx.blobVersionedHashes.length.toUInt64
  postBlockWithdrawalsBalanceIncrements cs timestamp withdrawals :=
    if cs.isShanghaiActiveAtTimestamp timestamp then
      withdrawals.map fun w => (w.address, BitVec.ofNat 128 (w.amount.toNat * 1000000000))
    else []
  calculateExcessBlobGas excess used := if excess + used < 393216 then 0 else excess + used - 393216
  calculateWithdrawalsRoot withdrawals :=
    mix (withdrawals.flatMap fun w => [w.index.toNat, w.address.toNat, w.amount.toNat])
  calculateTransactionRoot txs := mix (txs.map (·.hash.toNat))
  receiptsRootSlow receipts :=
    mix (receipts.flatMap fun r => [r.success.toNat, r.cumulativeGasUsed.toNat])
  blockLogsBloom _ := 0
  stateRoot := stateRoot
  hashSlow h :=
    mix [h.parentHash.toNat, h.stateRoot.toNat, h.transactionsRoot.toNat, h.number.toNat]
  signatureHash tx := mix (transactionDigest tx)
  signMessage sk _ := ⟨some (sk.setWidth 160)⟩
  transactionHash tx signature :=
    mix ((signature.recovers.getD 0).toNat :: transactionDigest tx)
  publicAddress sk := sk.setWidth 160
  signMessage_recovers _ _ := rfl
  decodeEnveloped := decode
  decodePooled := decode
  keccak256 bytes := mix (bytes.map (·.toNat))
  displayPayloadBuilderError _ := "payload builder error"
  displayEVMError _ := "evm error"
  displayAddress _ := "address"
  debugPayloadBuilderError _ := "PayloadBuilderError"
  debugEVMError _ := "EVMError"

end BlockBuilder
