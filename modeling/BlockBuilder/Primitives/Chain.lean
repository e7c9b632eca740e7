import BlockBuilder.Lib.Overlay
import BlockBuilder.Primitives.Words

/-!
# Chain data and the functions of reth and revm

The builder is a client of reth: transactions, blocks and receipts are reth's
types, and execution, proofs and signatures are reth's and revm's functions.
The types below keep the fields the builder reads or writes. The functions are
the fields of `Reth`, a parameter of the whole model: nothing is assumed about
them here, and each result names what it needs of them.

Mirroring notes:
- `BlockEnv` words are `u64` here. revm stores them as 256-bit words, but reth
  fills them from header fields, which are `u64`, and the builder reads them
  back with `to::<u64>()`.
- A signature is represented by the address it recovers to.
- A state provider is a `Store` of accounts that may fail to read. An
  `EvmAccount` carries the whole storage of the account, so committing it
  replaces the account.
-/

namespace BlockBuilder

open Lib (Store Overlay)

inductive TxType where
  | legacy
  | eip2930
  | eip1559
  | eip4844
  deriving DecidableEq, Repr

/-- A transaction body. `toAddress` is the source's `to`, `none` for a contract creation. -/
structure Transaction where
  txType : TxType
  chainId : Option UInt64
  nonce : UInt64
  gasLimit : UInt64
  toAddress : Option Address
  value : U256
  /-- The gas price of a transaction that is not EIP-1559. -/
  maxFeePerGas : U128
  maxPriorityFeePerGas : Option U128
  blobVersionedHashes : List B256
  input : Bytes
  deriving DecidableEq, Repr

def Transaction.isEip4844 (tx : Transaction) : Bool := tx.txType = .eip4844

/-- A signature, as the address `ecrecover` gives for it. -/
structure Signature where
  recovers : Option Address
  deriving DecidableEq, Repr

structure TransactionSigned where
  hash : B256
  signature : Signature
  transaction : Transaction
  deriving DecidableEq, Repr

/-- A signed transaction with its signer, which its signature recovers to. -/
structure TransactionSignedEcRecovered where
  signedTransaction : TransactionSigned
  signer : Address
  recovered : signedTransaction.signature.recovers = some signer

namespace TransactionSignedEcRecovered

def hash (tx : TransactionSignedEcRecovered) : B256 := tx.signedTransaction.hash

def transaction (tx : TransactionSignedEcRecovered) : Transaction :=
  tx.signedTransaction.transaction

def toAddress (tx : TransactionSignedEcRecovered) : Option Address := tx.transaction.toAddress

def intoSigned (tx : TransactionSignedEcRecovered) : TransactionSigned := tx.signedTransaction

end TransactionSignedEcRecovered

def TransactionSigned.intoEcrecovered (tx : TransactionSigned) :
    Option TransactionSignedEcRecovered :=
  match h : tx.signature.recovers with
  | some signer => some ⟨tx, signer, h⟩
  | none => none

/-- Dropping the signer loses nothing: the signature gives it back. -/
@[simp] theorem intoEcrecovered_intoSigned (tx : TransactionSignedEcRecovered) :
    tx.intoSigned.intoEcrecovered = some tx := by
  obtain ⟨signed, signer, h⟩ := tx
  unfold TransactionSigned.intoEcrecovered TransactionSignedEcRecovered.intoSigned
  split
  next a ha =>
    have hsigner : signer = a := by rw [h] at ha; exact Option.some.inj ha
    subst hsigner
    rfl
  next hnone =>
    rw [h] at hnone
    exact absurd hnone (by simp)

structure Log where
  address : Address
  topics : List B256
  data : Bytes
  deriving DecidableEq, Repr

structure Receipt where
  txType : TxType
  success : Bool
  cumulativeGasUsed : UInt64
  logs : List Log
  deriving DecidableEq, Repr

abbrev Bloom := BitVec 2048

structure Withdrawal where
  index : UInt64
  validatorIndex : UInt64
  address : Address
  amount : UInt64
  deriving DecidableEq, Repr

structure Header where
  parentHash : B256
  ommersHash : B256
  beneficiary : Address
  stateRoot : B256
  transactionsRoot : B256
  receiptsRoot : B256
  withdrawalsRoot : Option B256
  logsBloom : Bloom
  timestamp : UInt64
  mixHash : B256
  nonce : UInt64
  baseFeePerGas : Option UInt64
  number : UInt64
  gasLimit : UInt64
  difficulty : U256
  gasUsed : UInt64
  extraData : Bytes
  parentBeaconBlockRoot : Option B256
  blobGasUsed : Option UInt64
  excessBlobGas : Option UInt64
  deriving DecidableEq, Repr

/-- A block with its hash. Ommers are always empty here. -/
structure SealedBlock where
  header : Header
  hash : B256
  body : List TransactionSigned
  withdrawals : Option (List Withdrawal)
  deriving DecidableEq, Repr

/-! ## Constants -/

/-- The blob gas a block may hold (EIP-4844). -/
def MAX_DATA_GAS_PER_BLOCK : UInt64 := 786432
def BEACON_NONCE : UInt64 := 0
def EMPTY_OMMER_ROOT_HASH : B256 :=
  0x1dcc4de8dec75d7aab85b567b6ccd41ad312451b948a7413f0a142fd40d49347
/-- The root of the empty trie. -/
def EMPTY_ROOT_HASH : B256 :=
  0x56e81f171bcc55a6ff8345e692c0f86e5b48e01b996cadc001622fb5e363b421
def EMPTY_RECEIPTS : B256 := EMPTY_ROOT_HASH
def EMPTY_TRANSACTIONS : B256 := EMPTY_ROOT_HASH
def EMPTY_WITHDRAWALS : B256 := EMPTY_ROOT_HASH

/-! ## Chain state -/

structure AccountInfo where
  balance : U256
  nonce : UInt64
  codeHash : B256
  deriving DecidableEq, Repr

/-- `AccountInfo::default()`: the account nobody has touched. -/
def AccountInfo.default : AccountInfo where
  balance := 0
  nonce := 0
  codeHash := 0xc5d2460186f7233c927e7db2dcc703c0e500b653ca82273b7bfad8045d85a470

structure Account where
  info : AccountInfo
  storage : List (U256 × U256)
  deriving DecidableEq, Repr

inductive ProviderError where
  | storage (code : Nat)
  deriving DecidableEq, Repr

/-- What a state provider or a database answers: an account, none, or a failed read. -/
abbrev ChainState := Store ProviderError Address Account

/-- `Database::basic`. -/
def ChainState.basic (s : ChainState) (a : Address) : Except ProviderError (Option AccountInfo) :=
  match s a with
  | .ok acct => .ok (acct.map Account.info)
  | .error e => .error e

/-- Writes over a chain state: revm's `BundleState`, transitions and caches. -/
abbrev BundleState := Overlay Address Account

/-! ## Execution -/

structure CfgEnv where
  chainId : UInt64
  deriving DecidableEq, Repr

structure BlockEnv where
  number : UInt64
  coinbase : Address
  timestamp : UInt64
  gasLimit : UInt64
  basefee : UInt64
  prevrandao : Option B256
  blobGasprice : Option U128
  deriving DecidableEq, Repr

/-- revm's `Env`, without the transaction. -/
structure Env where
  cfg : CfgEnv
  block : BlockEnv
  deriving DecidableEq, Repr

inductive InvalidTransaction where
  | nonceTooLow (tx state : UInt64)
  | nonceTooHigh (tx state : UInt64)
  | lackOfFundForMaxFee (fee balance : U256)
  | callerGasLimitMoreThanBlock
  | gasPriceLessThanBasefee
  | other (code : Nat)
  deriving DecidableEq, Repr

inductive EVMError where
  | transaction (err : InvalidTransaction)
  | header (code : Nat)
  | database (err : ProviderError)
  | custom (text : String)
  deriving DecidableEq, Repr

inductive ExecutionResult where
  | success (gasUsed : UInt64) (logs : List Log)
  | revert (gasUsed : UInt64)
  | halt (gasUsed : UInt64)
  deriving DecidableEq, Repr

namespace ExecutionResult

def isSuccess : ExecutionResult → Bool
  | .success .. => true
  | _ => false

def gasUsed : ExecutionResult → UInt64
  | .success g _ => g
  | .revert g => g
  | .halt g => g

def intoLogs : ExecutionResult → List Log
  | .success _ logs => logs
  | _ => []

end ExecutionResult

/-- An account in the state the EVM returns: loaded, and perhaps changed. -/
structure EvmAccount where
  info : AccountInfo
  storage : List (U256 × U256)
  touched : Bool
  selfdestructed : Bool
  deriving DecidableEq, Repr

/-- `HashMap<Address, Account>`: every account the execution loaded. -/
abbrev EvmState := List (Address × EvmAccount)

namespace EvmState

def get (st : EvmState) (a : Address) : Option EvmAccount := st.lookup a

/-- What `DatabaseCommit::commit` writes: nothing for an account that was only
loaded, a deletion for one that destroyed itself. -/
def changes (st : EvmState) : BundleState := fun a =>
  match st.get a with
  | none => none
  | some acct =>
    if acct.touched then
      if acct.selfdestructed then some none else some (some ⟨acct.info, acct.storage⟩)
    else none

end EvmState

structure ResultAndState where
  result : ExecutionResult
  state : EvmState
  deriving DecidableEq, Repr

/-! ## Forks -/

/-- The activation times of the forks the builder asks about. -/
structure ChainSpec where
  shanghaiTime : Option UInt64
  cancunTime : Option UInt64
  deriving DecidableEq, Repr

namespace ChainSpec

def isShanghaiActiveAtTimestamp (cs : ChainSpec) (t : UInt64) : Bool :=
  cs.shanghaiTime.any (· ≤ t)

def isCancunActiveAtTimestamp (cs : ChainSpec) (t : UInt64) : Bool :=
  cs.cancunTime.any (· ≤ t)

end ChainSpec

structure EthPayloadBuilderAttributes where
  id : UInt64
  parent : B256
  timestamp : UInt64
  suggestedFeeRecipient : Address
  prevRandao : B256
  withdrawals : List Withdrawal
  parentBeaconBlockRoot : Option B256
  deriving DecidableEq, Repr

/-! ## Errors -/

inductive RethError where
  | provider (err : ProviderError)
  | execution (code : Nat)
  | custom (text : String)
  deriving DecidableEq, Repr

/-- The arms of `PayloadBuilderError` that the strategies and `into_build` produce. -/
inductive PayloadBuilderError where
  | blobStore (code : Nat)
  | internal (err : RethError)
  | evmExecutionError (err : EVMError)
  deriving DecidableEq, Repr

/-- `impl From<ProviderError> for PayloadBuilderError`. -/
def PayloadBuilderError.ofProvider (e : ProviderError) : PayloadBuilderError :=
  .internal (.provider e)

structure BlobSidecar where
  blobs : List Bytes
  deriving DecidableEq, Repr

abbrev SecretKey := B256

/-! ## The functions of reth and revm -/

/-- What the builder calls in reth and revm. -/
structure Reth where
  /-- `Evm::transact` for a transaction filled in with `fill_tx_env_with_recovered`. -/
  transact : Env → ChainState → TransactionSignedEcRecovered → Except EVMError ResultAndState
  /-- The changes `apply_beacon_root_contract_call` commits. -/
  applyBeaconRootContractCall : ChainSpec → UInt64 → UInt64 → Option B256 → Env → ChainState →
    Except RethError EvmState
  cfgAndBlockEnv : EthPayloadBuilderAttributes → ChainSpec → Header → CfgEnv × BlockEnv
  effectiveTipPerGas : Transaction → Option UInt64 → Option U128
  /-- `TxEip4844::blob_gas`. -/
  blobGas : Transaction → UInt64
  postBlockWithdrawalsBalanceIncrements : ChainSpec → UInt64 → List Withdrawal →
    List (Address × U128)
  calculateExcessBlobGas : UInt64 → UInt64 → UInt64
  calculateWithdrawalsRoot : List Withdrawal → B256
  calculateTransactionRoot : List TransactionSigned → B256
  receiptsRootSlow : List Receipt → B256
  blockLogsBloom : List Receipt → Bloom
  /-- The root of a state provider's trie with the given state. -/
  stateRoot : ChainState → Except ProviderError B256
  /-- The block hash `seal_slow` computes. -/
  hashSlow : Header → B256
  signatureHash : Transaction → B256
  signMessage : SecretKey → B256 → Signature
  transactionHash : Transaction → Signature → B256
  /-- The address of a secret key. -/
  publicAddress : SecretKey → Address
  /-- A signature made with a key recovers to the key's address. -/
  signMessage_recovers : ∀ sk h, (signMessage sk h).recovers = some (publicAddress sk)
  /-- `TransactionSigned::decode_enveloped`. -/
  decodeEnveloped : Bytes → Option TransactionSigned
  /-- `PooledTransactionsElement::decode_enveloped`. -/
  decodePooled : Bytes → Option TransactionSigned
  keccak256 : Bytes → B256
  /-- `Display` of errors and addresses of reth. -/
  displayPayloadBuilderError : PayloadBuilderError → String
  displayEVMError : EVMError → String
  displayAddress : Address → String
  /-- `Debug` of the same. -/
  debugPayloadBuilderError : PayloadBuilderError → String
  debugEVMError : EVMError → String

/-- `StateProviderFactory`: the state after a given block. -/
structure Client where
  stateByBlockHash : B256 → Except ProviderError ChainState

/-- The blob gas of a transaction, `0` for one that carries no blobs. -/
def Reth.txBlobGas (R : Reth) (tx : Transaction) : UInt64 :=
  if tx.isEip4844 then R.blobGas tx else 0

end BlockBuilder
