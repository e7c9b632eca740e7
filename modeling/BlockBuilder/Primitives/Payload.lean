import BlockBuilder.Primitives.Chain

/-!
# Build configuration (`crates/primitives/src/{validator,payload,build,bid}`)

What a slot's build is told: the proposer's registration, the attributes from
the consensus layer, the parent block, and the environment reth derives from
the two. `BuildConfig.new` is the only place where these meet, and it takes the
block gas limit from the registration while the environment has the parent's.

`suggestGasLimit` moves the parent's limit towards the registered one. Its
step is `parent / 1024 - 1` on `u64`, so it wraps for a parent below 1024.
`suggestGasLimit_eq_self_iff` says exactly when the limit stays where it was.
-/

namespace BlockBuilder

abbrev BlsPublicKey := Bytes

structure ValidatorScheduleSlotInfo where
  proposer : BlsPublicKey
  feeRecipient : Address
  gasLimit : UInt64
  slot : UInt64
  deriving DecidableEq, Repr

namespace ValidatorScheduleSlotInfo

def MIN_GAS_LIMIT : UInt64 := 5000
def GAS_LIMIT_BOUND_DIVISOR : UInt64 := 1024

/-- The registered limit, raised to the minimum. -/
def desiredLimit (info : ValidatorScheduleSlotInfo) : UInt64 :=
  if info.gasLimit < MIN_GAS_LIMIT then MIN_GAS_LIMIT else info.gasLimit

def suggestGasLimit (info : ValidatorScheduleSlotInfo) (parentGasLimit : UInt64) : UInt64 :=
  if parentGasLimit = 0 then parentGasLimit
  else
    let delta := parentGasLimit / GAS_LIMIT_BOUND_DIVISOR - 1
    if parentGasLimit < info.desiredLimit then
      let limit := parentGasLimit + delta
      if info.desiredLimit < limit then info.desiredLimit else limit
    else if info.desiredLimit < parentGasLimit then
      let limit := parentGasLimit - delta
      if limit < info.desiredLimit then info.desiredLimit else limit
    else parentGasLimit

theorem min_le_desiredLimit (info : ValidatorScheduleSlotInfo) :
    5000 ≤ info.desiredLimit.toNat := by
  unfold desiredLimit
  split
  next => decide
  next h =>
    have h' := UInt64.le_iff_toNat_le.mp (UInt64.not_lt.mp h)
    exact h'

/-- **Where the limit stands still**: at the target, at zero, and for a parent
so small that the step is zero. -/
theorem suggestGasLimit_eq_self_iff (info : ValidatorScheduleSlotInfo) (p : UInt64) :
    info.suggestGasLimit p = p ↔
      p = info.desiredLimit ∨ p = 0 ∨ (1024 ≤ p.toNat ∧ p.toNat < 2048) := by
  have hd := info.min_le_desiredLimit
  have hp := p.toNat_lt
  have hD := info.desiredLimit.toNat_lt
  -- Below the divisor the step is `0 - 1`, which wraps.
  have hdelta : (p / GAS_LIMIT_BOUND_DIVISOR - 1).toNat
      = (2 ^ 64 - 1 + p.toNat / 1024) % 2 ^ 64 := by
    rw [UInt64.toNat_sub, UInt64.toNat_div]
    rfl
  have hup := UInt64.toNat_add p (p / GAS_LIMIT_BOUND_DIVISOR - 1)
  have hdown := UInt64.toNat_sub p (p / GAS_LIMIT_BOUND_DIVISOR - 1)
  unfold suggestGasLimit
  generalize info.desiredLimit = d at *
  simp only [← UInt64.toNat_inj, UInt64.lt_iff_toNat_lt, UInt64.toNat_zero]
  split
  next h0 => omega
  next h0 =>
    split
    next hlt => split <;> omega
    next hge =>
      split
      next hgt => split <;> omega
      next heq => omega

end ValidatorScheduleSlotInfo

/-- Static configuration of the builder. -/
structure PayloadConfig where
  chainSpec : ChainSpec
  builderAddress : Address
  secretKey : SecretKey
  extraData : Bytes
  deriving DecidableEq, Repr

structure BuildConfig where
  slot : UInt64
  attributes : EthPayloadBuilderAttributes
  validatorInfo : ValidatorScheduleSlotInfo
  parentBlock : SealedBlock
  blockNumber : UInt64
  initializedBlockEnv : BlockEnv
  initializedCfg : CfgEnv
  blockGasLimit : UInt64
  basefee : UInt64
  /-- `new` takes both words from the environment, and nothing writes them later. -/
  blockNumber_eq : blockNumber = initializedBlockEnv.number
  basefee_eq : basefee = initializedBlockEnv.basefee

namespace BuildConfig

def new (R : Reth) (chainSpec : ChainSpec) (attributes : EthPayloadBuilderAttributes)
    (parentBlock : SealedBlock) (slot : UInt64) (validatorInfo : ValidatorScheduleSlotInfo) :
    BuildConfig :=
  let env := R.cfgAndBlockEnv attributes chainSpec parentBlock.header
  { slot := slot
    attributes := attributes
    validatorInfo := validatorInfo
    parentBlock := parentBlock
    blockNumber := env.2.number
    initializedBlockEnv := env.2
    initializedCfg := env.1
    blockGasLimit := validatorInfo.suggestGasLimit parentBlock.header.gasLimit
    basefee := env.2.basefee
    blockNumber_eq := rfl
    basefee_eq := rfl }

/-- `block_env_with_coinbase`: the environment pays the builder. -/
def blockEnvWithCoinbase (c : BuildConfig) (builderAddress : Address) : BuildConfig :=
  { c with
    initializedBlockEnv := { c.initializedBlockEnv with coinbase := builderAddress }
    blockNumber_eq := c.blockNumber_eq
    basefee_eq := c.basefee_eq }

end BuildConfig

/-- `EthBuiltPayload`. -/
structure EthBuiltPayload where
  id : UInt64
  block : SealedBlock
  fees : U256
  sidecars : List BlobSidecar
  deriving DecidableEq, Repr

abbrev BuildId := UInt64

structure Build where
  id : BuildId
  validatorInfo : ValidatorScheduleSlotInfo
  payload : EthBuiltPayload
  bid : U256
  deriving DecidableEq, Repr

/-- The message a relay is bid with (`crates/primitives/src/bid.rs`). -/
structure Bid where
  slot : UInt64
  parentHash : B256
  blockHash : B256
  builderPubkey : BlsPublicKey
  proposerPubkey : BlsPublicKey
  proposerFeeRecipient : Address
  gasLimit : UInt64
  gasUsed : UInt64
  value : U256
  deriving DecidableEq, Repr

def Bid.new (build : Build) (builderPubkey : BlsPublicKey) : Bid where
  slot := build.validatorInfo.slot
  parentHash := build.payload.block.header.parentHash
  blockHash := build.payload.block.hash
  gasLimit := build.payload.block.header.gasLimit
  gasUsed := build.payload.block.header.gasUsed
  value := build.bid
  builderPubkey := builderPubkey
  proposerPubkey := build.validatorInfo.proposer
  proposerFeeRecipient := build.validatorInfo.feeRecipient

end BlockBuilder
