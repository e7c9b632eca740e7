import BlockBuilder.Bundles.Pool
import BlockBuilder.Primitives.Payload

/-!
# The builder's main service (`src/bin/builder/src/service.rs`)

For each slot the consensus layer announces, `BlockBuilderService` makes the
build configuration, prunes the bundle pool, and tells first the payload
service and then the bidder.

Mirroring notes:
- The subtractions of `pruneBundlePool` are on `u64` and wrap.
- What the service reads when it is polled (the clock, the chain, the validator
  schedule, and whether the lock of the bundle pool is got) is one parameter.
- Logs are left out.
-/

namespace BlockBuilder

/-- A block without its hash. Ommers are always empty here. -/
structure Block where
  header : Header
  body : List TransactionSigned
  withdrawals : Option (List Withdrawal)
  deriving DecidableEq, Repr

def Block.seal (block : Block) (hash : B256) : SealedBlock :=
  ⟨block.header, hash, block.body, block.withdrawals⟩

def Block.sealSlow (R : Reth) (block : Block) : SealedBlock := block.seal (R.hashSlow block.header)

/-- The arms of `PayloadBuilderError` that `parent_block` produces. -/
inductive ParentBlockError where
  | internal (err : ProviderError)
  | missingParentBlock (hash : B256)
  deriving DecidableEq, Repr

/-- What the service reads while it is polled. -/
structure BuilderInputs where
  /-- `current_time_as_secs`. -/
  now : UInt64
  /-- `block_by_number_or_tag(Latest)`. -/
  latestBlock : Except ProviderError (Option Block)
  /-- `find_block_by_hash(_, BlockSource::Any)`. -/
  findBlockByHash : B256 → Except ProviderError (Option Block)
  validatorInfo : UInt64 → Option ValidatorScheduleSlotInfo
  acquired : Bool

structure BlockBuilderService where
  payloadConfig : PayloadConfig
  /-- Current slot processed. -/
  slot : UInt64
  mevBundlesPool : BundlePool

namespace BlockBuilderService

def new (payloadConfig : PayloadConfig) (mevBundlesPool : BundlePool) : BlockBuilderService :=
  ⟨payloadConfig, 0, mevBundlesPool⟩

/-- Retrieves the parent block of payload attributes. -/
def parentBlock (R : Reth) (inputs : BuilderInputs) (attributes : EthPayloadBuilderAttributes) :
    Except ParentBlockError SealedBlock :=
  -- use latest block if parent is zero: genesis block
  if attributes.parent = 0 then
    match inputs.latestBlock with
    | .error err => .error (.internal err)
    | .ok none => .error (.missingParentBlock attributes.parent)
    | .ok (some block) => .ok (block.sealSlow R)
  else
    match inputs.findBlockByHash attributes.parent with
    | .error err => .error (.internal err)
    | .ok none => .error (.missingParentBlock attributes.parent)
    -- we already know the hash, so we can seal it
    | .ok (some block) => .ok (block.seal attributes.parent)

/-- The build configuration from the attributes and the slot. -/
def buildConfigs (R : Reth) (service : BlockBuilderService) (inputs : BuilderInputs)
    (attributes : EthPayloadBuilderAttributes) (slot : UInt64) : Option BuildConfig :=
  match parentBlock R inputs attributes with
  | .error _ => none
  | .ok parentBlock =>
    match inputs.validatorInfo slot with
    | none => none
    | some validatorInfo =>
      some (.new R service.payloadConfig.chainSpec attributes parentBlock slot validatorInfo)

/-- `prune_bundle_pool`: with the previous block number and the previous slot's time. -/
def pruneBundlePool (configs : BuildConfig) (mevBundlesPool : BundlePool) (acquired : Bool) :
    BundlePool :=
  let pruneBlock := configs.blockNumber - 1
  let pruneTimestamp := configs.attributes.timestamp - 12
  mevBundlesPool.prune acquired pruneBlock pruneTimestamp

/-- What a poll does about the last of the attributes it got: nothing for the
current slot or a time that has passed, else it takes on the slot. The build
configuration is the one that a payload and an auction are started for. -/
def onAttributes (R : Reth) (service : BlockBuilderService) (inputs : BuilderInputs)
    (attributes : EthPayloadBuilderAttributes) (slot : UInt64) :
    BlockBuilderService × Option BuildConfig :=
  if service.slot = slot then (service, none)
  else if attributes.timestamp ≤ inputs.now then (service, none)
  else
    let service := { service with slot := slot }
    match service.buildConfigs R inputs attributes slot with
    | none => (service, none)
    | some configs =>
      ({ service with
          mevBundlesPool := pruneBundlePool configs service.mevBundlesPool inputs.acquired },
        some configs)

end BlockBuilderService

end BlockBuilder
