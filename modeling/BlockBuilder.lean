import BlockBuilder.Bidder.BestBlock
import BlockBuilder.Bidder.Bids
import BlockBuilder.Bidder.Policy
import BlockBuilder.Bidder.Posting
import BlockBuilder.Bidder.Service
import BlockBuilder.Bidder.Submitting
import BlockBuilder.Bidder.Surplus
import BlockBuilder.Bidder.TopBids
import BlockBuilder.Builder.Delivery
import BlockBuilder.Builder.Guard
import BlockBuilder.Builder.Jobs
import BlockBuilder.Builder.Node
import BlockBuilder.Builder.Provenance
import BlockBuilder.Builder.Pruning
import BlockBuilder.Builder.Service
import BlockBuilder.Builder.Slots
import BlockBuilder.Builder.Submissions
import BlockBuilder.Builder.System
import BlockBuilder.Bundles.Bundle
import BlockBuilder.Bundles.Indexes
import BlockBuilder.Bundles.Inner
import BlockBuilder.Bundles.Origins
import BlockBuilder.Bundles.Pool
import BlockBuilder.Bundles.Queries
import BlockBuilder.Bundles.Replacement
import BlockBuilder.Consensus.Clock
import BlockBuilder.Consensus.Layer
import BlockBuilder.Consensus.Types
import BlockBuilder.Lib.Argmax
import BlockBuilder.Lib.ByteOrder
import BlockBuilder.Lib.Channel
import BlockBuilder.Lib.Codec
import BlockBuilder.Lib.Grows
import BlockBuilder.Lib.HashTree
import BlockBuilder.Lib.InPlace
import BlockBuilder.Lib.Interval
import BlockBuilder.Lib.Layout
import BlockBuilder.Lib.Numerals
import BlockBuilder.Lib.Oneshot
import BlockBuilder.Lib.Overlay
import BlockBuilder.Lib.Run
import BlockBuilder.Lib.Semaphore
import BlockBuilder.Lib.Sequence
import BlockBuilder.Lib.Serde
import BlockBuilder.Lib.Settles
import BlockBuilder.Lib.Simulation
import BlockBuilder.Lib.Table
import BlockBuilder.Lib.Tickets
import BlockBuilder.Payload.BuildState
import BlockBuilder.Payload.BundleExecution
import BlockBuilder.Payload.Capacity
import BlockBuilder.Payload.Db
import BlockBuilder.Payload.EmptyBlock
import BlockBuilder.Payload.GasLimits
import BlockBuilder.Payload.Inclusion
import BlockBuilder.Payload.Inputs
import BlockBuilder.Payload.IntervalJob
import BlockBuilder.Payload.IntervalRuns
import BlockBuilder.Payload.IntoBuild
import BlockBuilder.Payload.Job
import BlockBuilder.Payload.JobRuns
import BlockBuilder.Payload.Log
import BlockBuilder.Payload.NoBundles
import BlockBuilder.Payload.Nonces
import BlockBuilder.Payload.Ofac
import BlockBuilder.Payload.OneByOne
import BlockBuilder.Payload.Payment
import BlockBuilder.Payload.Refunds
import BlockBuilder.Payload.Replay
import BlockBuilder.Payload.Replies
import BlockBuilder.Payload.Revenue
import BlockBuilder.Payload.Sanctions
import BlockBuilder.Payload.Sealed
import BlockBuilder.Payload.Selection
import BlockBuilder.Payload.Service
import BlockBuilder.Payload.ServiceRuns
import BlockBuilder.Payload.Simulation
import BlockBuilder.Payload.Strategy
import BlockBuilder.Payload.TransferSlot
import BlockBuilder.Payload.Uncancelled
import BlockBuilder.Primitives.Bid
import BlockBuilder.Primitives.Blst
import BlockBuilder.Primitives.Chain
import BlockBuilder.Primitives.GasTarget
import BlockBuilder.Primitives.Json
import BlockBuilder.Primitives.Payload
import BlockBuilder.Primitives.Pool
import BlockBuilder.Primitives.SigningRoot
import BlockBuilder.Primitives.Ssz
import BlockBuilder.Primitives.TransferChain
import BlockBuilder.Primitives.Validator
import BlockBuilder.Primitives.Words
import BlockBuilder.Relay.Aggregator
import BlockBuilder.Relay.Cache
import BlockBuilder.Relay.InternalRelay
import BlockBuilder.Relay.Service
import BlockBuilder.Relay.Submit
import BlockBuilder.Relay.Validators
import BlockBuilder.Rpc.Admission
import BlockBuilder.Rpc.SendBundle
import BlockBuilder.Rpc.Submissions
