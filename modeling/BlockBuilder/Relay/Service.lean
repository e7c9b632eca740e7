import BlockBuilder.Lib.Channel
import BlockBuilder.Primitives.Payload

/-!
# The relay service (`crates/relay/src/{services/relay,aggregator,relay}.rs`)

`RelayService` takes commands in order and answers each with a future, which the
caller awaits: the service never talks to a relay itself. The future of a
submission sends the bid to every relay of the pool at once, and the future of a
bid query collects what the relays report.

Mirroring notes:
- A relay keeps the latest submission of a builder for a slot, as the doc of
  `Relay::submit_bid` says.
- Signatures and execution payloads are left out of a submission.
-/

namespace BlockBuilder

open Lib (Channel)

inductive RelayName where
  | merkle
  | internal
  deriving DecidableEq, Repr

/-- `RelayPool::new`. -/
def RelayPool.new (internalRelayEnabled : Bool) : List RelayName :=
  if internalRelayEnabled then [.merkle, .internal] else [.merkle]

/-- A bid a relay reports. -/
structure BidTrace where
  builderPubkey : BlsPublicKey
  value : U256
  deriving DecidableEq, Repr

/-- `max_by_key(|t| t.value)`: the last of the greatest. -/
def maxByValue (traces : List BidTrace) : Option BidTrace :=
  traces.foldl (fun best trace =>
    match best with
    | none => some trace
    | some best => if best.value ≤ trace.value then some trace else some best) none

/-- `RelayHandle::get_top_bid`, from what the relays report: the top bid of the others. -/
def getTopBid (publicKey : BlsPublicKey) (traces : List (RelayName × List BidTrace)) :
    Option BidTrace :=
  maxByValue ((traces.flatMap (·.2)).filter fun trace => trace.builderPubkey != publicKey)

/-- A bid that a relay has been handed, with the task that did it. -/
structure Submission where
  relay : RelayName
  task : Nat
  bid : Bid
  deriving DecidableEq, Repr

end BlockBuilder
