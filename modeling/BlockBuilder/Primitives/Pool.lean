import BlockBuilder.Primitives.Chain

/-!
# The transaction pool

reth's pool as the builder uses it: an iterator over the best transactions for
a base fee, and the blobs of transactions by hash. The iterator reacts to what
it is told about a transaction it has just yielded, so it is a tree: each node
is a transaction, and what comes next depends on the calls made about it.
-/

namespace BlockBuilder

/-- What a loop tells the iterator about the transaction it got last. -/
inductive IterCall where
  | markInvalid
  | skipBlobs
  deriving DecidableEq, Repr

/-- `dyn BestTransactions`. -/
inductive BestTransactions where
  | done
  | next (tx : TransactionSignedEcRecovered) (rest : List IterCall → BestTransactions)

/-- The transactions an iterator can yield, whatever it is told. -/
inductive BestTransactions.Yields : BestTransactions → TransactionSignedEcRecovered → Prop
  | head (tx rest) : Yields (.next tx rest) tx
  | tail {tx rest calls tx'} (h : Yields (rest calls) tx') : Yields (.next tx rest) tx'

/-- `TransactionPool`. -/
structure Pool where
  /-- By base fee and blob fee. -/
  bestTransactionsWithAttributes : UInt64 → Option UInt64 → BestTransactions
  getAllBlobsExact : List B256 → Except Nat (List BlobSidecar)

/-- The iterator of a list that ignores what it is told. -/
def BestTransactions.ofList : List TransactionSignedEcRecovered → BestTransactions
  | [] => .done
  | tx :: txs => .next tx fun _ => ofList txs

theorem BestTransactions.mem_of_yields_ofList {tx : TransactionSignedEcRecovered} :
    ∀ {txs : List TransactionSignedEcRecovered}, (ofList txs).Yields tx → tx ∈ txs
  | _ :: _, .head _ _ => List.mem_cons_self ..
  | _ :: _, .tail h => List.mem_cons_of_mem _ (mem_of_yields_ofList h)

end BlockBuilder
