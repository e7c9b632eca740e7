import BlockBuilder.Bundles.Bundle
import BlockBuilder.Payload.Ofac

/-!
# Simulation outcomes (`strategy/state/{transaction,bundle}.rs`)

What a simulation hands to the commit step: for a transaction its EVM result
and state with the gas and value figures derived from them, for a bundle the
list of those and an aggregate.

`fromTxs` stops at the first disallowed revert, so its sums cover a prefix of
the bundle; `fromTxs_complete` says that they cover all of it whenever no
revert is reported. The sums wrap, as the `+=` of the source does, and are
compared below through `gasSum`, `blobGasSum`, `feeSum` and `transferSum`.
-/

namespace BlockBuilder

structure TransactionSimulationOutcome where
  evmResult : ExecutionResult
  evmState : EvmState
  gasUsed : UInt64
  blobGasUsed : UInt64
  fees : U256
  coinbaseTransfer : U256
  deriving DecidableEq, Repr

/-- The first blacklisted address the execution loaded. -/
def TransactionSimulationOutcome.containsOfacAddresses (o : TransactionSimulationOutcome) :
    Option Address :=
  (o.evmState.find? fun e => Address.containsOfacAddresses e.1).map (·.1)

theorem TransactionSimulationOutcome.containsOfacAddresses_eq_none_iff
    (o : TransactionSimulationOutcome) :
    o.containsOfacAddresses = none ↔ ∀ e ∈ o.evmState, e.1 ∉ OFAC_ADDRESSES := by
  unfold containsOfacAddresses
  simp only [Option.map_eq_none_iff, List.find?_eq_none, Address.containsOfacAddresses_iff]

structure SimulatedTransaction where
  tx : TransactionSignedEcRecovered
  outcome : TransactionSimulationOutcome

/-! ## Sums over simulated transactions -/

def gasSum (sims : List SimulatedTransaction) : UInt64 :=
  sims.foldr (fun s acc => s.outcome.gasUsed + acc) 0

def blobGasSum (sims : List SimulatedTransaction) : UInt64 :=
  sims.foldr (fun s acc => s.outcome.blobGasUsed + acc) 0

def feeSum (sims : List SimulatedTransaction) : U256 :=
  sims.foldr (fun s acc => s.outcome.fees + acc) 0

def transferSum (sims : List SimulatedTransaction) : U256 :=
  sims.foldr (fun s acc => s.outcome.coinbaseTransfer + acc) 0

section Sums

variable (s : SimulatedTransaction) (xs ys : List SimulatedTransaction)

@[simp] theorem gasSum_nil : gasSum [] = 0 := rfl

@[simp] theorem gasSum_cons : gasSum (s :: xs) = s.outcome.gasUsed + gasSum xs := rfl

@[simp] theorem blobGasSum_nil : blobGasSum [] = 0 := rfl

@[simp] theorem blobGasSum_cons :
    blobGasSum (s :: xs) = s.outcome.blobGasUsed + blobGasSum xs := rfl

@[simp] theorem feeSum_nil : feeSum [] = 0 := rfl

@[simp] theorem feeSum_cons : feeSum (s :: xs) = s.outcome.fees + feeSum xs := rfl

@[simp] theorem transferSum_nil : transferSum [] = 0 := rfl

@[simp] theorem transferSum_cons :
    transferSum (s :: xs) = s.outcome.coinbaseTransfer + transferSum xs := rfl

/-- A sum over two lists one after the other, in any of the builder's words. -/
theorem foldr_add_append {α M : Type} [Add M] (zero : M) (hzero : ∀ a : M, zero + a = a)
    (hassoc : ∀ a b c : M, a + b + c = a + (b + c)) (f : α → M) (xs ys : List α) :
    (xs ++ ys).foldr (fun x acc => f x + acc) zero =
      xs.foldr (fun x acc => f x + acc) zero + ys.foldr (fun x acc => f x + acc) zero := by
  induction xs with
  | nil => exact (hzero _).symm
  | cons x xs ih => rw [List.cons_append, List.foldr_cons, List.foldr_cons, ih, hassoc]

theorem gasSum_append : gasSum (xs ++ ys) = gasSum xs + gasSum ys :=
  foldr_add_append (0 : UInt64) UInt64.zero_add UInt64.add_assoc
    (fun x : SimulatedTransaction => x.outcome.gasUsed) xs ys

theorem blobGasSum_append : blobGasSum (xs ++ ys) = blobGasSum xs + blobGasSum ys :=
  foldr_add_append (0 : UInt64) UInt64.zero_add UInt64.add_assoc
    (fun x : SimulatedTransaction => x.outcome.blobGasUsed) xs ys

theorem foldr_add_eq_zero {α M : Type} [Add M] (zero : M) (hzero : zero + zero = zero) {f : α → M} :
    ∀ {xs : List α}, (∀ x ∈ xs, f x = zero) → xs.foldr (fun x acc => f x + acc) zero = zero
  | [], _ => rfl
  | x :: xs, h => by
    rw [List.foldr_cons, foldr_add_eq_zero zero hzero fun y hy => h y (List.mem_cons_of_mem _ hy),
      h x (List.mem_cons_self ..), hzero]

theorem blobGasSum_eq_zero (h : ∀ s ∈ xs, s.outcome.blobGasUsed = 0) : blobGasSum xs = 0 :=
  foldr_add_eq_zero (0 : UInt64) rfl h

theorem feeSum_append : feeSum (xs ++ ys) = feeSum xs + feeSum ys :=
  foldr_add_append (0 : U256) BitVec.zero_add BitVec.add_assoc
    (fun x : SimulatedTransaction => x.outcome.fees) xs ys

theorem transferSum_append : transferSum (xs ++ ys) = transferSum xs + transferSum ys :=
  foldr_add_append (0 : U256) BitVec.zero_add BitVec.add_assoc
    (fun x : SimulatedTransaction => x.outcome.coinbaseTransfer) xs ys

end Sums

/-! ## Bundles -/

structure BundleSimulationOutcome where
  /-- `some i`: the transaction at index `i` reverted and was not allowed to. -/
  reverted : Option Nat
  gasUsed : UInt64
  blobGasUsed : UInt64
  fees : U256
  coinbaseTransfer : U256
  refund : U256
  deriving DecidableEq, Repr

namespace BundleSimulationOutcome

def default : BundleSimulationOutcome := ⟨none, 0, 0, 0, 0, 0⟩

/-- `add_tx_outcome`. -/
def addTxOutcome (o : BundleSimulationOutcome) (tx : TransactionSimulationOutcome) :
    BundleSimulationOutcome :=
  { o with
    gasUsed := o.gasUsed + tx.gasUsed
    blobGasUsed := o.blobGasUsed + tx.blobGasUsed
    fees := o.fees + tx.fees
    coinbaseTransfer := o.coinbaseTransfer + tx.coinbaseTransfer }

/-- A transaction that failed and whose hash is not in `reverting_tx_hashes`. -/
def disallowedRevert (bundle : RecoveredBundle) (s : SimulatedTransaction) : Bool :=
  !s.outcome.evmResult.isSuccess && !bundle.revertingTxHashes.contains s.tx.hash

/-- The loop of `from_txs`, at index `index` with the sums so far. -/
def fromTxsLoop (bundle : RecoveredBundle) :
    Nat → BundleSimulationOutcome → List SimulatedTransaction → BundleSimulationOutcome
  | _, acc, [] => acc
  | index, acc, s :: sims =>
    if disallowedRevert bundle s then { acc with reverted := some index }
    else fromTxsLoop bundle (index + 1) (acc.addTxOutcome s.outcome) sims

def fromTxs (bundle : RecoveredBundle) (sims : List SimulatedTransaction) :
    BundleSimulationOutcome :=
  fromTxsLoop bundle 0 default sims

def totalValue (o : BundleSimulationOutcome) : U256 :=
  saturatingSub (saturatingAdd o.fees o.coinbaseTransfer) o.refund

/-- The sums of the loop when it ran to the end, which is when it reports no revert. -/
theorem fromTxsLoop_complete (bundle : RecoveredBundle) :
    ∀ (sims : List SimulatedTransaction) (index : Nat) (acc : BundleSimulationOutcome),
      (fromTxsLoop bundle index acc sims).reverted = none →
      (∀ s ∈ sims, disallowedRevert bundle s = false) ∧
        fromTxsLoop bundle index acc sims =
          { acc with
            gasUsed := acc.gasUsed + gasSum sims
            blobGasUsed := acc.blobGasUsed + blobGasSum sims
            fees := acc.fees + feeSum sims
            coinbaseTransfer := acc.coinbaseTransfer + transferSum sims } := by
  intro sims
  induction sims with
  | nil =>
    intro index acc _
    refine ⟨fun s hs => absurd hs (by simp), ?_⟩
    simp [fromTxsLoop]
  | cons s sims ih =>
    intro index acc hrev
    unfold fromTxsLoop at hrev ⊢
    split
    -- A revert that is not allowed stops the loop and is reported.
    next hbad =>
      rw [if_pos hbad] at hrev
      exact absurd hrev (by simp)
    next hgood =>
      rw [if_neg hgood] at hrev
      obtain ⟨hall, heq⟩ := ih (index + 1) (acc.addTxOutcome s.outcome) hrev
      refine ⟨?_, ?_⟩
      · intro x hx
        rcases List.mem_cons.mp hx with rfl | hx'
        · simpa using hgood
        · exact hall x hx'
      · rw [heq]
        simp [addTxOutcome, UInt64.add_assoc, BitVec.add_assoc]

/-- **The aggregate covers the bundle**: without a reported revert, every sum
is over all its transactions and none of them reverted against the rules. -/
theorem fromTxs_complete {bundle : RecoveredBundle} {sims : List SimulatedTransaction}
    (h : (fromTxs bundle sims).reverted = none) :
    (∀ s ∈ sims, disallowedRevert bundle s = false) ∧
      fromTxs bundle sims =
        ⟨none, gasSum sims, blobGasSum sims, feeSum sims, transferSum sims, 0⟩ := by
  obtain ⟨hall, heq⟩ := fromTxsLoop_complete bundle sims 0 default h
  refine ⟨hall, ?_⟩
  unfold fromTxs
  rw [heq]
  simp [default]

end BundleSimulationOutcome

structure SimulatedBundle where
  bundle : RecoveredBundle
  simulatedTxs : List SimulatedTransaction
  outcome : BundleSimulationOutcome

namespace SimulatedBundle

/-- The refund at a base fee: `0` without a refund request or without a
transaction at the refund index. -/
def calculateRefund (bundle : RecoveredBundle) (sims : List SimulatedTransaction)
    (baseFee : UInt64) : U256 :=
  match bundle.refund with
  | none => 0
  | some refund =>
    match bundle.refundIndex.bind (sims[·]?) with
    | none => 0
    | some s => refund.refundAmount s.outcome.fees s.outcome.coinbaseTransfer baseFee

def new (bundle : RecoveredBundle) (sims : List SimulatedTransaction) (baseFee : UInt64) :
    SimulatedBundle where
  bundle := bundle
  simulatedTxs := sims
  outcome :=
    { BundleSimulationOutcome.fromTxs bundle sims with
      refund := calculateRefund bundle sims baseFee }

/-- Add a transaction and update the outcome. -/
def addTx (b : SimulatedBundle) (tx : SimulatedTransaction) : SimulatedBundle :=
  { b with
    outcome := b.outcome.addTxOutcome tx.outcome
    simulatedTxs := b.simulatedTxs ++ [tx] }

/-- Insert before the first bundle of at most the same value. -/
def insertByValue (b : SimulatedBundle) : List SimulatedBundle → List SimulatedBundle
  | [] => [b]
  | x :: xs =>
    if x.outcome.totalValue ≤ b.outcome.totalValue then b :: x :: xs
    else x :: insertByValue b xs

/-- Stable sort by total value, highest first. -/
def sortByMaxValue (bundles : List SimulatedBundle) : List SimulatedBundle :=
  bundles.foldr insertByValue []

/-- `contains_committed_transaction`. -/
def containsCommittedTransaction (b : SimulatedBundle) (committed : List B256) : Bool :=
  b.bundle.recoveredTxs.any fun tx => committed.contains tx.hash

def containsOfac (b : SimulatedBundle) : Bool :=
  b.bundle.recoveredTxs.any (·.containsOfacAddresses)

theorem mem_insertByValue {b x : SimulatedBundle} : ∀ {xs : List SimulatedBundle},
    x ∈ insertByValue b xs ↔ x = b ∨ x ∈ xs
  | [] => by simp [insertByValue]
  | y :: ys => by
    unfold insertByValue
    split
    · simp
    · simp [mem_insertByValue, or_left_comm]

/-- Sorting keeps the bundles. -/
theorem mem_sortByMaxValue {x : SimulatedBundle} : ∀ {xs : List SimulatedBundle},
    x ∈ sortByMaxValue xs ↔ x ∈ xs
  | [] => by simp [sortByMaxValue]
  | y :: ys => by
    have ih : x ∈ sortByMaxValue ys ↔ x ∈ ys := mem_sortByMaxValue
    show x ∈ insertByValue y (sortByMaxValue ys) ↔ x ∈ y :: ys
    rw [mem_insertByValue, ih, List.mem_cons]

end SimulatedBundle

end BlockBuilder
