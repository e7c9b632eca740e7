import BlockBuilder.Primitives.TransferChain
import BlockBuilder.Rpc.SendBundle

/-!
# What the RPC accepts and what the builder reads (`crates/rpc/src/utils.rs`, `crates/bundles/src/bundle.rs`)

A request is checked with the decoder of pooled transactions, and its bytes go
into the pool as they came. The builder reads them again, with the decoder of
transactions in a block. The two read the same bytes alike except for blob
transactions, which are pooled with their sidecar and stand in a block without
it.
-/

namespace BlockBuilder

/-- The wire forms of reth's decoders. -/
structure Reth.WireForms (R : Reth) : Prop where
  /-- Both decoders read a transaction without blobs. -/
  agree : ∀ data tx, tx.transaction.isEip4844 = false →
    (R.decodePooled data = some tx ↔ R.decodeEnveloped data = some tx)
  /-- A blob transaction with its sidecar is not one without it. -/
  sidecar : ∀ data tx tx', R.decodePooled data = some tx → tx.transaction.isEip4844 = true →
    R.decodeEnveloped data = some tx' → tx'.transaction.isEip4844 = false

/-- Whether the RPC reads a blob transaction. -/
def Reth.readsBlobs (R : Reth) (data : Bytes) : Bool :=
  (R.decodePooled data).any fun tx => tx.transaction.isEip4844

/-- A blob transaction the RPC reads is no transaction to the builder. -/
theorem Reth.WireForms.decodeEnveloped {R : Reth} (forms : R.WireForms) {data : Bytes}
    {tx : TransactionSigned} (h : R.decodePooled data = some tx) :
    R.decodeEnveloped data = if R.readsBlobs data then none else some tx := by
  unfold Reth.readsBlobs
  rw [h]
  cases hblob : tx.transaction.isEip4844 with
  | false => simpa [hblob] using (forms.agree data tx hblob).mp h
  | true =>
    simp only [Option.any_some, hblob, if_true]
    cases hread : R.decodeEnveloped data with
    | none => rfl
    | some tx' =>
      -- without blobs, the RPC would have read it as well
      have hplain := forms.sidecar data tx tx' h hblob hread
      cases h.symm.trans ((forms.agree data tx' hplain).mpr hread)
      rw [hblob] at hplain
      cases hplain

theorem recoverRawTransaction_eq_ok {R : Reth} {data : Bytes} {tx : TransactionSignedEcRecovered}
    (h : recoverRawTransaction R data = .ok tx) :
    ∃ transaction, R.decodePooled data = some transaction ∧ transaction.intoEcrecovered = some tx := by
  unfold recoverRawTransaction at h
  split at h
  next => cases h
  next =>
    split at h
    next => cases h
    next transaction hdecode =>
      split at h
      next => cases h
      next tx' hrecovered =>
        cases h
        exact ⟨transaction, hdecode, hrecovered⟩

/-- The transaction the builder reads from what the RPC accepted. -/
theorem recover_enveloped {R : Reth} (forms : R.WireForms) {data : Bytes}
    {tx : TransactionSignedEcRecovered} (h : recoverRawTransaction R data = .ok tx) :
    (R.decodeEnveloped data).bind (·.intoEcrecovered) =
      if R.readsBlobs data then none else some tx := by
  obtain ⟨transaction, hdecode, hrecovered⟩ := recoverRawTransaction_eq_ok h
  rw [forms.decodeEnveloped hdecode]
  split
  next => rfl
  next => exact hrecovered

/-- The transactions the builder reads: one blob transaction loses them all. -/
theorem mapM_enveloped {R : Reth} (forms : R.WireForms) :
    ∀ {data : List Bytes} {txs : List TransactionSignedEcRecovered},
      data.mapM (recoverRawTransaction R) = .ok txs →
      (data.mapM fun tx => (R.decodeEnveloped tx).bind (·.intoEcrecovered)) =
        if data.any R.readsBlobs then none else some txs := by
  intro data
  induction data with
  | nil =>
    intro txs h
    cases h
    rfl
  | cons tx data ih =>
    intro txs h
    rw [List.mapM_cons] at h ⊢
    cases htx : recoverRawTransaction R tx with
    | error err =>
      rw [htx] at h
      cases h
    | ok first =>
      cases hrest : data.mapM (recoverRawTransaction R) with
      | error err =>
        rw [htx, hrest] at h
        cases h
      | ok rest =>
        rw [htx, hrest] at h
        cases h
        rw [recover_enveloped forms htx, ih hrest, List.any_cons]
        cases R.readsBlobs tx with
        | true => rfl
        | false =>
          cases data.any R.readsBlobs with
          | true => rfl
          | false => rfl

/-- **What the builder gets of an accepted bundle**: its transactions, or nothing if
one of them carries blobs. -/
theorem recoverBundles_accepted {R : Reth} (forms : R.WireForms) {data : List Bytes}
    {blockNumber : UInt64} {txs : List TransactionSignedEcRecovered} {stored : Bundle}
    (h : recoverTransactions R data blockNumber = .ok txs) (hstored : stored.txs = data) :
    Bundle.recoverBundles R [stored] =
      if data.any R.readsBlobs then [] else [RecoveredBundle.new stored txs] := by
  unfold recoverTransactions at h
  split at h
  next => cases h
  next =>
    split at h
    next => cases h
    next =>
      unfold Bundle.recoverBundles
      rw [List.filterMap_cons, hstored, mapM_enveloped forms h]
      cases data.any R.readsBlobs with
      | true => rfl
      | false => rfl

/-- **An accepted bundle is kept if and only if it carries no blobs.** The request is
acknowledged either way. -/
theorem accepted_kept_iff (R : Reth) (forms : R.WireForms) (request : EthSendBundle)
    (pool : BundlePool) {txs : List TransactionSignedEcRecovered}
    (h : recoverTransactions R request.txs request.blockNumber = .ok txs) :
    let stored := Bundle.ofEthSendBundle request (Bundle.createHash R txs)
    request.send R pool true = (.ok stored.hash, (pool.addBundle true stored).2) ∧
    (Bundle.recoverBundles R [stored] = [RecoveredBundle.new stored txs] ↔
      ∀ data ∈ request.txs, R.readsBlobs data = false) := by
  intro stored
  constructor
  · unfold EthSendBundle.send EthSendBundle.recovered
    rw [h]
    rfl
  · rw [recoverBundles_accepted forms h rfl]
    cases hblobs : request.txs.any R.readsBlobs with
    | true =>
      obtain ⟨data, hmem, hdata⟩ := List.any_eq_true.mp hblobs
      constructor
      · intro hkept
        cases hkept
      · intro hplain
        rw [hplain data hmem] at hdata
        cases hdata
    | false => simpa using List.any_eq_false.mp hblobs

/-! ## A chain with blobs -/

namespace TransferChain

/-- A transfer of a signer that also carries a blob. -/
def blobTransfer (signer nonce recipient value price : UInt8) : TransactionSigned :=
  let plain := (transfer (BitVec.ofNat 160 signer.toNat) nonce.toUInt64
    (BitVec.ofNat 160 recipient.toNat) (BitVec.ofNat 256 value.toNat)
    (BitVec.ofNat 128 price.toNat) TRANSFER_GAS).signedTransaction
  { plain with
    transaction :=
      { plain.transaction with
        txType := .eip4844
        blobVersionedHashes := [1] } }

/-- The consensus form of a blob transfer has six bytes. -/
def decodeConsensus (bytes : Bytes) : Option TransactionSigned :=
  match bytes with
  | [_, signer, nonce, recipient, value, price] =>
    some (blobTransfer signer nonce recipient value price)
  | _ => decode bytes

/-- The network form has the blob as a seventh. -/
def decodeNetwork (bytes : Bytes) : Option TransactionSigned :=
  match bytes with
  | [_, signer, nonce, recipient, value, price, _] =>
    some (blobTransfer signer nonce recipient value price)
  | _ => decode bytes

theorem decode_plain {data : Bytes} {tx : TransactionSigned} (h : decode data = some tx) :
    tx.transaction.isEip4844 = false := by
  unfold decode at h
  split at h
  next =>
    cases h
    rfl
  next => cases h

end TransferChain

open TransferChain in
/-- The chain of transfers, some of which carry blobs. -/
def blobChain : Reth :=
  { transferChain with decodeEnveloped := decodeConsensus, decodePooled := decodeNetwork }

theorem blobChain_wireForms : blobChain.WireForms := by
  constructor
  · intro data tx hplain
    show TransferChain.decodeNetwork data = some tx ↔ TransferChain.decodeConsensus data = some tx
    unfold TransferChain.decodeNetwork TransferChain.decodeConsensus
    split
    next =>
      constructor
      · intro h
        cases h
        cases hplain
      · intro h
        cases h
    next =>
      split
      next =>
        constructor
        · intro h
          cases h
        · intro h
          cases h
          cases hplain
      next => exact Iff.rfl
  · intro data tx tx' hpooled hblob henveloped
    replace hpooled : TransferChain.decodeNetwork data = some tx := hpooled
    replace henveloped : TransferChain.decodeConsensus data = some tx' := henveloped
    unfold TransferChain.decodeNetwork at hpooled
    unfold TransferChain.decodeConsensus at henveloped
    split at hpooled
    next => cases henveloped
    next =>
      rw [TransferChain.decode_plain hpooled] at hblob
      cases hblob

/-- One transfer without blobs. -/
theorem accepted_kept_plain :
    let request : EthSendBundle := ⟨[[1, 0, 2, 5, 10]], 11, none, none, [], none, none, none, none⟩
    let txs := [TransferChain.transfer 1 0 2 5 10 21000]
    let stored := Bundle.ofEthSendBundle request (Bundle.createHash blobChain txs)
    request.send blobChain .new true = (.ok stored.hash, (BundlePool.new.addBundle true stored).2) ∧
    (Bundle.recoverBundles blobChain [stored] = [RecoveredBundle.new stored txs] ↔
      ∀ data ∈ request.txs, blobChain.readsBlobs data = false) :=
  accepted_kept_iff blobChain blobChain_wireForms
    ⟨[[1, 0, 2, 5, 10]], 11, none, none, [], none, none, none, none⟩ .new rfl

/-- A bundle of one blob transaction is acknowledged, and the builder never sees it. -/
theorem accepted_blob_dropped :
    let request : EthSendBundle :=
      ⟨[[3, 1, 0, 2, 5, 10, 4]], 11, none, none, [], none, none, none, none⟩
    let sent := request.send blobChain .new true
    blobChain.WireForms ∧
    ((recoverTransactions blobChain request.txs request.blockNumber).toOption.map (·.length)) =
      some 1 ∧
    (sent.1.toOption.bind sent.2.inner.bundles.lookup).isSome = true ∧
    ¬ (sent.1.toOption.bind sent.2.inner.bundles.lookup).all fun stored =>
      (Bundle.recoverBundles blobChain [stored]).length = 1 :=
  ⟨blobChain_wireForms, by decide +kernel, by decide +kernel, by decide +kernel⟩

end BlockBuilder
