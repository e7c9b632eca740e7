import BlockBuilder.Lib.Tickets
import BlockBuilder.Payload.TransferSlot

/-!
# Nonces

The EVM numbers the transactions of an externally owned account: it executes
one only with the nonce its account has, and committing the result raises that
nonce by one and no other externally owned account's. So the transactions of a
log are numbered tickets of their signers, and an executed transaction is
refused for its nonce from then on.

The chain of plain transfers wraps the nonce of an account round at 2^64. The
capped chain refuses the last nonce, as EIP-2681 has it, and numbers its
transactions.
-/

namespace BlockBuilder

open Lib (Along Tickets run_append along_append along_of_forall)

namespace ChainState

/-- The nonce of an account, `0` when there is none. -/
def nonce (s : ChainState) (a : Address) : UInt64 :=
  match s a with
  | .ok (some acct) => acct.info.nonce
  | _ => 0

theorem nonce_of_basic {s : ChainState} {a : Address} {info : Option AccountInfo}
    (h : s.basic a = .ok info) : (info.getD AccountInfo.default).nonce = s.nonce a := by
  obtain ⟨acct, hacct, rfl⟩ := basic_eq_ok_iff.mp h
  unfold nonce
  rw [hacct]
  cases acct <;> rfl

end ChainState

/-! ## Numbered transactions -/

/-- How the EVM numbers the transactions of the accounts `owned`. A nonce never
overflows: EIP-2681 rules the last one out. -/
structure Reth.CountsNonces (R : Reth) (owned : Address → Prop) : Prop where
  checks : ∀ env s tx r, owned tx.signer → R.transact env s tx = .ok r →
    tx.transaction.nonce = s.nonce tx.signer
  increments : ∀ env s tx r, owned tx.signer → R.transact env s tx = .ok r →
    ((s.commit r.state).nonce tx.signer).toNat = (s.nonce tx.signer).toNat + 1
  keeps : ∀ env s tx r a, owned a → a ≠ tx.signer → R.transact env s tx = .ok r →
    (s.commit r.state).nonce a = s.nonce a
  preBlock : ∀ cs timestamp number root env s st a, owned a →
    R.applyBeaconRootContractCall cs timestamp number root env s = .ok st →
    (s.commit st).nonce a = s.nonce a

/-- Transactions as tickets: a signer's nonces, from the nonce of its account. -/
def nonceTickets : Tickets ChainState SimulatedTransaction Address where
  owner sim := sim.tx.signer
  number sim := sim.tx.transaction.nonce.toNat
  count s a := (s.nonce a).toNat

/-- An executed transaction draws the next ticket of its signer. -/
theorem Reth.CountsNonces.draws {R : Reth} {owned : Address → Prop} (h : R.CountsNonces owned)
    {env : Env} {s : ChainState} {sim : SimulatedTransaction} (hexec : ExecutedOn R env s sim)
    (howned : owned sim.tx.signer) : nonceTickets.Draws ChainState.commitTx owned s sim where
  known := howned
  number_eq := congrArg UInt64.toNat (h.checks env s _ _ howned hexec.transact)
  own := h.increments env s _ _ howned hexec.transact
  others a ha hne := congrArg UInt64.toNat (h.keeps env s _ _ a ha hne hexec.transact)

/-- **A log is a run of numbered tickets**, if externally owned accounts signed it. -/
theorem Reth.CountsNonces.along {R : Reth} {owned : Address → Prop} (h : R.CountsNonces owned)
    {env : Env} {s : ChainState} {sims : List SimulatedTransaction}
    (hexec : Executes R env s sims) (howned : ∀ sim ∈ sims, owned sim.tx.signer) :
    Along ChainState.commitTx (nonceTickets.Draws ChainState.commitTx owned) s sims := by
  have hboth := Along.and hexec (along_of_forall howned)
  refine hboth.mono fun s sim hsim => ?_
  obtain ⟨hsim, hsigner⟩ := hsim
  exact h.draws hsim hsigner

/-- The EVM refuses to execute again, in the environment of a log, what the log
has executed: the nonce is too low. -/
def Reth.RejectsReplays (R : Reth) : Prop :=
  ∀ env s sims tx, Executes R env s sims → tx ∈ sims.map (·.tx) →
    ∃ a b, R.transact env (s.after sims) tx = .error (.transaction (.nonceTooLow a b))

/-! ## The capped chain -/

namespace TransferChain

/-- The last nonce, which no transaction may have. -/
def MAX_NONCE : UInt64 := 0xffffffffffffffff

def cappedTransact (env : Env) (s : ChainState) (tx : TransactionSignedEcRecovered) :
    Except EVMError ResultAndState :=
  if tx.transaction.nonce = MAX_NONCE then .error (.transaction (.other 1))
  else transact env s tx

end TransferChain

open TransferChain

/-- The chain of plain transfers with nonces capped. -/
def cappedChain : Reth := { transferChain with transact := cappedTransact }

namespace TransferChain

/-- An execution that only writes to accounts, and keeps all of them. -/
structure Writes (s : ChainState) (st : EvmState) : Prop where
  touched : ∀ a acct, st.get a = some acct → acct.touched = true
  kept : ∀ a, (load s st a).selfdestructed = false

theorem writes_nil (s : ChainState) : Writes s [] where
  touched _ _ h := by cases h
  kept := load_selfdestructed s

theorem Writes.cons {s : ChainState} {st : EvmState} (h : Writes s st) (a : Address)
    {acct : EvmAccount} (htouched : acct.touched = true) (hkept : acct.selfdestructed = false) :
    Writes s ((a, acct) :: st) where
  touched b found hb := by
    by_cases hab : b = a
    · rw [hab, get_cons_self] at hb
      cases hb
      exact htouched
    · rw [get_cons_ne st hab] at hb
      exact h.touched b found hb
  kept b := by
    by_cases hab : b = a
    · rw [hab, load_cons_self]
      exact hkept
    · rw [load_cons_ne s st hab]
      exact h.kept b

theorem Writes.touch {s : ChainState} {st : EvmState} (h : Writes s st) (a : Address)
    (f : AccountInfo → AccountInfo) : Writes s (touch s st a f) :=
  h.cons a rfl (h.kept a)

theorem load_nonce (s : ChainState) (a : Address) : (load s [] a).info.nonce = s.nonce a := by
  unfold load ChainState.nonce
  simp only [EvmState.get, List.lookup_nil]
  cases s a with
  | error err => rfl
  | ok acct => cases acct <;> rfl

/-- After the commit an account has the nonce the execution left it with. -/
theorem Writes.nonce_commit {s : ChainState} {st : EvmState} (h : Writes s st) (a : Address) :
    (s.commit st).nonce a = (load s st a).info.nonce := by
  have hkept := h.kept a
  unfold ChainState.nonce ChainState.commit
  cases hget : st.get a with
  | none =>
    have hchange : st.changes a = none := by
      unfold EvmState.changes
      rw [hget]
    have hload : load s st a = load s [] a := by
      unfold load
      rw [hget]
      rfl
    unfold Lib.Overlay.onto
    rw [hchange, hload, load_nonce]
    rfl
  | some acct =>
    have hload : load s st a = acct := by
      unfold load
      rw [hget]
    rw [hload] at hkept ⊢
    have hchange : st.changes a = some (some ⟨acct.info, acct.storage⟩) := by
      unfold EvmState.changes
      simp [hget, h.touched a acct hget, hkept]
    rw [Lib.Overlay.onto_of_some hchange]

/-- A write that leaves nonces alone. -/
theorem load_touch_nonce {s : ChainState} {st : EvmState} {f : AccountInfo → AccountInfo}
    (hf : ∀ i, (f i).nonce = i.nonce) (a b : Address) :
    (load s (touch s st a f) b).info.nonce = (load s st b).info.nonce := by
  by_cases hb : b = a
  · rw [hb, load_touch_self]
    exact hf _
  · rw [load_touch_ne s st hb]

/-- The nonces after a transfer: the signer's is one more. -/
theorem nonce_settle (env : Env) (s : ChainState) (tx : TransactionSignedEcRecovered)
    (a : Address) : (s.commit (settle env s tx)).nonce a =
      if a = tx.signer then s.nonce a + 1 else s.nonce a := by
  have hwrites : Writes s (settle env s tx) := by
    unfold settle
    exact (((writes_nil s).touch _ _).touch _ _).touch _ _
  rw [hwrites.nonce_commit]
  unfold settle
  -- the recipient and the coinbase are paid, which leaves their nonces
  refine (load_touch_nonce ?_ _ _).trans ((load_touch_nonce ?_ _ _).trans ?_)
  · exact fun _ => rfl
  · exact fun _ => rfl
  · split
    next ha =>
      rw [ha, load_touch_self]
      show (load s [] tx.signer).info.nonce + 1 = _
      rw [load_nonce]
    next ha => rw [load_touch_ne s [] ha, load_nonce]

/-- Writing the storage of an account leaves every nonce. -/
theorem nonce_writeStorage (s : ChainState) (a b : Address) (storage : List (U256 × U256)) :
    (s.commit [(a, { load s [] a with storage := storage, touched := true })]).nonce b =
      s.nonce b := by
  have hwrites : Writes s [(a, { load s [] a with storage := storage, touched := true })] :=
    (writes_nil s).cons a rfl (load_selfdestructed s a)
  rw [hwrites.nonce_commit, ← load_nonce]
  by_cases hb : b = a
  · rw [hb, load_cons_self]
  · rw [load_cons_ne s [] hb]

theorem cappedTransact_ok {env : Env} {s : ChainState} {tx : TransactionSignedEcRecovered}
    {r : ResultAndState} (h : cappedTransact env s tx = .ok r) :
    tx.transaction.nonce ≠ MAX_NONCE ∧ transact env s tx = .ok r := by
  unfold cappedTransact at h
  split at h
  next => cases h
  next hcap => exact ⟨hcap, h⟩

/-- What a valid transaction has passed. -/
theorem validate_none {env : Env} {sender : AccountInfo} {tx : Transaction}
    (h : validate env sender tx = none) :
    ¬ env.block.gasLimit < tx.gasLimit ∧ ¬ tx.gasLimit < TRANSFER_GAS ∧
      ¬ tx.maxFeePerGas.toNat < env.block.basefee.toNat ∧ tx.nonce = sender.nonce := by
  unfold validate at h
  split at h
  next => cases h
  next hlimit =>
    split at h
    next => cases h
    next hgas =>
      split at h
      next => cases h
      next hprice =>
        split at h
        next => cases h
        next hlow =>
          split at h
          next => cases h
          next hhigh =>
            exact ⟨hlimit, hgas, hprice,
              UInt64.le_antisymm (UInt64.not_lt.mp hhigh) (UInt64.not_lt.mp hlow)⟩

theorem transact_nonce {env : Env} {s : ChainState} {tx : TransactionSignedEcRecovered}
    {r : ResultAndState} (h : transact env s tx = .ok r) :
    tx.transaction.nonce = s.nonce tx.signer := by
  obtain ⟨⟨acct, hacct, hvalid⟩, -⟩ := transact_ok h
  obtain ⟨-, -, -, hnonce⟩ := validate_none hvalid
  rw [hnonce, ChainState.nonce_of_basic hacct]

end TransferChain

/-- **The capped chain numbers its transactions.** -/
theorem cappedChain_countsNonces : cappedChain.CountsNonces fun _ => True where
  checks env s tx r _ h := transact_nonce (cappedTransact_ok h).2
  increments env s tx r _ h := by
    obtain ⟨hcap, hr⟩ := cappedTransact_ok h
    obtain ⟨-, -, -, hstate⟩ := transact_ok hr
    have hbelow : (s.nonce tx.signer).toNat ≠ MAX_NONCE.toNat := by
      rw [← transact_nonce hr]
      exact fun hsame => hcap (UInt64.toNat_inj.mp hsame)
    have hword := UInt64.toNat_lt (s.nonce tx.signer)
    rw [hstate, nonce_settle, if_pos rfl, UInt64.toNat_add]
    have hmax : MAX_NONCE.toNat = 2 ^ 64 - 1 := rfl
    have hone : (1 : UInt64).toNat = 1 := rfl
    omega
  keeps env s tx r a _ hne h := by
    obtain ⟨-, -, -, hstate⟩ := transact_ok (cappedTransact_ok h).2
    rw [hstate, nonce_settle, if_neg hne]
  preBlock cs timestamp number root env s st a _ h := by
    replace h : applyBeaconRootContractCall cs timestamp number root env s = .ok st := h
    unfold applyBeaconRootContractCall at h
    split at h
    next =>
      cases h
      rfl
    next =>
      split at h
      next => cases h
      next root =>
        cases h
        exact nonce_writeStorage s BEACON_ROOTS_ADDRESS a _

/-- **The capped chain rejects replays.** What the gas limit and the base fee let
through once they let through again, and the nonce has moved on. -/
theorem cappedChain_rejectsReplays : cappedChain.RejectsReplays := by
  intro env s sims tx hexec hmem
  obtain ⟨sim, hsim, rfl⟩ := List.mem_map.mp hmem
  have hlow : sim.tx.transaction.nonce < (s.after sims).nonce sim.tx.signer := by
    have hdraws := cappedChain_countsNonces.along hexec fun _ _ => trivial
    exact UInt64.lt_iff_toNat_lt.mpr (Tickets.number_bounds hdraws hsim).2
  obtain ⟨pre, post, rfl⟩ := List.append_of_mem hsim
  -- it was executed after the log up to it, so it had passed the checks there
  obtain ⟨-, hhere, -⟩ := (along_append _ _ _).mp hexec
  obtain ⟨hcap, hr⟩ := cappedTransact_ok hhere.transact
  obtain ⟨⟨acct, hacct, hvalid⟩, -⟩ := transact_ok hr
  obtain ⟨hlimit, hgas, hprice, -⟩ := validate_none hvalid
  obtain ⟨acct', hbasic⟩ : ∃ acct', (s.after (pre ++ sim :: post)).basic sim.tx.signer =
      .ok acct' := by
    have hsplit : s.after (pre ++ sim :: post) = (s.after pre).after (sim :: post) :=
      run_append s pre (sim :: post)
    rw [hsplit]
    exact ChainState.basic_after_ok (sim :: post) ⟨acct, hacct⟩
  rw [← ChainState.nonce_of_basic hbasic] at hlow
  have hinvalid : validate env (acct'.getD AccountInfo.default) sim.tx.transaction =
      some (.nonceTooLow sim.tx.transaction.nonce (acct'.getD AccountInfo.default).nonce) := by
    unfold validate
    rw [if_neg hlimit, if_neg hgas, if_neg hprice, if_pos hlow]
  refine ⟨sim.tx.transaction.nonce, (acct'.getD AccountInfo.default).nonce, ?_⟩
  show cappedTransact env (s.after (pre ++ sim :: post)) sim.tx = _
  unfold cappedTransact transact
  rw [if_neg hcap, hbasic]
  simp only [hinvalid]

end BlockBuilder
