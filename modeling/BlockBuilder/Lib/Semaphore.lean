import Mathlib.Data.List.Basic

/-!
# Semaphores

A fair semaphore: a party that asks gets a permit if there is one left, and waits
in a queue if there is none; a permit that is given back goes to the first party
in the queue.

`Served` says who holds a permit by what was asked and given back alone: of the
parties, in the order in which they asked, as many have been served as there are
permits and permits given back, and the others wait. Every operation keeps it
(`Served.step`).
-/

namespace BlockBuilder.Lib

structure Semaphore (κ : Type) where
  /-- The permits that are left. -/
  permits : Nat
  holders : List κ
  waiting : List κ
  /-- History: who has asked, in order. -/
  asked : List κ
  /-- History: who has given a permit back. -/
  released : List κ

inductive SemaphoreOp (κ : Type) where
  | acquire (k : κ)
  | release (k : κ)

namespace Semaphore

variable {κ : Type}

def new (permits : Nat) : Semaphore κ := ⟨permits, [], [], [], []⟩

def acquire (s : Semaphore κ) (k : κ) : Semaphore κ :=
  match s.permits with
  | 0 => { s with waiting := s.waiting ++ [k], asked := s.asked ++ [k] }
  | permits + 1 =>
    { s with permits := permits, holders := s.holders ++ [k], asked := s.asked ++ [k] }

/-- A permit is handed on, or put back if nobody waits. -/
def handOn (s : Semaphore κ) : Semaphore κ :=
  match s.waiting with
  | [] => { s with permits := s.permits + 1 }
  | k :: waiting => { s with holders := s.holders ++ [k], waiting := waiting }

variable [DecidableEq κ]

/-- Only a holder gives a permit back. -/
def release (s : Semaphore κ) (k : κ) : Semaphore κ :=
  if k ∈ s.holders then
    handOn { s with holders := s.holders.erase k, released := s.released ++ [k] }
  else s

def step (s : Semaphore κ) : SemaphoreOp κ → Semaphore κ
  | .acquire k => s.acquire k
  | .release k => s.release k

/-! ## What is asked and given back -/

omit [DecidableEq κ] in
theorem acquire_asked (s : Semaphore κ) (k : κ) : (s.acquire k).asked = s.asked ++ [k] := by
  unfold acquire
  split
  next => rfl
  next => rfl

omit [DecidableEq κ] in
theorem acquire_released (s : Semaphore κ) (k : κ) : (s.acquire k).released = s.released := by
  unfold acquire
  split
  next => rfl
  next => rfl

omit [DecidableEq κ] in
/-- Nobody loses a permit to one who asks. -/
theorem mem_acquire_holders (s : Semaphore κ) (k : κ) {k' : κ} (h : k' ∈ s.holders) :
    k' ∈ (s.acquire k).holders := by
  unfold acquire
  split
  next => exact h
  next => exact List.mem_append_left _ h

theorem release_asked (s : Semaphore κ) (k : κ) : (s.release k).asked = s.asked := by
  unfold release
  split
  next =>
    unfold handOn
    split
    next => rfl
    next => rfl
  next => rfl

theorem mem_release_released (s : Semaphore κ) {k k' : κ} (h : k' ∈ (s.release k).released) :
    k' ∈ s.released ∨ k' = k := by
  unfold release at h
  split at h
  next =>
    have hgiven : k' ∈ s.released ++ [k] := by
      unfold handOn at h
      split at h
      next => exact h
      next => exact h
    rcases List.mem_append.mp hgiven with hold | hlast
    · exact .inl hold
    · exact .inr (List.mem_singleton.mp hlast)
  next => exact .inl h

/-- A permit that was got is held, or has been given back. -/
theorem got_release (s : Semaphore κ) (k : κ) {k' : κ} (h : k' ∈ s.holders ∨ k' ∈ s.released) :
    k' ∈ (s.release k).holders ∨ k' ∈ (s.release k).released := by
  unfold release
  split
  next =>
    have hkept : k' ∈ s.holders.erase k ∨ k' ∈ s.released ++ [k] := by
      rcases h with hholds | hreleased
      · by_cases hsame : k' = k
        · rw [hsame]
          exact .inr (List.mem_append_right _ (List.mem_singleton_self k))
        · exact .inl ((List.mem_erase_of_ne hsame).mpr hholds)
      · exact .inr (List.mem_append_left _ hreleased)
    unfold handOn
    split
    next => exact hkept
    next => exact hkept.imp_left (List.mem_append_left _)
  next => exact h

end Semaphore

/-- With `n` permits, the first in the order of asking have been served. -/
structure Served {κ : Type} (n : Nat) (s : Semaphore κ) : Prop where
  permits : s.permits + s.holders.length = n
  served : (s.holders ++ s.released).Perm (s.asked.take (n + s.released.length))
  waiting : s.waiting = s.asked.drop (n + s.released.length)

namespace Served

variable {κ : Type} {n : Nat} {s : Semaphore κ}

theorem new (n : Nat) : Served n (Semaphore.new n : Semaphore κ) where
  permits := Nat.add_zero n
  served := by
    unfold Semaphore.new
    rw [List.take_nil]
    exact .nil
  waiting := List.drop_nil.symm

/-- As many have asked as were served, or more than there are permits for. -/
theorem length_served (h : Served n s) :
    s.holders.length + s.released.length = min (n + s.released.length) s.asked.length := by
  have hlength := h.served.length_eq
  rw [List.length_append, List.length_take] at hlength
  exact hlength

theorem waiting_eq_nil_iff (h : Served n s) :
    s.waiting = [] ↔ s.asked.length ≤ n + s.released.length := by
  rw [h.waiting, List.drop_eq_nil_iff]

/-- Who asks is the last to be served. -/
theorem acquire (h : Served n s) (k : κ) : Served n (s.acquire k) := by
  have hlength := h.length_served
  have hpermits := h.permits
  unfold Semaphore.acquire
  split
  next hnone =>
    have hle : n + s.released.length ≤ s.asked.length := by omega
    refine ⟨hpermits, ?_, ?_⟩
    · show (s.holders ++ s.released).Perm ((s.asked ++ [k]).take (n + s.released.length))
      rw [List.take_append_of_le_length hle]
      exact h.served
    · show s.waiting ++ [k] = (s.asked ++ [k]).drop (n + s.released.length)
      rw [List.drop_append_of_le_length hle, h.waiting]
  next permits hsome =>
    have hlt : s.asked.length < n + s.released.length := by omega
    have hall : s.asked.take (n + s.released.length) = s.asked := List.take_of_length_le (by omega)
    refine ⟨?_, ?_, ?_⟩
    · show permits + (s.holders ++ [k]).length = n
      rw [List.length_append, List.length_singleton]
      omega
    · show ((s.holders ++ [k]) ++ s.released).Perm ((s.asked ++ [k]).take (n + s.released.length))
      have hserved := h.served
      rw [hall] at hserved
      rw [List.take_of_length_le (by rw [List.length_append, List.length_singleton]; omega)]
      calc s.holders ++ [k] ++ s.released
          _ = s.holders ++ ([k] ++ s.released) := List.append_assoc ..
          List.Perm _ (s.holders ++ (s.released ++ [k])) := List.perm_append_comm.append_left _
          _ = s.holders ++ s.released ++ [k] := (List.append_assoc ..).symm
          List.Perm _ (s.asked ++ [k]) := hserved.append_right _
    · show s.waiting = (s.asked ++ [k]).drop (n + s.released.length)
      rw [h.waiting_eq_nil_iff.mpr (by omega), eq_comm, List.drop_eq_nil_iff, List.length_append,
        List.length_singleton]
      omega

variable [DecidableEq κ]

/-- A permit that is given back serves one more. -/
theorem release (h : Served n s) (k : κ) : Served n (s.release k) := by
  unfold Semaphore.release
  split
  next hk =>
    have hlength := List.length_erase_of_mem hk
    have hpos := List.length_pos_of_mem hk
    have hpermits := h.permits
    have hgiven : (s.holders.erase k ++ (s.released ++ [k])).Perm (s.holders ++ s.released) := by
      calc s.holders.erase k ++ (s.released ++ [k])
          _ = (s.holders.erase k ++ s.released) ++ [k] := (List.append_assoc ..).symm
          List.Perm _ (k :: (s.holders.erase k ++ s.released)) := List.perm_append_singleton k _
          List.Perm _ (s.holders ++ s.released) := (List.perm_cons_erase hk).symm.append_right _
    unfold Semaphore.handOn
    split
    next hnone =>
      have hle := h.waiting_eq_nil_iff.mp hnone
      have hserved := h.served
      rw [List.take_of_length_le hle] at hserved
      refine ⟨?_, ?_, ?_⟩
      · show s.permits + 1 + (s.holders.erase k).length = n
        omega
      · show (s.holders.erase k ++ (s.released ++ [k])).Perm
          (s.asked.take (n + (s.released ++ [k]).length))
        rw [List.take_of_length_le (by rw [List.length_append]; omega)]
        exact hgiven.trans hserved
      · show s.waiting = s.asked.drop (n + (s.released ++ [k]).length)
        rw [List.drop_of_length_le (by rw [List.length_append]; omega)]
        exact hnone
    next next' waiting hsome =>
      have hdrop : s.asked.drop (n + s.released.length) = next' :: waiting := h.waiting ▸ hsome
      refine ⟨?_, ?_, ?_⟩
      · show s.permits + (s.holders.erase k ++ [next']).length = n
        rw [List.length_append, List.length_singleton]
        omega
      · show ((s.holders.erase k ++ [next']) ++ (s.released ++ [k])).Perm
          (s.asked.take (n + (s.released ++ [k]).length))
        have htake : s.asked.take (n + (s.released ++ [k]).length) =
            s.asked.take (n + s.released.length) ++ [next'] := by
          rw [List.length_append, List.length_singleton, ← Nat.add_assoc, List.take_add, hdrop]
          rfl
        rw [htake]
        calc s.holders.erase k ++ [next'] ++ (s.released ++ [k])
            _ = s.holders.erase k ++ ([next'] ++ (s.released ++ [k])) := List.append_assoc ..
            List.Perm _ (s.holders.erase k ++ ((s.released ++ [k]) ++ [next'])) :=
              List.perm_append_comm.append_left _
            _ = s.holders.erase k ++ (s.released ++ [k]) ++ [next'] := (List.append_assoc ..).symm
            List.Perm _ (s.asked.take (n + s.released.length) ++ [next']) :=
              (hgiven.trans h.served).append_right _
      · show waiting = s.asked.drop (n + (s.released ++ [k]).length)
        rw [List.length_append, List.length_singleton, ← Nat.add_assoc, ← List.drop_drop, hdrop]
        rfl
  next => exact h

/-- **Every operation serves in the order of asking.** -/
theorem step (h : Served n s) (op : SemaphoreOp κ) : Served n (s.step op) := by
  cases op with
  | acquire k => exact h.acquire k
  | release k => exact h.release k

end Served

namespace Served

variable {κ : Type} {n : Nat} {s : Semaphore κ}

/-- **Who has a permit, or had one, is known from when it asked.** -/
theorem mem_iff (h : Served n s) (honce : s.asked.Nodup) {j : Nat} {k : κ} (hk : s.asked[j]? = some k) :
    (k ∈ s.holders ∨ k ∈ s.released) ↔ j < n + s.released.length := by
  rw [← List.mem_append, h.served.mem_iff]
  constructor
  · intro hmem
    obtain ⟨i, hi⟩ := List.getElem?_of_mem hmem
    rw [List.getElem?_take] at hi
    split at hi
    next hlt =>
      obtain ⟨hlength, -⟩ := List.getElem?_eq_some_iff.mp hk
      have hsame := (List.getElem?_inj hlength honce).mp (hk.trans hi.symm)
      rw [hsame]
      exact hlt
    next => cases hi
  · intro hlt
    refine List.mem_of_getElem? (i := j) ?_
    rw [List.getElem?_take_of_lt hlt]
    exact hk

/-- **No permit is left while somebody waits.** -/
theorem full (h : Served n s) {k : κ} (hk : k ∈ s.waiting) : s.holders.length = n := by
  have hlength := h.length_served
  have hpermits := h.permits
  have hwaits : ¬ s.asked.length ≤ n + s.released.length := by
    intro hle
    rw [h.waiting_eq_nil_iff.mpr hle] at hk
    cases hk
  omega

/-- Who has asked holds a permit, has given it back, or waits. -/
theorem asked_cases (h : Served n s) {k : κ} (hk : k ∈ s.asked) :
    k ∈ s.holders ∨ k ∈ s.released ∨ k ∈ s.waiting := by
  rw [← List.take_append_drop (n + s.released.length) s.asked, ← h.waiting] at hk
  rcases List.mem_append.mp hk with hserved | hwaits
  · rcases List.mem_append.mp (h.served.mem_iff.mpr hserved) with hholds | hreleased
    · exact .inl hholds
    · exact .inr (.inl hreleased)
  · exact .inr (.inr hwaits)

/-- Only who has asked holds a permit. -/
theorem asked_of_holds (h : Served n s) {k : κ} (hk : k ∈ s.holders) : k ∈ s.asked :=
  List.mem_of_mem_take (h.served.mem_iff.mp (List.mem_append_left _ hk))

/-- Nobody holds a permit twice, or one it has given back. -/
theorem nodup (h : Served n s) (honce : s.asked.Nodup) : (s.holders ++ s.released).Nodup :=
  h.served.nodup_iff.mpr (honce.sublist (List.take_sublist _ _))

end Served

end BlockBuilder.Lib
