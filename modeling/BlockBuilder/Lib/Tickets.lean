import BlockBuilder.Lib.Run

/-!
# Numbered tickets

A dispenser keeps one counter for each owner. An operation belongs to an owner,
carries the number its owner's counter shows, and raises that counter by one;
account nonces and per-sender sequence numbers work like this. `Draws` is what
one step keeps to, and the results are about runs whose steps all do:

- `count_run`: a counter has moved by the number of its owner's operations.
- `numbers_issued`: an owner's numbers are consecutive from where its counter was.
- `nodup_issued`: no ticket is issued twice.

Other steps may move the counters of owners that nothing is known about, so the
owners of interest are a parameter `K`.
-/

namespace BlockBuilder.Lib

variable {σ ω κ : Type}

/-- What is read off the operations and the states of a dispenser. -/
structure Tickets (σ ω κ : Type) where
  owner : ω → κ
  number : ω → Nat
  count : σ → κ → Nat

namespace Tickets

/-- The operation takes the next number of its owner, and moves no other
counter of interest. -/
structure Draws (T : Tickets σ ω κ) (step : σ → ω → σ) (K : κ → Prop) (s : σ) (o : ω) : Prop where
  known : K (T.owner o)
  number_eq : T.number o = T.count s (T.owner o)
  own : T.count (step s o) (T.owner o) = T.count s (T.owner o) + 1
  others : ∀ k, K k → k ≠ T.owner o → T.count (step s o) k = T.count s k

variable {T : Tickets σ ω κ} {step : σ → ω → σ} {K : κ → Prop}

/-- Every operation of a run belongs to an owner of interest. -/
theorem known_of_mem : ∀ {ops : List ω} {s : σ}, Along step (T.Draws step K) s ops →
    ∀ o ∈ ops, K (T.owner o)
  | [], _, _, o, ho => absurd ho (by simp)
  | _ :: _, _, h, o, ho => by
    rcases List.mem_cons.mp ho with rfl | hrest
    · exact h.1.known
    · exact known_of_mem h.2 o hrest

variable [DecidableEq κ]

/-- The operations of an owner, in order. -/
def issued (T : Tickets σ ω κ) (k : κ) (ops : List ω) : List ω := ops.filter fun o => T.owner o = k

/-- **The counters after a run.** -/
theorem count_run {k : κ} (hk : K k) : ∀ (ops : List ω) {s : σ}, Along step (T.Draws step K) s ops →
    T.count (run step s ops) k = T.count s k + (T.issued k ops).length := by
  intro ops
  induction ops with
  | nil => exact fun _ => rfl
  | cons o ops ih =>
    intro s h
    obtain ⟨hdraws, hrest⟩ := h
    rw [run_cons, ih hrest]
    unfold issued
    by_cases howner : T.owner o = k
    · have hown := hdraws.own
      rw [howner] at hown
      rw [List.filter_cons_of_pos (by simpa using howner), List.length_cons]
      omega
    · have hother := hdraws.others k hk (Ne.symm howner)
      rw [List.filter_cons_of_neg (by simpa using howner)]
      omega

/-- **An owner's numbers are consecutive**, from where its counter was. -/
theorem numbers_issued {k : κ} (hk : K k) : ∀ (ops : List ω) {s : σ},
    Along step (T.Draws step K) s ops →
    (T.issued k ops).map T.number = List.range' (T.count s k) (T.issued k ops).length := by
  intro ops
  induction ops with
  | nil => exact fun _ => rfl
  | cons o ops ih =>
    intro s h
    obtain ⟨hdraws, hrest⟩ := h
    have hnumbers := ih hrest
    unfold issued at hnumbers ⊢
    by_cases howner : T.owner o = k
    · have hown := hdraws.own
      have hnumber := hdraws.number_eq
      rw [howner] at hown hnumber
      rw [hown] at hnumbers
      rw [List.filter_cons_of_pos (by simpa using howner), List.map_cons, List.length_cons,
        List.range'_succ, hnumber, hnumbers]
    · rw [hdraws.others k hk (Ne.symm howner)] at hnumbers
      rw [List.filter_cons_of_neg (by simpa using howner)]
      exact hnumbers

/-- The numbers of a run lie between the counters before it and after it. -/
theorem number_bounds {ops : List ω} {s : σ} (h : Along step (T.Draws step K) s ops) {o : ω}
    (ho : o ∈ ops) :
    T.count s (T.owner o) ≤ T.number o ∧ T.number o < T.count (run step s ops) (T.owner o) := by
  have hk := known_of_mem h o ho
  have hmem : T.number o ∈ (T.issued (T.owner o) ops).map T.number := by
    refine List.mem_map_of_mem (List.mem_filter.mpr ⟨ho, ?_⟩)
    simp
  rw [numbers_issued hk ops h, List.mem_range'_1] at hmem
  rw [count_run hk ops h]
  exact hmem

/-- **No ticket is issued twice.** -/
theorem nodup_issued : ∀ (ops : List ω) {s : σ}, Along step (T.Draws step K) s ops →
    (ops.map fun o => (T.owner o, T.number o)).Nodup := by
  intro ops
  induction ops with
  | nil => exact fun _ => List.nodup_nil
  | cons o ops ih =>
    intro s h
    obtain ⟨hdraws, hrest⟩ := h
    rw [List.map_cons, List.nodup_cons]
    refine ⟨?_, ih hrest⟩
    intro hmem
    obtain ⟨o', ho', hsame⟩ := List.mem_map.mp hmem
    obtain ⟨howner, hnumber⟩ := Prod.mk.inj hsame
    -- a later ticket of the same owner has a number past the counter this one raised
    have hlater := (number_bounds hrest ho').1
    have hown := hdraws.own
    have hfirst := hdraws.number_eq
    rw [howner] at hlater
    omega

end Tickets

end BlockBuilder.Lib
