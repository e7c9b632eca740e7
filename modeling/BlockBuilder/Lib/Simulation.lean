import BlockBuilder.Lib.Run

/-!
# Simulations

A system is a run of another one when each of its operations is matched by some
operations of the other, none or several. What holds of every run of the second
is then known of the first (`Simulates.invariant`).

Where a part of a system is told what to do by the rest of it, the operations are
known too: `told` lists them, and the part is a run on this list (`run_told`).
-/

namespace BlockBuilder.Lib

variable {σ τ ω υ : Type} {step : σ → ω → σ} {step' : τ → υ → τ} {Rel : σ → τ → Prop}

/-- Every operation is matched by operations of the other system. -/
def Simulates (step : σ → ω → σ) (step' : τ → υ → τ) (Rel : σ → τ → Prop) : Prop :=
  ∀ s t o, Rel s t → ∃ ops', Rel (step s o) (run step' t ops')

namespace Simulates

/-- **A run is matched by a run.** -/
theorem run_matched (h : Simulates step step' Rel) : ∀ (ops : List ω) {s : σ} {t : τ}, Rel s t →
    ∃ ops', Rel (run step s ops) (run step' t ops')
  | [], _, _, hrel => ⟨[], hrel⟩
  | o :: ops, s, t, hrel => by
    obtain ⟨first, hfirst⟩ := h s t o hrel
    obtain ⟨rest, hrest⟩ := h.run_matched ops hfirst
    refine ⟨first ++ rest, ?_⟩
    rw [run_append]
    exact hrest

/-- An invariant of the other system, pulled back. -/
theorem invariant (h : Simulates step step' Rel) {I : τ → Prop} (hstep : ∀ t o, I t → I (step' t o))
    (ops : List ω) {s : σ} {t : τ} (hrel : Rel s t) (hI : I t) :
    ∃ t', Rel (run step s ops) t' ∧ I t' := by
  obtain ⟨ops', hmatched⟩ := h.run_matched ops hrel
  exact ⟨run step' t ops', hmatched, run_invariant hstep ops' hI⟩

end Simulates

/-! ## What a part is told -/

/-- The operations a run comes to for another system, in order. -/
def told (step : σ → ω → σ) (tells : σ → ω → List υ) : σ → List ω → List υ
  | _, [] => []
  | s, o :: ops => tells s o ++ told step tells (step s o) ops

section Told

variable {tells : σ → ω → List υ}

/-- **A part is a run on what it is told.** -/
theorem run_told {view : σ → τ} (h : ∀ s o, view (step s o) = run step' (view s) (tells s o)) :
    ∀ (ops : List ω) (s : σ), view (run step s ops) = run step' (view s) (told step tells s ops)
  | [], _ => rfl
  | o :: ops, s => by
    rw [run_cons, run_told h ops (step s o), h s o, ← run_append]
    rfl

theorem told_append : ∀ (ops ops' : List ω) (s : σ),
    told step tells s (ops ++ ops') = told step tells s ops ++ told step tells (run step s ops) ops'
  | [], _, _ => rfl
  | o :: ops, ops', s => by
    show tells s o ++ told step tells (step s o) (ops ++ ops') = _
    rw [told_append ops ops' (step s o), ← List.append_assoc]
    rfl

/-- **What is told is told by a step**, after what was told before it. -/
theorem told_split : ∀ {ops : List ω} {s : σ} {before after : List υ} {x : υ},
    told step tells s ops = before ++ x :: after →
    ∃ pre o post earlier later, ops = pre ++ o :: post ∧
      tells (run step s pre) o = earlier ++ x :: later ∧
      before = told step tells s pre ++ earlier ∧
      after = later ++ told step tells (step (run step s pre) o) post
  | [], _, before, _, _, h => by simp [told] at h
  | o :: ops, s, before, after, x, h => by
    -- it is told by a later step, or by the first one
    have hcases : (∃ earlier, before = tells s o ++ earlier ∧
        told step tells (step s o) ops = earlier ++ x :: after) ∨
        ∃ later, tells s o = before ++ x :: later ∧ after = later ++ told step tells (step s o) ops := by
      rcases List.append_eq_append_iff.mp h with hlater | ⟨later, hfirst, hafter⟩
      · exact .inl hlater
      · rcases List.cons_eq_append_iff.mp hafter with ⟨rfl, hrest⟩ | ⟨later', rfl, hlater⟩
        · exact .inl ⟨[], by rw [hfirst, List.append_nil, List.append_nil], hrest⟩
        · exact .inr ⟨later', hfirst, hlater⟩
    rcases hcases with ⟨earlier, hbefore, hrest⟩ | ⟨later, hfirst, hafter⟩
    · obtain ⟨pre, o', post, earlier', later, rfl, htells, rfl, hafter⟩ := told_split hrest
      refine ⟨o :: pre, o', post, earlier', later, rfl, htells, ?_, hafter⟩
      rw [hbefore, ← List.append_assoc]
      rfl
    · exact ⟨[], o, ops, before, later, rfl, hfirst, rfl, hafter⟩

/-- What a step tells is in the list. -/
theorem mem_told {ops : List ω} {s : σ} {x : υ} :
    x ∈ told step tells s ops ↔ ∃ pre o post, ops = pre ++ o :: post ∧ x ∈ tells (run step s pre) o := by
  constructor
  · intro h
    obtain ⟨before, after, hsplit⟩ := List.append_of_mem h
    obtain ⟨pre, o, post, earlier, later, hops, htells, -, -⟩ := told_split hsplit
    refine ⟨pre, o, post, hops, ?_⟩
    rw [htells]
    exact List.mem_append_right _ List.mem_cons_self
  · rintro ⟨pre, o, post, rfl, htells⟩
    rw [told_append]
    exact List.mem_append_right _ (List.mem_append_left _ htells)

/-- What an operation tells in any state. -/
theorem mem_told_of_forall {ops : List ω} {o : ω} {x : υ} (ho : o ∈ ops) (h : ∀ s, x ∈ tells s o) (s : σ) :
    x ∈ told step tells s ops := by
  obtain ⟨pre, post, rfl⟩ := List.append_of_mem ho
  exact mem_told.mpr ⟨pre, o, post, rfl, h _⟩

end Told

end BlockBuilder.Lib
