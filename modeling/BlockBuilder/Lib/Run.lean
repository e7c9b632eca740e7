import Mathlib.Data.List.Induction

/-!
# Runs of a step function

A component that takes one operation at a time is a total step function
`step : σ → ω → σ`: an operation that fails leaves the state as it was. A run
is the fold over a list of operations, and a condition on the steps of a run
(`Along`) sees the state before each step and the operation.

`run_induct` is the one induction every invariant of a run uses: a property
that holds initially and is preserved by each step that meets the condition
holds at the end. `forall_prefix_iff_along` is its sharp form, for a condition
that is also necessary. `Reaches` forgets the operations and keeps what they
all satisfy, which is how a loop is shown to be a run.
-/

namespace BlockBuilder.Lib

variable {σ ω : Type}

/-- The state after the operations `ops`, in order. -/
def run (step : σ → ω → σ) (s : σ) (ops : List ω) : σ := ops.foldl step s

/-- Every step of the run meets `C`, judged on the state before it. -/
def Along (step : σ → ω → σ) (C : σ → ω → Prop) : σ → List ω → Prop
  | _, [] => True
  | s, o :: ops => C s o ∧ Along step C (step s o) ops

/-- A condition that can be decided can be decided along a run. -/
instance decidableAlong (step : σ → ω → σ) (C : σ → ω → Prop) [∀ s o, Decidable (C s o)] :
    ∀ (s : σ) (ops : List ω), Decidable (Along step C s ops)
  | _, [] => .isTrue trivial
  | s, o :: ops =>
    have := decidableAlong step C (step s o) ops
    inferInstanceAs (Decidable (C s o ∧ Along step C (step s o) ops))

variable {step : σ → ω → σ} {C D : σ → ω → Prop}

@[simp] theorem run_nil (s : σ) : run step s [] = s := rfl

@[simp] theorem run_cons (s : σ) (o : ω) (ops : List ω) :
    run step s (o :: ops) = run step (step s o) ops := rfl

theorem run_append (s : σ) (ops ops' : List ω) :
    run step s (ops ++ ops') = run step (run step s ops) ops' :=
  List.foldl_append ..

theorem run_concat (s : σ) (ops : List ω) (o : ω) :
    run step s (ops ++ [o]) = step (run step s ops) o := by
  rw [run_append]
  rfl

theorem along_cons (s : σ) (o : ω) (ops : List ω) :
    Along step C s (o :: ops) ↔ C s o ∧ Along step C (step s o) ops := Iff.rfl

theorem along_append : ∀ (ops ops' : List ω) (s : σ),
    Along step C s (ops ++ ops') ↔ Along step C s ops ∧ Along step C (run step s ops) ops'
  | [], _, _ => by simp [Along]
  | o :: ops, ops', s => by
    simp only [List.cons_append, Along, run_cons, and_assoc]
    exact and_congr_right fun _ => along_append ops ops' (step s o)

theorem along_concat (s : σ) (ops : List ω) (o : ω) :
    Along step C s (ops ++ [o]) ↔ Along step C s ops ∧ C (run step s ops) o := by
  rw [along_append]
  simp [Along]

/-- A condition on the operation alone is a condition on the list. -/
theorem along_of_forall {P : ω → Prop} : ∀ {ops : List ω} {s : σ}, (∀ o ∈ ops, P o) →
    Along step (fun _ o => P o) s ops
  | [], _, _ => trivial
  | o :: _, _, h => ⟨h o (List.mem_cons_self ..),
      along_of_forall fun o' ho' => h o' (List.mem_cons_of_mem _ ho')⟩

theorem Along.mono (himp : ∀ s o, C s o → D s o) : ∀ {ops : List ω} {s : σ},
    Along step C s ops → Along step D s ops
  | [], _, _ => trivial
  | _ :: _, _, h => ⟨himp _ _ h.1, Along.mono himp h.2⟩

theorem Along.and : ∀ {ops : List ω} {s : σ}, Along step C s ops → Along step D s ops →
    Along step (fun s o => C s o ∧ D s o) s ops
  | [], _, _, _ => trivial
  | _ :: _, _, hC, hD => ⟨⟨hC.1, hD.1⟩, Along.and hC.2 hD.2⟩

/-- **The run rule.** A property kept by each step that meets the condition
holds at the end of every run whose steps all meet it. -/
theorem run_induct {I : σ → Prop} (hstep : ∀ s o, C s o → I s → I (step s o)) :
    ∀ (ops : List ω) {s : σ}, Along step C s ops → I s → I (run step s ops)
  | [], _, _, hI => hI
  | o :: ops, s, hC, hI => run_induct hstep ops hC.2 (hstep s o hC.1 hI)

/-- **The exact run rule.** When a step from a good state leads to a good state
if and only if it meets the condition, the runs that pass through good states
only are the runs whose steps all meet it. Goodness may look at the history. -/
theorem forall_prefix_iff_along {I : List ω → σ → Prop} {s : σ} (hinit : I [] s)
    (hstep : ∀ ops o, I ops (run step s ops) →
      (I (ops ++ [o]) (step (run step s ops) o) ↔ C (run step s ops) o))
    (ops : List ω) :
    (∀ pre post, ops = pre ++ post → I pre (run step s pre)) ↔ Along step C s ops := by
  induction ops using List.reverseRecOn with
  | nil =>
    refine ⟨fun _ => trivial, fun _ pre post h => ?_⟩
    obtain ⟨rfl, rfl⟩ := List.append_eq_nil_iff.mp h.symm
    exact hinit
  | append_singleton ops o ih =>
    rw [along_concat, ← ih]
    constructor
    · intro h
      have hpre : ∀ pre post, ops = pre ++ post → I pre (run step s pre) := by
        intro pre post hsplit
        exact h pre (post ++ [o]) (by rw [hsplit, List.append_assoc])
      refine ⟨hpre, (hstep ops o (hpre ops [] (List.append_nil _).symm)).mp ?_⟩
      have hlast := h (ops ++ [o]) [] (List.append_nil _).symm
      rw [run_concat] at hlast
      exact hlast
    · intro h pre post hsplit
      obtain ⟨hpre, hC⟩ := h
      -- a prefix is the whole run or a prefix of what came before the last step
      rcases List.eq_nil_or_concat post with rfl | ⟨post', last, rfl⟩
      · rw [List.append_nil] at hsplit
        rw [← hsplit, run_concat]
        exact (hstep ops o (hpre ops [] (List.append_nil _).symm)).mpr hC
      · rw [List.concat_eq_append, ← List.append_assoc] at hsplit
        exact hpre pre post' (List.append_inj_left' hsplit rfl)

/-- The run rule for a property that every step keeps. -/
theorem run_invariant {I : σ → Prop} (hstep : ∀ s o, I s → I (step s o)) :
    ∀ (ops : List ω) {s : σ}, I s → I (run step s ops)
  | [], _, hI => hI
  | o :: ops, s, hI => run_invariant hstep ops (hstep s o hI)

/-! ## Reachability -/

/-- `s'` is where operations that all satisfy `P` lead from `s`. -/
def Reaches (step : σ → ω → σ) (P : ω → Prop) (s s' : σ) : Prop :=
  ∃ ops, s' = run step s ops ∧ ∀ o ∈ ops, P o

namespace Reaches

variable {P Q : ω → Prop} {s s₁ s₂ : σ}

theorem refl (s : σ) : Reaches step P s s := ⟨[], rfl, fun o ho => absurd ho (by simp)⟩

/-- One operation first. -/
theorem head {o : ω} (hP : P o) (h : Reaches step P (step s o) s₁) : Reaches step P s s₁ := by
  obtain ⟨ops, hrun, hops⟩ := h
  refine ⟨o :: ops, hrun, fun o' ho' => ?_⟩
  rcases List.mem_cons.mp ho' with rfl | hmem
  · exact hP
  · exact hops o' hmem

theorem trans (h : Reaches step P s s₁) (h' : Reaches step P s₁ s₂) : Reaches step P s s₂ := by
  obtain ⟨ops, rfl, hops⟩ := h
  obtain ⟨ops', rfl, hops'⟩ := h'
  refine ⟨ops ++ ops', (run_append s ops ops').symm, fun o ho => ?_⟩
  rcases List.mem_append.mp ho with hmem | hmem
  · exact hops o hmem
  · exact hops' o hmem

theorem mono (himp : ∀ o, P o → Q o) (h : Reaches step P s s₁) : Reaches step Q s s₁ := by
  obtain ⟨ops, hrun, hops⟩ := h
  exact ⟨ops, hrun, fun o ho => himp o (hops o ho)⟩

end Reaches

end BlockBuilder.Lib
