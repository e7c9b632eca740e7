import Mathlib.Logic.Function.Iterate

/-!
# Iterations that settle

`Settles f goal x` says that iterating `f` from `x` reaches `goal` after finitely
many steps and stays there. A goal that `f` fixes settles, one more step in front
changes nothing (`Settles.next`), and a measure that drops until the goal is
reached is enough (`settles_of_measure`).
-/

namespace BlockBuilder.Lib

variable {α : Type} {f : α → α} {goal x : α}

def Settles (f : α → α) (goal x : α) : Prop := ∃ n, ∀ m, n ≤ m → f^[m] x = goal

theorem Settles.of_fixed (h : f goal = goal) : Settles f goal goal :=
  ⟨0, fun m _ => Function.iterate_fixed h m⟩

theorem Settles.next (h : Settles f goal (f x)) : Settles f goal x := by
  obtain ⟨n, hn⟩ := h
  refine ⟨n + 1, fun m hm => ?_⟩
  cases m with
  | zero => omega
  | succ m => exact hn m (by omega)

/-- **A measure that drops settles.** From where `P` holds, as long as the goal is not
reached, a step keeps `P` and lowers the measure. -/
theorem settles_of_measure {P : α → Prop} (measure : α → Nat) (hfixed : f goal = goal)
    (hstep : ∀ y, P y → y ≠ goal → P (f y) ∧ measure (f y) < measure y) :
    ∀ x, P x → Settles f goal x := by
  intro x
  induction hm : measure x using Nat.strongRecOn generalizing x with
  | ind m ih =>
    intro hP
    by_cases hgoal : x = goal
    · rw [hgoal]
      exact .of_fixed hfixed
    · obtain ⟨hP', hlt⟩ := hstep x hP hgoal
      exact .next (ih (measure (f x)) (by omega) (f x) rfl hP')

end BlockBuilder.Lib
