/-!
# Programs that write in place

A method that takes its receiver by reference writes while it runs, and what it
has written by the time it fails stays written. `EStateM` is that: every exit,
normal or not, comes with a state.

Two questions are asked of such a program. `Keeps` says what no exit changes; it
is proved by one rule for each way programs are put together. `answer` forgets
the state of a failure, which is what a function that returns a new state or an
error gives; `answer_bind` lets the two be compared step by step.
-/

namespace BlockBuilder.Lib

variable {ε σ ρ τ α β : Type}

/-- The state a program exits in, whether it succeeds or fails. -/
def exitState : EStateM.Result ε σ α → σ
  | .ok _ s => s
  | .error _ s => s

/-- The result without the state a failure leaves. -/
def answer : EStateM.Result ε σ α → Except ε (α × σ)
  | .ok a s => .ok (a, s)
  | .error e _ => .error e

/-- However the program exits, what `f` reads is as it was. -/
def Keeps (f : σ → τ) (m : EStateM ε σ α) : Prop := ∀ s, f (exitState (m s)) = f s

/-- Run a program on a state made for it, and take over what it leaves there. -/
def within (enter : σ → ρ) (leave : σ → ρ → σ) (m : EStateM ε ρ α) : EStateM ε σ α := fun s =>
  match m (enter s) with
  | .ok a r => .ok a (leave s r)
  | .error e r => .error e (leave s r)

namespace Keeps

variable {f : σ → τ} {m : EStateM ε σ α} {k : α → EStateM ε σ β}

theorem pure (a : α) : Keeps f (Pure.pure a : EStateM ε σ α) := fun _ => rfl

theorem throw (e : ε) : Keeps f (throw e : EStateM ε σ α) := fun _ => rfl

theorem get : Keeps f (get : EStateM ε σ σ) := fun _ => rfl

theorem modify {g : σ → σ} (h : ∀ s, f (g s) = f s) : Keeps f (modify g : EStateM ε σ PUnit) := h

/-- One program after another. -/
theorem bind (hm : Keeps f m) (hk : ∀ a, Keeps f (k a)) : Keeps f (m >>= k) := by
  intro s
  have hs := hm s
  show f (exitState (EStateM.bind m k s)) = f s
  unfold EStateM.bind
  cases hms : m s with
  | ok a s' =>
    rw [hms] at hs
    exact (hk a s').trans hs
  | error e s' =>
    rw [hms] at hs
    exact hs

/-- A program that keeps the part of its state that is handed back changes nothing. -/
theorem within {ρ : Type} {f : ρ → τ} {m : EStateM ε ρ α} {enter : σ → ρ} {leave : σ → ρ → σ}
    (hm : Keeps f m) (h : ∀ s r, f r = f (enter s) → leave s r = s) :
    Keeps id (within enter leave m) := by
  intro s
  have hs := hm (enter s)
  unfold Lib.within
  cases hms : m (enter s) with
  | ok a r =>
    rw [hms] at hs
    exact h s r hs
  | error e r =>
    rw [hms] at hs
    exact h s r hs

end Keeps

@[simp] theorem answer_get (s : σ) : answer ((get : EStateM ε σ σ) s) = .ok (s, s) := rfl

@[simp] theorem answer_modify (g : σ → σ) (s : σ) :
    answer ((modify g : EStateM ε σ PUnit) s) = .ok (⟨⟩, g s) := rfl

/-- **What comes after a failure is not run.** -/
theorem answer_bind (m : EStateM ε σ α) (k : α → EStateM ε σ β) (s : σ) :
    answer ((m >>= k) s) =
      match answer (m s) with
      | .ok (a, s') => answer (k a s')
      | .error e => .error e := by
  show answer (EStateM.bind m k s) = _
  unfold EStateM.bind
  cases m s <;> rfl

theorem answer_within (enter : σ → ρ) (leave : σ → ρ → σ) (m : EStateM ε ρ α) (s : σ) :
    answer (within enter leave m s) =
      (answer (m (enter s))).map fun p => (p.1, leave s p.2) := by
  unfold within
  cases m (enter s) <;> rfl

/-- Return, in a given state, what a function has computed. -/
def onState (s : σ) : Except ε α → EStateM.Result ε σ α
  | .ok a => .ok a s
  | .error e => .error e s

/-- **A run that left the state alone is known from what it returned.** -/
theorem eq_onState_of_keeps {r : EStateM.Result ε σ α} {s : σ} {x : Except ε α}
    (hstate : exitState r = s) (hvalue : (answer r).map Prod.fst = x) : r = onState s x := by
  subst hstate hvalue
  cases r <;> rfl

end BlockBuilder.Lib
