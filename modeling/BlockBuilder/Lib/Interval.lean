import Mathlib.Logic.Function.Iterate

/-!
# Intervals

A timer that ticks once a period. It is asked whether a tick is due, and a tick
that was missed comes late and not at all the less: each tick sets the next one
a period after the time it was due itself, so that a timer that was not asked
for long has several ticks to give at once.

A loop that runs as long as ticks are due (`drain`) ends, since each tick moves
the next one ahead. It leaves a timer that is not due and is due within a
period.
-/

namespace BlockBuilder.Lib

/-- A timer with a period that is not zero, and the time its next tick is due. -/
structure Interval where
  deadline : Nat
  period : Nat
  period_pos : 0 < period

namespace Interval

/-- `interval`: the first tick is due at once. -/
def new (start period : Nat) (h : 0 < period) : Interval := ⟨start, period, h⟩

/-- `poll_tick`; `none` when no tick is due. -/
def pollTick (i : Interval) (now : Nat) : Option Interval :=
  if i.deadline ≤ now then some { i with deadline := i.deadline + i.period } else none

/-- `reset_after`. -/
def resetAfter (i : Interval) (now after : Nat) : Interval := { i with deadline := now + after }

/-- `reset`. -/
def reset (i : Interval) (now : Nat) : Interval := i.resetAfter now i.period

variable {σ : Type}

/-- `while interval.poll_tick().is_ready()`. -/
def whileReady (now : Nat) (body : σ → σ) : Nat → Interval → σ → Interval × σ
  | 0, i, s => (i, s)
  | fuel + 1, i, s =>
    match i.pollTick now with
    | some i' => whileReady now body fuel i' (body s)
    | none => (i, s)

/-- The loop, with fuel for every tick that can be due. -/
def drain (i : Interval) (now : Nat) (body : σ → σ) (s : σ) : Interval × σ :=
  whileReady now body (now + 1 - i.deadline) i s

theorem whileReady_deadline {now : Nat} {body : σ → σ} : ∀ {fuel : Nat} {i : Interval} {s : σ},
    now + 1 - i.deadline ≤ fuel →
    now < (whileReady now body fuel i s).1.deadline ∧
      (whileReady now body fuel i s).1.period = i.period ∧
      ((whileReady now body fuel i s).1.deadline = i.deadline ∨
        (whileReady now body fuel i s).1.deadline ≤ now + i.period)
  | 0, i, s, hfuel => by
    show now < i.deadline ∧ i.period = i.period ∧ (i.deadline = i.deadline ∨ _)
    exact ⟨by omega, rfl, .inl rfl⟩
  | fuel + 1, i, s, hfuel => by
    unfold whileReady pollTick
    by_cases hdue : i.deadline ≤ now
    · have hpos := i.period_pos
      rw [if_pos hdue]
      have hrest : now + 1 - ({ i with deadline := i.deadline + i.period } : Interval).deadline ≤
          fuel := by
        show now + 1 - (i.deadline + i.period) ≤ fuel
        omega
      obtain ⟨hlt, hperiod, hdeadline⟩ := @whileReady_deadline now body _ _ (body s) hrest
      refine ⟨hlt, hperiod, .inr ?_⟩
      rcases hdeadline with hsame | hle
      · rw [hsame]
        show i.deadline + i.period ≤ now + i.period
        omega
      · exact hle
    · rw [if_neg hdue]
      show now < i.deadline ∧ i.period = i.period ∧ (i.deadline = i.deadline ∨ _)
      exact ⟨by omega, rfl, .inl rfl⟩

/-- **After the loop no tick is due**, and the next one is within a period. -/
theorem drain_deadline (i : Interval) (now : Nat) (body : σ → σ) (s : σ) :
    now < (i.drain now body s).1.deadline ∧ (i.drain now body s).1.period = i.period ∧
      ((i.drain now body s).1.deadline = i.deadline ∨
        (i.drain now body s).1.deadline ≤ now + i.period) :=
  whileReady_deadline (Nat.le_refl _)

/-- Nothing happens before the deadline. -/
theorem drain_of_lt {i : Interval} {now : Nat} (h : now < i.deadline) (body : σ → σ) (s : σ) :
    i.drain now body s = (i, s) := by
  unfold drain
  rw [show now + 1 - i.deadline = 0 by omega]
  rfl

theorem whileReady_iterate (now : Nat) (body : σ → σ) : ∀ (fuel : Nat) (i : Interval) (s : σ),
    ∃ n, (whileReady now body fuel i s).2 = body^[n] s
  | 0, _, _ => ⟨0, rfl⟩
  | fuel + 1, i, s => by
    unfold whileReady
    split
    next i' _ =>
      obtain ⟨n, hn⟩ := whileReady_iterate now body fuel i' (body s)
      exact ⟨n + 1, hn⟩
    next => exact ⟨0, rfl⟩

/-- **The loop runs its body** once at least when a tick is due. -/
theorem drain_of_le {i : Interval} {now : Nat} (h : i.deadline ≤ now) (body : σ → σ) (s : σ) :
    ∃ n, (i.drain now body s).2 = body^[n + 1] s := by
  unfold drain
  rw [show now + 1 - i.deadline = (now - i.deadline) + 1 by omega]
  unfold whileReady pollTick
  rw [if_pos h]
  exact whileReady_iterate now body _ _ (body s)

/-- The rule of the loop: what its body keeps holds after it. -/
theorem drain_keeps {I : σ → Prop} {body : σ → σ} (hbody : ∀ s, I s → I (body s)) (i : Interval)
    (now : Nat) {s : σ} (h : I s) : I (i.drain now body s).2 := by
  obtain ⟨n, hn⟩ := whileReady_iterate now body (now + 1 - i.deadline) i s
  unfold drain
  rw [hn]
  clear hn
  induction n generalizing s with
  | zero => exact h
  | succ n ih => exact ih (hbody s h)

end Interval

end BlockBuilder.Lib
