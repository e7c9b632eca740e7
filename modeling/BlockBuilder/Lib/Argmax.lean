import Mathlib.Data.List.MinMax

/-!
# The first of the best

A loop that keeps the best element so far, and replaces it only by a strictly
better one, ends with Mathlib's `List.argmax`: the first of the elements of
greatest value. `argmax_concat` is the step of the loop. Below, what this says
about the list: what comes before the element is worse, what comes after is not
better, and the value does not depend on the order of the list.

`maxByKey` is Rust's `max_by_key`, which keeps the last of the best instead: it
is the argmax of the list read backwards.
-/

namespace BlockBuilder.Lib

variable {α β : Type} [LinearOrder β] {f : α → β}

/-- **Where the argmax stands.** -/
theorem argmax_split : ∀ {l : List α} {a : α}, l.argmax f = some a →
    ∃ pre post, l = pre ++ a :: post ∧ (∀ b ∈ pre, f b < f a) ∧ ∀ b ∈ post, f b ≤ f a := by
  intro l
  induction l using List.reverseRecOn with
  | nil =>
    intro a h
    rw [List.argmax_nil] at h
    cases h
  | append_singleton l x ih =>
    intro a h
    rw [List.argmax_concat] at h
    cases hl : l.argmax f with
    | none =>
      rw [hl] at h
      cases h
      rw [List.argmax_eq_none] at hl
      rw [hl]
      exact ⟨[], [], rfl, fun b hb => absurd hb (by simp), fun b hb => absurd hb (by simp)⟩
    | some c =>
      rw [hl] at h
      simp only at h
      split at h
      next hlt =>
        cases h
        refine ⟨l, [], rfl, fun b hb => ?_, fun b hb => absurd hb (by simp)⟩
        exact lt_of_le_of_lt (List.le_of_mem_argmax hb hl) hlt
      next hge =>
        cases h
        obtain ⟨pre, post, hsplit, hpre, hpost⟩ := ih hl
        refine ⟨pre, post ++ [x], ?_, hpre, fun b hb => ?_⟩
        · rw [hsplit, List.append_assoc, List.cons_append]
        · rcases List.mem_append.mp hb with hb | hb
          · exact hpost b hb
          · rw [List.mem_singleton.mp hb]
            exact not_lt.mp hge

/-- **The best value does not depend on the order.** -/
theorem argmax_value_perm {l l' : List α} (hperm : l.Perm l') {a a' : α}
    (h : l.argmax f = some a) (h' : l'.argmax f = some a') : f a = f a' :=
  le_antisymm (List.le_of_mem_argmax (hperm.mem_iff.mp (List.argmax_mem h)) h')
    (List.le_of_mem_argmax (hperm.mem_iff.mpr (List.argmax_mem h')) h)

/-- `Iterator::max_by_key`: a later element replaces the best one unless it is worse. -/
def maxByKey (f : α → β) (l : List α) : Option α :=
  l.foldl (fun best x =>
    match best with
    | none => some x
    | some a => if f a ≤ f x then some x else some a) none

theorem maxByKey_eq_argmax (f : α → β) (l : List α) : maxByKey f l = l.reverse.argmax f := by
  induction l using List.reverseRecOn with
  | nil => rfl
  | append_singleton l x ih =>
    rw [List.reverse_append, List.reverse_singleton, List.singleton_append, List.argmax_cons, ← ih,
      maxByKey, List.foldl_append]
    show (match maxByKey f l with | none => some x | some a => _) = _
    cases maxByKey f l with
    | none => rfl
    | some a =>
      show (if f a ≤ f x then some x else some a) = if f x < f a then some a else some x
      by_cases h : f a ≤ f x
      · rw [if_pos h, if_neg (not_lt.mpr h)]
      · rw [if_neg h, if_pos (not_le.mp h)]

theorem maxByKey_eq_none {l : List α} : maxByKey f l = none ↔ l = [] := by
  rw [maxByKey_eq_argmax, List.argmax_eq_none, List.reverse_eq_nil_iff]

theorem maxByKey_mem {l : List α} {a : α} (h : maxByKey f l = some a) : a ∈ l := by
  rw [maxByKey_eq_argmax] at h
  exact List.mem_reverse.mp (List.argmax_mem h)

theorem le_of_maxByKey {l : List α} {a b : α} (h : maxByKey f l = some a) (hb : b ∈ l) :
    f b ≤ f a := by
  rw [maxByKey_eq_argmax] at h
  exact List.le_of_mem_argmax (List.mem_reverse.mpr hb) h

end BlockBuilder.Lib
