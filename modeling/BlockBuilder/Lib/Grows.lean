import Mathlib.Data.List.Basic

/-!
# Numbered entries

Things that are spawned one after the other, and are known by their numbers,
form a list that grows at its end and whose entries change in place. `Grows r`
says that no entry is lost, and that each changes as `r` allows.
-/

namespace BlockBuilder.Lib

variable {α : Type} {r : α → α → Prop} {l : List α}

def Grows (r : α → α → Prop) (l l' : List α) : Prop :=
  ∀ (i : Nat) (a : α), l[i]? = some a → ∃ a', l'[i]? = some a' ∧ r a a'

namespace Grows

theorem refl (hr : ∀ a, r a a) (l : List α) : Grows r l l := fun _ a ha => ⟨a, ha, hr a⟩

/-- An entry is added. -/
theorem append (hr : ∀ a, r a a) (l : List α) (b : α) : Grows r l (l ++ [b]) := by
  intro i a ha
  have hlt := (List.getElem?_eq_some_iff.mp ha).1
  refine ⟨a, ?_, hr a⟩
  rw [List.getElem?_append_left hlt]
  exact ha

/-- An entry changes. -/
theorem set (hr : ∀ a, r a a) {i : Nat} {a a' : α} (ha : l[i]? = some a) (hchange : r a a') :
    Grows r l (l.set i a') := by
  intro j b hb
  have hlt := (List.getElem?_eq_some_iff.mp ha).1
  by_cases heq : i = j
  · rw [heq] at ha hlt
    cases ha.symm.trans hb
    rw [heq, List.getElem?_set_self hlt]
    exact ⟨a', rfl, hchange⟩
  · rw [List.getElem?_set_ne heq]
    exact ⟨b, hb, hr b⟩

/-- An entry changes, if it is there. -/
theorem modify (hr : ∀ a, r a a) {change : α → α} (hchange : ∀ a, r a (change a)) (l : List α)
    (i : Nat) : Grows r l (l.modify i change) := by
  intro j a ha
  rw [List.getElem?_modify, ha]
  by_cases heq : i = j
  · exact ⟨change a, by simp [heq], hchange a⟩
  · exact ⟨a, by simp [heq], hr a⟩

/-- What comes before an entry was there before it. -/
theorem earlier {l' : List α} (h : Grows r l l') {i j : Nat} {a b' : α} (hlt : j < i)
    (ha : l[i]? = some a) (hb' : l'[j]? = some b') : ∃ b, l[j]? = some b ∧ r b b' := by
  have hlength := (List.getElem?_eq_some_iff.mp ha).1
  have hb := List.getElem?_eq_getElem (Nat.lt_trans hlt hlength)
  obtain ⟨after, hafter, hchange⟩ := h j _ hb
  cases hafter.symm.trans hb'
  exact ⟨_, hb, hchange⟩

end Grows

end BlockBuilder.Lib
