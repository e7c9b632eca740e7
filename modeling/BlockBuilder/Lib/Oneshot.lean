import BlockBuilder.Lib.Grows

/-!
# Oneshots

A task that was spawned sends one result, or goes without one. Until then its
receiver finds nothing; what it finds once does not change any more. Tasks are
known by their numbers.
-/

namespace BlockBuilder.Lib

/-- What the receiver of a task finds. -/
inductive Oneshot (α : Type) where
  | pending
  | sent (a : α)
  /-- The sender is gone, a `RecvError`. -/
  | closed

namespace Oneshot

variable {α : Type}

def send (o : Oneshot α) (a : α) : Oneshot α :=
  match o with
  | pending => sent a
  | o => o

/-- A task that panics drops its sender. -/
def drop (o : Oneshot α) : Oneshot α :=
  match o with
  | pending => closed
  | o => o

/-- What was found is found again. -/
def Onward (o o' : Oneshot α) : Prop := o = pending ∨ o' = o

theorem onward_refl (o : Oneshot α) : o.Onward o := .inr rfl

theorem onward_send (o : Oneshot α) (a : α) : o.Onward (o.send a) := by
  cases o with
  | pending => exact .inl rfl
  | sent b => exact .inr rfl
  | closed => exact .inr rfl

theorem onward_drop (o : Oneshot α) : o.Onward o.drop := by
  cases o with
  | pending => exact .inl rfl
  | sent b => exact .inr rfl
  | closed => exact .inr rfl

/-- A result that was sent stays where it is. -/
theorem sent_grows {l l' : List (Oneshot α)} (h : Grows Onward l l') {i : Nat} {a : α}
    (hsent : l[i]? = some (.sent a)) : l'[i]? = some (.sent a) := by
  obtain ⟨o', ho', hpending | hsame⟩ := h i _ hsent
  · cases hpending
  · rw [ho', hsame]

/-! ## Facts about all that was sent -/

variable {P Q : Nat → α → Prop} {l : List (Oneshot α)}

/-- What the tasks have sent has the property. -/
def Sends (P : Nat → α → Prop) (l : List (Oneshot α)) : Prop :=
  ∀ (i : Nat) (a : α), l[i]? = some (.sent a) → P i a

theorem Sends.mono (h : Sends P l) (himp : ∀ i a, P i a → Q i a) : Sends Q l :=
  fun i a hsent => himp i a (h i a hsent)

/-- A task is spawned. -/
theorem Sends.append (h : Sends P l) : Sends P (l ++ [pending]) := by
  intro i a hsent
  rw [List.getElem?_append] at hsent
  split at hsent
  next => exact h i a hsent
  next => cases List.mem_singleton.mp (List.mem_of_getElem? hsent)

/-- A task sends its result. -/
theorem Sends.send (h : Sends P l) {i : Nat} {a : α} (hnew : P i a) :
    Sends P (l.modify i (·.send a)) := by
  intro j b hsent
  rw [List.getElem?_modify] at hsent
  obtain ⟨o, ho, hchanged⟩ := Option.map_eq_some_iff.mp hsent
  by_cases heq : i = j
  · rw [if_pos heq] at hchanged
    cases o with
    | pending =>
      cases hchanged
      exact heq ▸ hnew
    | sent result =>
      cases hchanged
      exact h j b ho
    | closed => cases hchanged
  · rw [if_neg heq] at hchanged
    exact h j b (hchanged ▸ ho)

/-- A task goes without a result. -/
theorem Sends.drop (h : Sends P l) (i : Nat) : Sends P (l.modify i Oneshot.drop) := by
  intro j b hsent
  rw [List.getElem?_modify] at hsent
  obtain ⟨o, ho, hchanged⟩ := Option.map_eq_some_iff.mp hsent
  by_cases heq : i = j
  · rw [if_pos heq] at hchanged
    cases o with
    | pending => cases hchanged
    | sent result =>
      cases hchanged
      exact h j b ho
    | closed => cases hchanged
  · rw [if_neg heq] at hchanged
    exact h j b (hchanged ▸ ho)

end Oneshot

end BlockBuilder.Lib
