import Mathlib.Data.List.AList

/-!
# Hash maps with `retain`

Rust's `HashMap` is Mathlib's `AList`: an association list whose keys are
distinct by construction, with `lookup`, `insert` and `erase`. `retain`, which
Mathlib does not have, keeps the entries a predicate accepts. Iteration order
is the list's; nothing proved here depends on it.

An `Index` is the multi-valued companion, a `BTreeMap` of `Vec`s. A key that is
absent and a key with an empty list answer every query alike, so it is a
function into lists.
-/

namespace BlockBuilder.Lib

universe u

variable {α : Type u} {β : Type u} [DecidableEq α]

abbrev Table (α : Type u) (β : Type u) := AList fun _ : α => β

namespace Table

/-- `HashMap::retain`. -/
def retain (p : α → β → Bool) (t : Table α β) : Table α β where
  entries := t.entries.filter fun e => p e.1 e.2
  nodupKeys := t.nodupKeys.sublist List.filter_sublist

omit [DecidableEq α] in
theorem entries_retain (p : α → β → Bool) (t : Table α β) :
    (retain p t).entries = t.entries.filter fun e => p e.1 e.2 := rfl

/-- What is retained under a key: the value that was there, if accepted. -/
theorem lookup_retain_eq_some {p : α → β → Bool} {t : Table α β} {a : α} {b : β} :
    (retain p t).lookup a = some b ↔ t.lookup a = some b ∧ p a b = true := by
  have hmem (s : Table α β) : s.lookup a = some b ↔ (⟨a, b⟩ : Sigma fun _ : α => β) ∈ s.entries :=
    List.mem_dlookup_iff s.nodupKeys
  rw [hmem, hmem, entries_retain, List.mem_filter]

theorem mem_entries {t : Table α β} {a : α} {b : β} :
    (⟨a, b⟩ : Sigma fun _ : α => β) ∈ t.entries ↔ t.lookup a = some b :=
  (List.mem_dlookup_iff t.nodupKeys).symm

/-- What an insertion leaves under a key. -/
theorem lookup_insert_eq_some {t : Table α β} {a a' : α} {b b' : β} :
    (t.insert a' b').lookup a = some b ↔ a = a' ∧ b' = b ∨ a ≠ a' ∧ t.lookup a = some b := by
  by_cases h : a = a'
  · subst h
    rw [AList.lookup_insert]
    simp
  · rw [AList.lookup_insert_ne h]
    simp [h]

/-- What an erasure leaves under a key. -/
theorem lookup_erase_eq_some {t : Table α β} {a a' : α} {b : β} :
    (t.erase a').lookup a = some b ↔ a ≠ a' ∧ t.lookup a = some b := by
  by_cases h : a = a'
  · subst h
    rw [AList.lookup_erase]
    simp
  · rw [AList.lookup_erase_ne h]
    simp [h]

/-- What the removal of keys one after another leaves under a key. -/
theorem lookup_foldl_erase (a : α) : ∀ (ks : List α) (t : Table α β),
    (ks.foldl (fun t k => t.erase k) t).lookup a = if a ∈ ks then none else t.lookup a
  | [], t => by simp
  | k :: ks, t => by
    rw [List.foldl_cons, lookup_foldl_erase a ks]
    by_cases hk : a = k
    · subst hk
      simp
    · rw [AList.lookup_erase_ne hk]
      simp [hk]

/-- `entry(key).or_insert(value)`: what is there stays. -/
def orInsert (t : Table α β) (a : α) (b : β) : Table α β :=
  match t.lookup a with
  | some _ => t
  | none => t.insert a b

theorem lookup_orInsert (t : Table α β) (a a' : α) (b : β) :
    (t.orInsert a' b).lookup a = (t.lookup a).or (if a' = a then some b else none) := by
  unfold orInsert
  split
  next held hheld =>
    by_cases h : a' = a
    · subst h
      rw [hheld]
      rfl
    · rw [if_neg h, Option.or_none]
  next hfree =>
    by_cases h : a' = a
    · subst h
      rw [AList.lookup_insert, if_pos rfl, hfree]
      rfl
    · rw [AList.lookup_insert_ne (Ne.symm h), if_neg h, Option.or_none]

/-- **The first entry of a key is the one that stays.** -/
theorem lookup_foldl_orInsert (key : β → α) (a : α) : ∀ (bs : List β) (t : Table α β),
    (bs.foldl (fun t b => t.orInsert (key b) b) t).lookup a =
      (t.lookup a).or (bs.find? fun b => key b = a)
  | [], t => by simp
  | b :: bs, t => by
    rw [List.foldl_cons, lookup_foldl_orInsert key a bs, lookup_orInsert, Option.or_assoc,
      List.find?_cons]
    by_cases h : key b = a
    · simp [h]
    · simp [h]

/-- `HashMap::len`. -/
def len (t : Table α β) : Nat := t.entries.length

omit [DecidableEq α] in
theorem len_eq (t : Table α β) : t.len = t.keys.length := (List.length_map ..).symm

end Table

/-- A `BTreeMap` from keys to lists of values. -/
def Index (κ ν : Type) := κ → List ν

namespace Index

variable {κ ν : Type} [DecidableEq κ] [DecidableEq ν]

def new : Index κ ν := fun _ => []

def get (i : Index κ ν) (k : κ) : List ν := i k

/-- `entry(key).or_default().push(value)`. -/
def insert (i : Index κ ν) (k : κ) (v : ν) : Index κ ν := fun k' =>
  if k' = k then i.get k' ++ [v] else i.get k'

/-- `retain` on the list of one key. -/
def retainAt (i : Index κ ν) (k : κ) (p : ν → Bool) : Index κ ν := fun k' =>
  if k' = k then (i.get k').filter p else i.get k'

/-- `retain` on the list of every key. -/
def retainAll (i : Index κ ν) (p : ν → Bool) : Index κ ν := fun k => (i.get k).filter p

omit [DecidableEq κ] [DecidableEq ν] in
@[simp] theorem get_new (k : κ) : (new : Index κ ν).get k = [] := rfl

omit [DecidableEq ν] in
theorem get_insert (i : Index κ ν) (k k' : κ) (v : ν) :
    (i.insert k v).get k' = if k' = k then i.get k' ++ [v] else i.get k' := rfl

omit [DecidableEq ν] in
theorem get_retainAt (i : Index κ ν) (k k' : κ) (p : ν → Bool) :
    (i.retainAt k p).get k' = if k' = k then (i.get k').filter p else i.get k' := rfl

omit [DecidableEq κ] [DecidableEq ν] in
theorem get_retainAll (i : Index κ ν) (k : κ) (p : ν → Bool) :
    (i.retainAll p).get k = (i.get k).filter p := rfl

omit [DecidableEq ν] in
theorem mem_get_insert {i : Index κ ν} {k k' : κ} {v v' : ν} :
    v' ∈ (i.insert k v).get k' ↔ v' ∈ i.get k' ∨ k' = k ∧ v' = v := by
  rw [get_insert]
  split
  next h => simp [h]
  next h => simp [h]

omit [DecidableEq ν] in
theorem mem_get_retainAt {i : Index κ ν} {k k' : κ} {p : ν → Bool} {v : ν} :
    v ∈ (i.retainAt k p).get k' ↔ v ∈ i.get k' ∧ (k' = k → p v = true) := by
  rw [get_retainAt]
  split
  next h => simp [h]
  next h => simp [h]

end Index

end BlockBuilder.Lib
