/-!
# Layered stores

An in-memory layer over a slower store: reads hit the layer first and fall
through to the store below, writes stay in the layer. revm's `CacheDB`, its
`State` with transitions and bundle state, and the caches between them are all
instances, stacked on one another.

A `Store` is what a reader sees: a fallible lookup (the bottom of the stack may
be a disk). An `Overlay` holds one decision for each key: no opinion, deleted,
or a value. `onto` reads through a layer, `stack` merges an upper layer into a
lower one, and `stack_onto` says that merging layers never changes what is read
through them. Everything proved about a stack of databases below is that lemma
and `empty_onto`.
-/

namespace BlockBuilder.Lib

variable {ε α β : Type}

/-- A fallible lookup: the reader's view of a store. -/
def Store (ε α β : Type) := α → Except ε (Option β)

/-- A layer of writes: `none` no opinion, `some none` deleted, `some (some v)` set. -/
def Overlay (α β : Type) := α → Option (Option β)

namespace Overlay

/-- Read through the layer. -/
def onto (o : Overlay α β) (s : Store ε α β) : Store ε α β := fun a =>
  match o a with
  | some v => .ok v
  | none => s a

/-- The layer without writes. -/
def empty : Overlay α β := fun _ => none

/-- The upper layer's writes merged over the lower layer's. -/
def stack (upper lower : Overlay α β) : Overlay α β := fun a =>
  match upper a with
  | some v => some v
  | none => lower a

/-- The layer of one write. -/
def single [DecidableEq α] (a : α) (v : Option β) : Overlay α β := fun x =>
  if x = a then some v else none

@[simp] theorem empty_onto (s : Store ε α β) : (empty : Overlay α β).onto s = s := rfl

/-- **Merging two layers does not change what is read through them.** -/
@[simp] theorem stack_onto (upper lower : Overlay α β) (s : Store ε α β) :
    (upper.stack lower).onto s = upper.onto (lower.onto s) := by
  funext a
  unfold onto stack
  cases upper a <;> rfl

theorem onto_of_some {o : Overlay α β} {a : α} {v : Option β} (h : o a = some v)
    (s : Store ε α β) : o.onto s a = .ok v := by
  unfold onto
  rw [h]

/-- A layer never turns a successful read into a failing one. -/
theorem onto_ok {o : Overlay α β} {s : Store ε α β} {a : α} (h : ∃ v, s a = .ok v) :
    ∃ v, o.onto s a = .ok v := by
  unfold onto
  cases o a with
  | none => exact h
  | some v => exact ⟨v, rfl⟩

end Overlay

end BlockBuilder.Lib
