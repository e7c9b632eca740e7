import Mathlib.Algebra.Order.Ring.Nat

/-!
# Trees of hashes

A tree is fixed with names at its leaves, and a value is hashed by naming what
each leaf holds: `root hash chunk t`. Two values are therefore always hashed
along one tree, and `Collision` is a place in it where the two computations hash
different pairs to the same digest. `root_binds`: equal roots are equal
leaves, unless there is such a place.

`merkleize` is the same computation without the tree, on the list of the roots
below it, padded up to a power of two; `perfect` is its tree.
-/

namespace BlockBuilder.Lib

inductive HashTree (ι : Type) where
  | leaf (i : ι)
  | node (left right : HashTree ι)

variable {ι α : Type}

namespace HashTree

def root (hash : α → α → α) (chunk : ι → α) : HashTree ι → α
  | leaf i => chunk i
  | node left right => hash (left.root hash chunk) (right.root hash chunk)

def leaves : HashTree ι → List ι
  | leaf i => [i]
  | node left right => left.leaves ++ right.leaves

/-- At some node the two computations hash different pairs to one digest. -/
def Collision (hash : α → α → α) (chunk chunk' : ι → α) : HashTree ι → Prop
  | leaf _ => False
  | node left right =>
      ((left.root hash chunk, right.root hash chunk) ≠
          (left.root hash chunk', right.root hash chunk') ∧
        hash (left.root hash chunk) (right.root hash chunk) =
          hash (left.root hash chunk') (right.root hash chunk')) ∨
      left.Collision hash chunk chunk' ∨ right.Collision hash chunk chunk'

/-- **The root binds the leaves**, as far as `hash` is free of collisions. -/
theorem root_binds {hash : α → α → α} {chunk chunk' : ι → α} (t : HashTree ι)
    (h : t.root hash chunk = t.root hash chunk') :
    (∀ i ∈ t.leaves, chunk i = chunk' i) ∨ t.Collision hash chunk chunk' := by
  induction t with
  | leaf i =>
    refine .inl fun j hj => ?_
    rw [List.mem_singleton.mp hj]
    exact h
  | node left right ihl ihr =>
    by_cases hpair : (left.root hash chunk, right.root hash chunk) =
        (left.root hash chunk', right.root hash chunk')
    · have hleft := congrArg Prod.fst hpair
      have hright := congrArg Prod.snd hpair
      rcases ihl hleft with hl | hcoll
      · rcases ihr hright with hr | hcoll
        · refine .inl fun i hi => ?_
          rcases List.mem_append.mp hi with hi | hi
          · exact hl i hi
          · exact hr i hi
        · exact .inr (.inr (.inr hcoll))
      · exact .inr (.inr (.inl hcoll))
    · exact .inr (.inl ⟨hpair, h⟩)

/-- The tree of depth `depth` over `trees`, filled up with `pad`. -/
def perfect (pad : HashTree ι) : Nat → List (HashTree ι) → HashTree ι
  | 0, trees => trees.headD pad
  | depth + 1, trees =>
      node (perfect pad depth (trees.take (2 ^ depth))) (perfect pad depth (trees.drop (2 ^ depth)))

end HashTree

/-- The root over the roots `leaves`, filled up to `2 ^ depth` with `pad`. -/
def merkleize (hash : α → α → α) (pad : α) : Nat → List α → α
  | 0, leaves => leaves.headD pad
  | depth + 1, leaves =>
      hash (merkleize hash pad depth (leaves.take (2 ^ depth)))
        (merkleize hash pad depth (leaves.drop (2 ^ depth)))

theorem HashTree.root_perfect (hash : α → α → α) (chunk : ι → α) (pad : HashTree ι) (depth : Nat)
    (trees : List (HashTree ι)) :
    (perfect pad depth trees).root hash chunk =
      merkleize hash (pad.root hash chunk) depth (trees.map (root hash chunk)) := by
  induction depth generalizing trees with
  | zero => cases trees <;> rfl
  | succ depth ih => rw [perfect, root, ih, ih, merkleize, List.map_take, List.map_drop]

end BlockBuilder.Lib
