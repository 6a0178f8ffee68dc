import ShellFlow.Shell.Word

/-!
# Leaves of values

A value that is no list and no tuple is its own leaf. Statements about the leaves of all values go
by induction on lists and tuples, where nothing else about the kind of a value counts.
-/

namespace ShellFlow

namespace Value

def isSequence : Value → Bool
  | .list _ => true
  | .tuple _ => true
  | _ => false

/-- What holds of a list or tuple if it holds of its items, and of every other value, holds of all
values. -/
@[elab_as_elim]
theorem sequenceInduction {motive : Value → Prop}
    (list : ∀ items, (∀ item ∈ items, motive item) → motive (.list items))
    (tuple : ∀ items, (∀ item ∈ items, motive item) → motive (.tuple items))
    (leaf : ∀ v : Value, v.isSequence = false → motive v) : ∀ v, motive v
  | .list items => list items fun item _ => sequenceInduction list tuple leaf item
  | .tuple items => tuple items fun item _ => sequenceInduction list tuple leaf item
  | .null | .bool _ | .int _ | .float _ | .text _ | .mapping _ | .path _ | .bytes _ | .object _ _
  | .struct _ _ _ | .noDefault | .reference _ => leaf _ rfl

theorem leavesOfItems_eq_flatMap (items : List Value) :
    leavesOfItems items = items.flatMap leaves := by
  induction items with
  | nil => rfl
  | cons item rest ih => rw [leavesOfItems, ih, List.flatMap_cons]

@[simp]
theorem leaves_list (items : List Value) : (list items).leaves = items.flatMap leaves :=
  leavesOfItems_eq_flatMap items

@[simp]
theorem leaves_tuple (items : List Value) : (tuple items).leaves = items.flatMap leaves :=
  leavesOfItems_eq_flatMap items

/-- What is neither a list nor a tuple is its own leaf, a mapping too. -/
theorem leaves_of_not_isSequence {v : Value} (h : v.isSequence = false) : v.leaves = [v] := by
  cases v with
  | list items | tuple items => cases h
  | null | bool _ | int _ | float _ | text _ | mapping _ | path _ | bytes _ | object _ _
  | struct _ _ _ | noDefault | reference _ => rfl

/-- The leaves of a value are no lists and no tuples. -/
theorem isSequence_of_mem_leaves (v : Value) : ∀ leaf ∈ v.leaves, leaf.isSequence = false := by
  induction v using sequenceInduction with
  | list items ih | tuple items ih => simpa using fun leaf item hitem => ih item hitem leaf
  | leaf v h => simpa [leaves_of_not_isSequence h] using h

end Value

end ShellFlow
