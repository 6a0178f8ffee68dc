import Mathlib.Data.List.Perm.Basic
import ShellFlow.Failure

/-!
# Sorted by names

Items that are sorted by names of which none stands twice. What such a list is depends only on its
items, not on the order in which they were given.

* **`pairwise_mergeSort_lt`** — sorting puts the names in strict order.
* **`eq_of_perm_of_pairwise_lt`** — the items say what the sorted list is.
-/

namespace ShellFlow

variable {α : Type} {name : α → String} {l l' : List α}

/-- **Sorting puts different names in strict order.** The order on the names is all that is asked of
the items, so two items may be equal elsewhere as long as their names differ. -/
theorem pairwise_mergeSort_lt (h : (l.map name).Nodup) :
    (l.mergeSort fun a b => decide (name a ≤ name b)).Pairwise fun a b => name a < name b := by
  have hle : (l.mergeSort fun a b => decide (name a ≤ name b)).Pairwise
      fun a b => name a ≤ name b := by
    refine (List.pairwise_mergeSort ?_ ?_ l).imp fun hab => of_decide_eq_true hab
    · intro a b c hab hbc
      exact decide_eq_true (String.le_trans (of_decide_eq_true hab) (of_decide_eq_true hbc))
    · intro a b
      simpa using String.le_total (name a) (name b)
  -- sorting gives `≤` only, and no name stands twice
  have hne : (l.mergeSort fun a b => decide (name a ≤ name b)).Pairwise
      fun a b => name a ≠ name b :=
    List.pairwise_map.mp (((List.mergeSort_perm l _).map name).nodup_iff.mpr h)
  refine hle.imp₂ (fun a b hab hne => ?_) hne
  exact String.not_le.mp fun hba => hne (String.le_antisymm hab hba)

/-- **The items say what the sorted list is.** Two arrangements of the same items that are both in
strict order are the same list; a report built by sorting does not depend on the order in which its
parts were found. -/
theorem eq_of_perm_of_pairwise_lt (hperm : l.Perm l') (h : l.Pairwise fun a b => name a < name b)
    (h' : l'.Pairwise fun a b => name a < name b) : l = l' := by
  refine hperm.eq_of_pairwise ?_ h h'
  intro a b _ _ hab hba
  exact absurd (String.lt_trans hab hba) (String.lt_irrefl (name a))

/-- Names in strict order have no repetition, so a sorted report names each thing once. -/
theorem nodup_of_pairwise_lt {names : List String} (h : names.Pairwise (· < ·)) : names.Nodup := by
  refine h.imp ?_
  rintro name _ hlt rfl
  exact String.lt_irrefl name hlt

/-- Sorting loses no name and invents none. -/
theorem mem_sortNames_iff {names : List String} {s : String} :
    s ∈ Failure.sortNames names ↔ s ∈ names :=
  (List.mergeSort_perm names _).mem_iff

/-- The case of `pairwise_mergeSort_lt` where the items are the names. -/
theorem pairwise_sortNames {names : List String} (h : names.Nodup) :
    (Failure.sortNames names).Pairwise (· < ·) :=
  pairwise_mergeSort_lt (by rwa [List.map_id'])

end ShellFlow
